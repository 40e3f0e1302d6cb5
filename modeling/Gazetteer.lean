import Gazetteer.Bytes
import Gazetteer.Digest.Blake3
import Gazetteer.Encoding.BucketEncoder
import Gazetteer.Encoding.Fault
import Gazetteer.Encoding.PartsEncoder
import Gazetteer.Encoding.SavedEncoder
import Gazetteer.Encoding.Settings
import Gazetteer.Encoding.Strategy
import Gazetteer.Encoding.TextEncoder
import Gazetteer.Encoding.Vocabulary
import Gazetteer.Entity.Basic
import Gazetteer.Entity.Record
import Gazetteer.Index.Fault
import Gazetteer.Index.KeyRegistry
import Gazetteer.Index.Metric
import Gazetteer.Index.Ranking
import Gazetteer.Index.VectorIndex
import Gazetteer.Json.Basic
import Gazetteer.Json.Reader
import Gazetteer.Linking.AliasKey
import Gazetteer.Linking.Catalog
import Gazetteer.Linking.Configuration
import Gazetteer.Linking.ConfigurationFile
import Gazetteer.Linking.ConfigurationText
import Gazetteer.Linking.Fault
import Gazetteer.Linking.Linker
import Gazetteer.Main
import Gazetteer.Number.Binary32
import Gazetteer.Number.BinaryFormat
import Gazetteer.Number.Decimal
import Gazetteer.Number.Whole
import Gazetteer.Progress
import Gazetteer.Proofs.Encoding.AnyCase
import Gazetteer.Proofs.Encoding.Counting
import Gazetteer.Proofs.Encoding.FailedTraining
import Gazetteer.Proofs.Encoding.GuardedEncoding
import Gazetteer.Proofs.Encoding.JoinedTexts
import Gazetteer.Proofs.Encoding.Loading
import Gazetteer.Proofs.Encoding.OtherVersions
import Gazetteer.Proofs.Encoding.SavedBytes
import Gazetteer.Proofs.Encoding.SharedFeatures
import Gazetteer.Proofs.Encoding.SpacedParts
import Gazetteer.Proofs.Encoding.Training
import Gazetteer.Proofs.Encoding.TrainingOrder
import Gazetteer.Proofs.Encoding.WholeWords
import Gazetteer.Proofs.Entity.AliasOrder
import Gazetteer.Proofs.Entity.Normalizing
import Gazetteer.Proofs.Entity.RecordTexts
import Gazetteer.Proofs.Fallible
import Gazetteer.Proofs.Index.Building
import Gazetteer.Proofs.Index.CountVectors
import Gazetteer.Proofs.Index.EarlyStops
import Gazetteer.Proofs.Index.KeyCalls
import Gazetteer.Proofs.Index.Nearest
import Gazetteer.Proofs.Index.Ranking
import Gazetteer.Proofs.Index.Registration
import Gazetteer.Proofs.Index.Runs
import Gazetteer.Proofs.Index.Searching
import Gazetteer.Proofs.Index.SelfSimilarity
import Gazetteer.Proofs.Index.SimilarityRange
import Gazetteer.Proofs.Index.Ties
import Gazetteer.Proofs.Json.ReadingBack
import Gazetteer.Proofs.Linking.AliasKeys
import Gazetteer.Proofs.Linking.Answers
import Gazetteer.Proofs.Linking.CandidateRange
import Gazetteer.Proofs.Linking.Cataloging
import Gazetteer.Proofs.Linking.Completeness
import Gazetteer.Proofs.Linking.EntityTables
import Gazetteer.Proofs.Linking.FailedRequests
import Gazetteer.Proofs.Linking.Finding
import Gazetteer.Proofs.Linking.FreshStarts
import Gazetteer.Proofs.Linking.KeyTexts
import Gazetteer.Proofs.Linking.KeysInUse
import Gazetteer.Proofs.Linking.KnownAliases
import Gazetteer.Proofs.Linking.LongerAnswers
import Gazetteer.Proofs.Linking.Rebuilding
import Gazetteer.Proofs.Linking.Reloading
import Gazetteer.Proofs.Linking.Runs
import Gazetteer.Proofs.Linking.Serving
import Gazetteer.Proofs.Linking.Stages
import Gazetteer.Proofs.Linking.Thresholds
import Gazetteer.Proofs.Linking.ValidConfigurations
import Gazetteer.Proofs.Number.Bounds
import Gazetteer.Proofs.Number.Counts
import Gazetteer.Proofs.Number.Magnitudes
import Gazetteer.Proofs.Number.NotANumber
import Gazetteer.Proofs.Number.RelativeError
import Gazetteer.Proofs.Number.Rounding
import Gazetteer.Proofs.Number.Signs
import Gazetteer.Proofs.Number.TotalOrder
import Gazetteer.Proofs.SortedMaps
import Gazetteer.Proofs.Text.Blanks
import Gazetteer.Proofs.Text.ByteOrder
import Gazetteer.Proofs.Text.CaseVariants
import Gazetteer.Proofs.Text.CodePointBits
import Gazetteer.Proofs.Text.ComposedTexts
import Gazetteer.Proofs.Text.Composing
import Gazetteer.Proofs.Text.Decompositions
import Gazetteer.Proofs.Text.DottedCapitals
import Gazetteer.Proofs.Text.FirstDifference
import Gazetteer.Proofs.Text.LetterTables
import Gazetteer.Proofs.Text.LoweredTexts
import Gazetteer.Proofs.Text.NormalSpellings
import Gazetteer.Proofs.Text.SmallLetters
import Gazetteer.Proofs.Text.Splitting
import Gazetteer.Proofs.Text.Tokens
import Gazetteer.Proofs.Text.Words
import Gazetteer.Query.Answer
import Gazetteer.Query.Arguments
import Gazetteer.Query.Run
import Gazetteer.SortedMap
import Gazetteer.Storage
import Gazetteer.Storage.Fault
import Gazetteer.Storage.Path
import Gazetteer.Text.Alphanumeric
import Gazetteer.Text.Blank
import Gazetteer.Text.CodePoints
import Gazetteer.Text.CombiningClass
import Gazetteer.Text.CompatibilityForm
import Gazetteer.Text.Composition
import Gazetteer.Text.Decomposition
import Gazetteer.Text.Decomposition.EastAsian
import Gazetteer.Text.Decomposition.Ideographs
import Gazetteer.Text.Decomposition.Latin
import Gazetteer.Text.Decomposition.Mathematical
import Gazetteer.Text.Decomposition.Presentation
import Gazetteer.Text.Decomposition.Supplement
import Gazetteer.Text.Decomposition.Symbols
import Gazetteer.Text.Hangul
import Gazetteer.Text.Language
import Gazetteer.Text.LetterCase
import Gazetteer.Text.Parts
import Gazetteer.Text.Quoted
import Gazetteer.Text.Visibility
import Gazetteer.Text.Words
import Gazetteer.Yaml.Cursor
import Gazetteer.Yaml.Node
import Gazetteer.Yaml.Scalar
import Gazetteer.Yaml.Tag
import Gazetteer.Yaml.Token
