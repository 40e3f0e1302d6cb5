import Gazetteer.Digest.Blake3
import Gazetteer.Encoding.TextEncoder

/-!
# Encoding by buckets

Every feature of the vocabulary is hashed, a few words of its digest each pick one component of the
vector, and one is added there. Two features may pick the same component; that costs a little
accuracy and buys vectors of a fixed width. The vector is not normalized, so vectors of parts can be
added.
-/

set_option autoImplicit false

namespace Gazetteer

/-! ## Shapes -/

/-- What is fixed about an encoder before it sees any text. -/
structure Shape where
  dimensions : UInt64 := 512
  /-- How many components each feature picks. -/
  hashes : UInt64 := 4
  kind : FeatureKind := .grams 3
  deriving DecidableEq, Repr, Inhabited

/-- The first thing wrong with a shape, if anything is. -/
def Shape.fault? (s : Shape) : Option EncoderFault :=
  if s.dimensions = 0 then some .noDimensions
  else if s.hashes = 0 ∨ maxHashes < s.hashes.toNat then some (.hashCount s.hashes)
  else s.kind.fault?

/-! ## The encoder -/

/-- A shape without fault and, once trained or loaded, a vocabulary. -/
structure BucketEncoder where
  shape : Shape
  vocabulary : Option Vocabulary
  sound : shape.fault? = none
  deriving DecidableEq

namespace BucketEncoder

/-- The encoder of a shape, with or without a vocabulary, unless the shape has a fault. -/
def ofShape (shape : Shape) (vocabulary : Option Vocabulary := none) :
    Except EncoderError BucketEncoder :=
  match h : shape.fault? with
  | none => .ok ⟨shape, vocabulary, h⟩
  | some fault => .error (.invalid fault)

/-! ## Buckets -/

/-- The `i`-th word of a digest, least significant byte first. -/
def digestWord (digest : Vector UInt8 32) (i : Nat) : Nat :=
  Bytes.toNat ((digest.toList.drop (4 * i)).take 4)

/-- The components that a feature picks, in the order of the words that pick them. -/
def buckets (e : BucketEncoder) (feature : String) : List Nat :=
  let digest := Blake3.hash (Bytes.ofText feature)
  (List.range e.shape.hashes.toNat).map fun i => digestWord digest i % e.shape.dimensions.toNat

/-- Whether a feature is in the vocabulary; an untrained encoder has none. -/
def knows (e : BucketEncoder) (feature : String) : Bool :=
  e.vocabulary.any fun v => v.contains feature

def vocabularySize (e : BucketEncoder) : Nat := e.vocabulary.elim 0 Vocabulary.size

/-! ## Encoding -/

/-- The vector of no feature at all. -/
def blank (e : BucketEncoder) : DenseVector := Array.replicate e.shape.dimensions.toNat .zero

/-- The features of a text that count, repetitions included. -/
def knownFeatures (e : BucketEncoder) (v : Vocabulary) (text : String) : List String :=
  (e.shape.kind.features text v.language v.minTokenLength).filter v.contains

/-- Adds one at every component that one of the features picks. -/
def addFeatures (e : BucketEncoder) (vector : DenseVector) (features : List String) : DenseVector :=
  (features.flatMap e.buckets).foldl (fun acc b => acc.modify b (· + Binary32.one)) vector

/-- Adds the features of a text to a vector. -/
def addText (e : BucketEncoder) (v : Vocabulary) (vector : DenseVector) (text : String) :
    DenseVector :=
  e.addFeatures vector (e.knownFeatures v text)

/-- The vector of a text: the sum of its parts, of which a plain text has one. -/
def encodeParts (e : BucketEncoder) (parts : List String) : Except EncoderError DenseVector :=
  match e.vocabulary with
  | none => .error .untrained
  | some v => .ok (parts.foldl (e.addText v) e.blank)

/-! ## Training -/

/-- Replaces the vocabulary by that of the documents. -/
def trainOn (e : BucketEncoder) (documents : List String) (o : TrainingOptions) :
    Step BucketEncoder EncoderError TrainingReport :=
  match o.fault? with
  | some fault => .refuse e (.invalid fault)
  | none =>
    let (vocabulary, distinct) := Vocabulary.train e.shape.kind o documents
    let report : TrainingReport := ⟨documents.length, distinct, vocabulary.size⟩
    ⟨{ e with vocabulary := some vocabulary },
      [.trainingStarted documents.length, .vocabularyFixed report.kept report.dropped],
      .ok report⟩

instance : TextEncoder BucketEncoder where
  dimensions e := e.shape.dimensions.toNat
  isReady e := e.vocabulary.isSome
  encode e text := e.encodeParts [text]
  train := trainOn

end BucketEncoder

end Gazetteer
