import Gazetteer.Encoding.Strategy
import Gazetteer.SortedMap

/-!
# Vocabularies

A vocabulary is what training leaves behind: the features that occur often enough in a collection of
documents, with the number of their occurrences, and the rules by which documents were read, because
texts have to be read by the same rules later. Features outside the vocabulary count for nothing.
-/

set_option autoImplicit false

namespace Gazetteer

/-! ## How to train -/

/-- What is kept of a collection of documents. -/
structure TrainingOptions where
  /-- A feature is kept if it occurs at least so often. -/
  minFrequency : UInt32 := 1
  /-- Words with fewer characters are passed over. -/
  minTokenLength : UInt64 := 1
  language : Language := .english
  deriving DecidableEq, Repr, Inhabited

/-- What makes training impossible; the frequency is looked at first. -/
def TrainingOptions.fault? (o : TrainingOptions) : Option EncoderFault :=
  if o.minFrequency = 0 then some .noMinFrequency
  else if o.minTokenLength = 0 then some .noMinTokenLength
  else none

structure TrainingReport where
  documents : Nat
  /-- Different features in the documents. -/
  distinct : Nat
  kept : Nat
  deriving DecidableEq, Repr

/-- Features of the documents that did not make it into the vocabulary. -/
def TrainingReport.dropped (r : TrainingReport) : Nat := r.distinct - r.kept

/-! ## The vocabulary -/

/-- Features with their counts, and how texts are read. -/
structure Vocabulary where
  language : Language
  minTokenLength : UInt64
  counts : SortedMap UInt32
  deriving DecidableEq

namespace Vocabulary

/-- One more occurrence of a feature. -/
def count (counts : SortedMap UInt32) (feature : String) : SortedMap UInt32 :=
  counts.update feature fun present => present.getD 0 + 1

def tally (features : List String) : SortedMap UInt32 := features.foldl count .empty

/-- All features of a collection of documents, repetitions included. -/
def occurrences (kind : FeatureKind) (o : TrainingOptions) (documents : List String) :
    List String :=
  documents.flatMap fun d => kind.features d o.language o.minTokenLength

/-- The vocabulary of a collection of documents, and how many different features these have. -/
def train (kind : FeatureKind) (o : TrainingOptions) (documents : List String) :
    Vocabulary × Nat :=
  let counts := tally (occurrences kind o documents)
  (⟨o.language, o.minTokenLength, counts.filter (o.minFrequency ≤ ·)⟩, counts.size)

def contains (v : Vocabulary) (feature : String) : Bool := v.counts.contains feature

/-- How often a feature occurred, if it is in the vocabulary. -/
def frequency? (v : Vocabulary) (feature : String) : Option UInt32 := v.counts.get? feature

def size (v : Vocabulary) : Nat := v.counts.size

end Vocabulary

end Gazetteer
