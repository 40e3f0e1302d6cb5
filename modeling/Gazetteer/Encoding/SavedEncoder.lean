import Gazetteer.Encoding.Settings

/-!
# Saved encoders

A trained encoder is its shape, its vocabulary and, if it works part by part, its separator. In bytes
these follow one another in a fixed order, behind a version number: numbers of fixed width with the
least significant byte first, choices by number, texts and lists behind their length.

`ofBytes` reads what `toBytes` writes. It is more liberal in two ways: bytes after the last field are
of no concern, and features may come in any order and more than once, the last count standing.
-/

set_option autoImplicit false

namespace Gazetteer

/-- All that makes up a trained encoder. -/
structure SavedEncoder where
  version : UInt32
  shape : Shape
  vocabulary : Vocabulary
  separator : Option String
  deriving DecidableEq

namespace SavedEncoder

open Bytes

/-! ## Writing -/

def putWord32 (n : UInt32) : List UInt8 := ofNat 4 n.toNat

def putWord64 (n : UInt64) : List UInt8 := ofNat 8 n.toNat

/-- A kind of features: its number, and the width of pieces if it has one. -/
def putKind : FeatureKind → List UInt8
  | .words => putWord32 0
  | .grams width => putWord32 1 ++ putWord64 width

def languageNumber : Language → UInt32
  | .english => 0
  | .german => 1
  | .french => 2
  | .spanish => 3
  | .unspecified => 4

def putEntry (entry : String × UInt32) : List UInt8 := putText entry.1 ++ putWord32 entry.2

/-- A vocabulary: how texts are read, then the features in their order. -/
def putVocabulary (v : Vocabulary) : List UInt8 :=
  putWord32 (languageNumber v.language) ++ putWord64 v.minTokenLength ++
    ofNat 8 v.counts.size ++ v.counts.entries.flatMap putEntry

/-- A text that may be missing: a byte that tells, and the text. -/
def putOptionalText : Option String → List UInt8
  | none => [0]
  | some s => 1 :: putText s

def toBytes (m : SavedEncoder) : List UInt8 :=
  putWord32 m.version ++ putWord64 m.shape.dimensions ++ putWord64 m.shape.hashes ++
    putKind m.shape.kind ++ putVocabulary m.vocabulary ++ putOptionalText m.separator

/-! ## Reading -/

def takeWord32? (bytes : List UInt8) : Option (UInt32 × List UInt8) :=
  (takeNat? 4 bytes).map fun (n, rest) => (UInt32.ofNat n, rest)

def takeWord64? (bytes : List UInt8) : Option (UInt64 × List UInt8) :=
  (takeNat? 8 bytes).map fun (n, rest) => (UInt64.ofNat n, rest)

def takeKind? (bytes : List UInt8) : Option (FeatureKind × List UInt8) := do
  let (number, bytes) ← takeWord32? bytes
  if number = 0 then return (.words, bytes)
  else if number = 1 then
    let (width, bytes) ← takeWord64? bytes
    return (.grams width, bytes)
  else none

def languageOfNumber? (number : UInt32) : Option Language := Language.all[number.toNat]?

/-- Takes a given number of features and their counts off the front. -/
def takeEntries? : Nat → List UInt8 → Option (List (String × UInt32) × List UInt8)
  | 0, bytes => some ([], bytes)
  | n + 1, bytes => do
    let (feature, bytes) ← takeText? bytes
    let (count, bytes) ← takeWord32? bytes
    let (entries, bytes) ← takeEntries? n bytes
    return ((feature, count) :: entries, bytes)

def takeVocabulary? (bytes : List UInt8) : Option (Vocabulary × List UInt8) := do
  let (number, bytes) ← takeWord32? bytes
  let language ← languageOfNumber? number
  let (minTokenLength, bytes) ← takeWord64? bytes
  let (size, bytes) ← takeNat? 8 bytes
  let (entries, bytes) ← takeEntries? size bytes
  return (⟨language, minTokenLength, .ofList entries⟩, bytes)

/-- Takes a text that may be missing off the front. -/
def takeOptionalText? : List UInt8 → Option (Option String × List UInt8)
  | 0 :: bytes => some (none, bytes)
  | 1 :: bytes => (takeText? bytes).map fun (s, bytes) => (some s, bytes)
  | _ => none

/-- Takes a saved encoder of any version off the front. -/
def take? (bytes : List UInt8) : Option (SavedEncoder × List UInt8) := do
  let (version, bytes) ← takeWord32? bytes
  let (dimensions, bytes) ← takeWord64? bytes
  let (hashes, bytes) ← takeWord64? bytes
  let (kind, bytes) ← takeKind? bytes
  let (vocabulary, bytes) ← takeVocabulary? bytes
  let (separator, bytes) ← takeOptionalText? bytes
  return (⟨version, ⟨dimensions, hashes, kind⟩, vocabulary, separator⟩, bytes)

/--
Reads a saved encoder. The bytes have to be complete before the version is looked at, and bytes that
follow are ignored.
-/
def ofBytes (bytes : List UInt8) : Except EncoderError SavedEncoder :=
  match take? bytes with
  | none => .error .malformed
  | some (m, _) => if m.version = savedVersion then .ok m else .error (.version m.version)

/-! ## Files -/

def save (m : SavedEncoder) (storage : Storage) (path : String) : Except EncoderError Storage :=
  (storage.write path m.toBytes).mapError (.storage path)

def load (read : FileReader) (path : String) : Except EncoderError SavedEncoder := do
  ofBytes (← (read path).mapError (.storage path))

/-! ## From and to encoders -/

/-- The encoder without regard to a separator. -/
def toBucketEncoder (m : SavedEncoder) : Except EncoderError BucketEncoder :=
  BucketEncoder.ofShape m.shape (some m.vocabulary)

/-- The encoder that was saved, ready to encode. -/
def toEncoder (m : SavedEncoder) : Except EncoderError Encoder := do
  let base ← m.toBucketEncoder
  match m.separator with
  | some separator => return .parts (← PartsEncoder.ofBase base separator)
  | none => return .whole base

end SavedEncoder

/-- What is to be saved of a trained encoder. -/
def BucketEncoder.toSaved (e : BucketEncoder) : Except EncoderError SavedEncoder :=
  match e.vocabulary with
  | none => .error .untrained
  | some v => .ok ⟨savedVersion, e.shape, v, none⟩

/-- What is to be saved of a trained encoder that works part by part. -/
def PartsEncoder.toSaved (e : PartsEncoder) : Except EncoderError SavedEncoder := do
  return { (← e.base.toSaved) with separator := some e.separator }

/-- What is to be saved of whichever encoder it is. -/
def Encoder.toSaved : Encoder → Except EncoderError SavedEncoder
  | .whole e => e.toSaved
  | .parts e => e.toSaved

end Gazetteer
