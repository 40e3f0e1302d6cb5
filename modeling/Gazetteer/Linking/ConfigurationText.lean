import Gazetteer.Linking.Configuration
import Gazetteer.Number.Decimal
import Gazetteer.Yaml.Node

/-!
# Configurations as text

A configuration is written in YAML: a mapping of sections, each a mapping of settings. Sections and
settings may be missing, but none may be unknown or given twice. What is not there at all, or has
nothing written behind its name, is as if it were empty; an empty text between quotes is something
written.

Numbers and truth values count only when written plainly, or as a literal block under the tag of
their kind; names of choices and other texts may be quoted. A name may also be given as a tag in
front of nothing.
-/

set_option autoImplicit false

namespace Gazetteer

open Yaml (Document Node)

namespace ConfigurationText

/-! ## Values -/

def text? : Node → Option String
  | .scalar _ _ text => some text
  | _ => none

/-- The kinds of values that are not texts. -/
inductive ValueKind where
  | truth
  | whole
  | number
  deriving DecidableEq, Repr

/-- The tag that says of a text that it stands for a value of this kind. -/
def ValueKind.tag : ValueKind → Yaml.Tag
  | truth => .ofText "tag:yaml.org,2002:bool"
  | whole => .ofText "tag:yaml.org,2002:int"
  | number => .ofText "tag:yaml.org,2002:float"

/-- The text of a scalar that can stand for a value of a kind, judging by how it is written. -/
def valueText? (kind : ValueKind) : Node → Option String
  | .scalar _ .plain text => some text
  | .scalar (some tag) .literal text => if tag = kind.tag then some text else none
  | _ => none

/-- Whether a text stands for nothing. -/
def isNull (s : String) : Bool := ["", "~", "null", "Null", "NULL"].contains s

def bool? (n : Node) : Option Bool := do
  let s ← valueText? .truth n
  if ["true", "True", "TRUE"].contains s then some true
  else if ["false", "False", "FALSE"].contains s then some false
  else none

/-- The characters behind a given beginning. -/
def behind? (start : String) (cs : List Char) : Option (List Char) :=
  if start.toList.isPrefixOf cs then some (cs.drop start.length) else none

/--
A whole number of 64 bits: in decimal digits without leading zeros, or in another base behind a sign
for the base.
-/
def wordOfChars? (cs : List Char) : Option Nat :=
  let digits := (behind? "+" cs).getD cs
  let inBase (sign : String) (base : Nat) : Option Nat :=
    (behind? sign digits).bind (Whole.wordOfDigits? base)
  let decimal : Option Nat :=
    if digits.head? == some '0' && 1 < digits.length then none else Whole.wordOfDigits? 10 digits
  (((inBase "0x" 16).or (inBase "0o" 8)).or (inBase "0b" 2)).or decimal

/-- A whole number below a bound. -/
def wordBelow? (bound : Nat) (n : Node) : Option Nat :=
  ((valueText? .whole n).bind fun s => wordOfChars? s.toList).filter (· < bound)

def word64? (n : Node) : Option UInt64 := (wordBelow? Whole.wordBound n).map UInt64.ofNat

def word32? (n : Node) : Option UInt32 := (wordBelow? 0x100000000 n).map UInt32.ofNat

/-- The number that stands for the result of no computation. -/
def notANumber : Binary32 := ⟨0x7FC00000⟩

/--
A number in decimal notation. It is rounded to 64 bits first, where it has to be finite, and then to
32. Infinities and the value that is no number have names of their own.
-/
def binary32? (n : Node) : Option Binary32 := do
  let s ← valueText? .number n
  if [".inf", ".Inf", ".INF", "+.inf", "+.Inf", "+.INF"].contains s then
    return .ofPattern false BinaryFormat.single.infinity
  if ["-.inf", "-.Inf", "-.INF"].contains s then
    return .ofPattern true BinaryFormat.single.infinity
  if [".nan", ".NaN", ".NAN"].contains s then return notANumber
  let d ← Decimal.ofChars? s.toList
  let pattern := d.toDouble
  if pattern < BinaryFormat.double.infinity then return .ofDouble d.negative pattern else none

/--
One of several choices, by its name. The name may be that of a tag instead, with nothing behind it;
other tags are of no concern.
-/
def choice? {α : Type} (ofName? : String → Option α) : Node → Option α
  | .scalar tag style text =>
    match tag.bind Yaml.Tag.name? with
    | some name => if style = .plain ∧ isNull text then ofName? name else none
    | none => ofName? text
  | _ => none

/-! ## Sections -/

/-- An entry of a mapping with its name and with what its value stands for. -/
def namedValue? (d : Document) (entry : Node × Node) : Option (String × Node) := do
  let key ← d.resolve entry.1
  let value ← d.resolve entry.2
  return (← text? key, value)

/-- The entries of a mapping by name. Where nothing is written there are none. -/
def entries? (d : Document) : Node → Option (List (String × Node))
  | .mapping _ entries => entries.mapM (namedValue? d)
  | .scalar _ .plain "" => some []
  | _ => none

/--
Reads a section: starting from the defaults, each entry sets what its name says. No name may come
twice.
-/
def section? {α : Type} (d : Document) (defaults : α) (set? : α → String → Node → Option α)
    (n : Node) : Option α := do
  let entries ← entries? d n
  if (entries.map Prod.fst).Nodup then entries.foldlM (fun a (name, value) => set? a name value) defaults
  else none

def setEncoder? (s : EncoderSettings) (name : String) (n : Node) : Option EncoderSettings :=
  match name with
  | "dimensions" => (word64? n).map fun v => { s with dimensions := v }
  | "num_hashes" => (word64? n).map fun v => { s with hashes := v }
  | "preprocessor" => (choice? Strategy.ofName? n).map fun v => { s with strategy := v }
  | "ngram" => (word64? n).map fun v => { s with gramWidth := v }
  | "separator" => (text? n).map fun v => { s with separator := v }
  | "language" => (choice? Language.ofName? n).map fun v => { s with language := v }
  | "min_frequency" => (word32? n).map fun v => { s with minFrequency := v }
  | "min_token_length" => (word64? n).map fun v => { s with minTokenLength := v }
  | _ => none

def setIndex? (s : IndexSettings) (name : String) (n : Node) : Option IndexSettings :=
  match name with
  | "metric" => (choice? Metric.ofName? n).map fun v => { s with metric := v }
  | "allow_duplicates" => (bool? n).map fun v => { s with allowDuplicates := v }
  | "allow_partial_failure" => (bool? n).map fun v => { s with allowPartialFailure := v }
  | _ => none

def setLookup? (s : LookupSettings) (name : String) (n : Node) : Option LookupSettings :=
  match name with
  | "oversampling" => (word64? n).map fun v => { s with oversampling := v }
  | "min_similarity" => (binary32? n).map fun v => { s with minSimilarity := v }
  | _ => none

def setSection? (d : Document) (c : Configuration) (name : String) (n : Node) :
    Option Configuration :=
  match name with
  | "encoder" => (section? d {} setEncoder? n).map fun v => { c with encoder := v }
  | "index" => (section? d {} setIndex? n).map fun v => { c with index := v }
  | "knowledge_base" => (section? d {} setLookup? n).map fun v => { c with lookup := v }
  | _ => none

/-- The configuration that a document describes; a text without a document describes the defaults. -/
def ofDocument? : Option Document → Option Configuration
  | none => some {}
  | some d => section? d {} (setSection? d) d.root

end ConfigurationText

/-- Reads a configuration and makes sure that a linker can work with it. -/
def Configuration.ofText (s : String) : Except LinkError Configuration :=
  match (Document.ofText? s).bind ConfigurationText.ofDocument? with
  | none => .error (.settings .unreadable)
  | some c => do
    c.validate
    return c

end Gazetteer
