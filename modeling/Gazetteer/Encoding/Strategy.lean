import Gazetteer.Encoding.Fault
import Gazetteer.Text.Language

/-!
# Strategies and features

An encoder sees a name through its *features*. The plain kind takes the words themselves. The other
kind marks where a word begins and ends and adds to the whole word all its pieces of a fixed length,
so that names spelled almost alike share most of their features.

A *strategy* is the name under which a configuration asks for one of these, or for the second kind
applied to the parts of a name one by one.
-/

set_option autoImplicit false

namespace Gazetteer

/-! ## Features -/

/-- How words become features. -/
inductive FeatureKind where
  /-- Each word is a feature. -/
  | words
  /-- Each word between marks is a feature, and so is each of its pieces of the given width. -/
  | grams (width : UInt64)
  deriving DecidableEq, Repr

namespace FeatureKind

/-- What makes a kind of features unusable: pieces without a character. -/
def fault? : FeatureKind → Option EncoderFault
  | words => none
  | grams width => if width = 0 then some .noGramWidth else none

/-- The stretches of a given width, from left to right. -/
def windows {α : Type} (width : Nat) : List α → List (List α)
  | [] => []
  | a :: rest =>
    if width ≤ rest.length + 1 then (a :: rest).take width :: windows width rest else []

/-- A word between the marks of its beginning and its end. -/
def marked (word : String) : List Char := '<' :: word.toList ++ ['>']

/--
The features of one word: the marked word, and its pieces unless the whole is no longer than one
piece would be.
-/
def gramsOf (width : Nat) (word : String) : List String :=
  let whole := marked word
  String.ofList whole ::
    if whole.length ≤ width then [] else (windows width whole).map String.ofList

/-- The features of a text in order, repetitions included. Words that are too short have none. -/
def features (kind : FeatureKind) (text : String) (language : Language) (minTokenLength : UInt64) :
    List String :=
  let words := (tokenize text language).filter fun w => minTokenLength.toNat ≤ w.length
  match kind with
  | .words => words
  | .grams width => words.flatMap (gramsOf width.toNat)

end FeatureKind

/-! ## Strategies -/

/-- The ways to encode that a configuration can name. -/
inductive Strategy where
  | words
  | entity
  /-- Names have several parts, and the parts are encoded one by one. -/
  | aspect
  deriving DecidableEq, Repr, Inhabited

namespace Strategy

/-- The name of a strategy as it stands in a configuration. -/
def name : Strategy → String
  | words => "words"
  | entity => "entity"
  | aspect => "aspect"

def all : List Strategy := [words, entity, aspect]

def ofName? (s : String) : Option Strategy := all.find? fun k => k.name == s

/-- Reads the name of a strategy in any case and with blanks around it. -/
def read (s : String) : Except EncoderError Strategy :=
  let name := Language.lookupName s
  match ofName? name with
  | some k => .ok k
  | none => .error (.invalid (.unknownStrategy name))

end Strategy

/-- Reads a language in any of its spellings. -/
def Language.read (s : String) : Except EncoderError Language :=
  match Language.ofText? s with
  | some l => .ok l
  | none => .error (.invalid (.unknownLanguage (Language.lookupName s)))

end Gazetteer
