import Gazetteer.Text.Words

/-!
# Languages

A language contributes its *stop words*: articles, prepositions and conjunctions that say nothing
about which thing a name stands for. They are dropped from the words of a text.
-/

set_option autoImplicit false

namespace Gazetteer

/-- The language of the names, as far as stop words go. -/
inductive Language where
  | english
  | german
  | french
  | spanish
  /-- No particular language: no word is a stop word. -/
  | unspecified
  deriving DecidableEq, Repr, Inhabited

namespace Language

/-- The words that carry no meaning of their own. -/
def stopWords : Language → List String
  | english => ["a", "an", "and", "at", "by", "for", "in", "of", "on", "or", "the", "to", "with"]
  | german =>
    ["der", "die", "das", "den", "dem", "des", "ein", "eine", "und", "oder", "von", "zu", "mit",
      "im", "am"]
  | french =>
    ["le", "la", "les", "l", "un", "une", "de", "du", "des", "d", "et", "ou", "au", "aux", "en"]
  | spanish => ["el", "la", "los", "las", "un", "una", "de", "del", "y", "o", "en", "al"]
  | unspecified => []

/-- Whether a word is a stop word. Stop words are in normal spelling, so the word has to be too. -/
def isStopWord (language : Language) (word : String) : Bool := language.stopWords.contains word

/-- The name of a language as it stands in a configuration. -/
def name : Language → String
  | english => "english"
  | german => "german"
  | french => "french"
  | spanish => "spanish"
  | unspecified => "none"

/-- All languages, in the order in which saved encoders number them. -/
def all : List Language := [english, german, french, spanish, unspecified]

def ofName? (s : String) : Option Language := all.find? fun l => l.name == s

/-- The spelling under which a language is looked up: lower case, no blanks at the ends. -/
def lookupName (s : String) : String := Text.lower (Text.trim s)

/--
Reads a language as a person may write it: its name or its two-letter code, in any case and with
blanks around it. Nothing at all stands for no particular language.
-/
def ofText? (s : String) : Option Language :=
  match lookupName s with
  | "en" => some english
  | "de" => some german
  | "fr" => some french
  | "es" => some spanish
  | "" => some unspecified
  | other => ofName? other

end Language

/-- The words of a text without the stop words of the language, in order. -/
def tokenize (s : String) (language : Language) : List String :=
  ((Text.splitBlank (Text.normalize s).toList).map String.ofList).filter fun w =>
    !language.isStopWord w

end Gazetteer
