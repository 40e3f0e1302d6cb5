import Gazetteer.Text.Quoted

/-!
# JSON values and their two written forms

A value keeps what a JSON text says and nothing more: numbers as they are written, members of objects
in their order and with repetitions. A string may name half of a surrogate pair by its escapes; such
a string is well-formed but stands for no text, so the text of a string is optional.

`compact` writes without any space. `pretty` puts every item and member on a line of its own.
-/

set_option autoImplicit false

namespace Gazetteer

inductive Json where
  | null
  | bool (b : Bool)
  /-- A number in its written form. -/
  | number (literal : String)
  /-- A string, with its text if it stands for one. -/
  | string (text : Option String)
  | array (items : List Json)
  | object (members : List (Option String × Json))
  deriving Repr, Inhabited

namespace Json

def ofText (s : String) : Json := .string (some s)

def ofTexts (texts : List String) : Json := .array (texts.map ofText)

/-! ## Strings -/

/-- A character as it stands in a string. Only controls, quotes and backslashes are escaped. -/
def escapeChar (c : Char) : List Char :=
  if c = '"' then ['\\', '"']
  else if c = '\\' then ['\\', '\\']
  else if c = '\n' then ['\\', 'n']
  else if c = '\r' then ['\\', 'r']
  else if c = '\t' then ['\\', 't']
  else if c.toNat = 8 then ['\\', 'b']
  else if c.toNat = 12 then ['\\', 'f']
  else if c.toNat < 16 then ['\\', 'u', '0', '0', '0', Nat.digitChar c.toNat]
  else if c.toNat < 32 then ['\\', 'u', '0', '0', '1', Nat.digitChar (c.toNat - 16)]
  else [c]

def quote (cs : List Char) : List Char := '"' :: cs.flatMap escapeChar ++ ['"']

/-- The characters of an optional text; what stands for no text is written like the empty one. -/
def quoteText (text : Option String) : List Char := quote ((text.getD "").toList)

/-! ## Without spaces -/

mutual

def compactChars : Json → List Char
  | null => "null".toList
  | bool true => "true".toList
  | bool false => "false".toList
  | number literal => literal.toList
  | string text => quoteText text
  | array [] => ['[', ']']
  | array (item :: rest) => '[' :: compactChars item ++ compactItems rest
  | object [] => ['\x7b', '\x7d']
  | object ((name, value) :: rest) =>
    '\x7b' :: quoteText name ++ ':' :: compactChars value ++ compactMembers rest

def compactItems : List Json → List Char
  | [] => [']']
  | item :: rest => ',' :: compactChars item ++ compactItems rest

def compactMembers : List (Option String × Json) → List Char
  | [] => ['\x7d']
  | (name, value) :: rest =>
    ',' :: quoteText name ++ ':' :: compactChars value ++ compactMembers rest

end

def compact (j : Json) : String := String.ofList j.compactChars

/-! ## On lines -/

/-- A new line with two spaces for each level. -/
def newLine (depth : Nat) : String := "\n" ++ String.ofList (List.replicate (2 * depth) ' ')

mutual

/-- The value at a given depth, with everything inside on lines of its own. -/
def prettyAt (depth : Nat) : Json → String
  | array [] => "[]"
  | array (item :: rest) =>
    "[" ++ newLine (depth + 1) ++ prettyAt (depth + 1) item ++ prettyItems depth rest
  | object [] => "\x7b\x7d"
  | object ((name, value) :: rest) =>
    "\x7b" ++ newLine (depth + 1) ++ String.ofList (quoteText name) ++ ": " ++
      prettyAt (depth + 1) value ++ prettyMembers depth rest
  | null => compact null
  | bool b => compact (bool b)
  | number literal => literal
  | string text => String.ofList (quoteText text)

def prettyItems (depth : Nat) : List Json → String
  | [] => newLine depth ++ "]"
  | item :: rest =>
    "," ++ newLine (depth + 1) ++ prettyAt (depth + 1) item ++ prettyItems depth rest

def prettyMembers (depth : Nat) : List (Option String × Json) → String
  | [] => newLine depth ++ "\x7d"
  | (name, value) :: rest =>
    "," ++ newLine (depth + 1) ++ String.ofList (quoteText name) ++ ": " ++
      prettyAt (depth + 1) value ++ prettyMembers depth rest

end

/-- The value with every item and member on a line of its own. -/
def pretty (j : Json) : String := prettyAt 0 j

end Json

end Gazetteer
