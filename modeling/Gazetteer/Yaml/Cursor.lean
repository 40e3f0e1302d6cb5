/-!
# A place in a text

The structure of a YAML text depends on where its parts stand: on their column, and on whether two of
them stand on one line. A `Cursor` is the text that is left together with that place.
-/

set_option autoImplicit false

namespace Gazetteer.Yaml

/-- The characters ahead, and the place of the first of them. -/
structure Cursor where
  rest : List Char
  index : Nat := 0
  line : Nat := 0
  column : Nat := 0

def isBreak (c : Char) : Bool :=
  c = '\n' || c = '\r' || c.toNat = 0x85 || c.toNat = 0x2028 || c.toNat = 0x2029

def isSpace (c : Char) : Bool := c = ' ' || c = '\t'

namespace Cursor

def ofText (s : String) : Cursor := { rest := s.toList }

def head? (c : Cursor) : Option Char := c.rest.head?

/-- Whether the character ahead is a given one. -/
def isAt (c : Cursor) (x : Char) : Bool := c.rest.head? == some x

/-- Whether the character ahead passes a test. -/
def sees (c : Cursor) (test : Char → Bool) : Bool := c.rest.head?.any test

def atEnd (c : Cursor) : Bool := c.rest.isEmpty

/-- Whether the `n`-th character ahead is a space, a tab, the end of a line or that of the text. -/
def endsWordAt (c : Cursor) (n : Nat) : Bool := (c.rest[n]?).all fun x => isSpace x || isBreak x

/-- The place behind `n` characters of the same line. -/
def forward (c : Cursor) (n : Nat) : Cursor :=
  { c with rest := c.rest.drop n, index := c.index + n, column := c.column + n }

/-- The place behind the next character of the same line. -/
def next (c : Cursor) : Cursor := c.forward 1

/-- The place behind the line break ahead. A return and a line feed are one break. -/
def nextLine (c : Cursor) : Cursor :=
  match c.rest with
  | '\r' :: '\n' :: rest => { rest, index := c.index + 2, line := c.line + 1 }
  | rest => { rest := rest.drop 1, index := c.index + 1, line := c.line + 1 }

/-- The place behind all characters of this line that pass a test. -/
def skipWhile (c : Cursor) (test : Char → Bool) : Cursor :=
  c.forward (c.rest.takeWhile test).length

/-- The place at the end of this line. -/
def skipLine (c : Cursor) : Cursor := c.skipWhile fun x => !isBreak x

/-- Whether three equal characters start this line and form a word. -/
def isMark (c : Cursor) (x : Char) : Bool :=
  c.column == 0 && c.rest.take 3 == [x, x, x] && c.endsWordAt 3

/-- Whether this line is where a document starts or ends. -/
def atDocumentMark (c : Cursor) : Bool := c.isMark '-' || c.isMark '.'

/-- Passes a comment, if there is one, up to the end of the line. -/
def skipComment (c : Cursor) : Cursor := if c.isAt '#' then c.skipLine else c

/-- Passes spaces and a comment up to the end of the line, which has to come next. -/
def finishLine? (c : Cursor) : Option Cursor :=
  let c := (c.skipWhile isSpace).skipComment
  if c.atEnd then some c else if c.sees isBreak then some c.nextLine else none

end Cursor

/--
What a line break contributes to a text. The separators of lines and paragraphs stand for themselves,
all other breaks for a line feed.
-/
def breakText (c : Char) : Char := if c.toNat = 0x2028 ∨ c.toNat = 0x2029 then c else '\n'

end Gazetteer.Yaml
