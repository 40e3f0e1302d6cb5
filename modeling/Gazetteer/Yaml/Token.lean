import Gazetteer.Yaml.Scalar
import Gazetteer.Yaml.Tag

/-!
# Tokens

`Token.scan?` cuts a YAML text into tokens. Indentation becomes explicit on the way: a column deeper
than that of the structure around it starts a block, and a column less deep ends blocks.

What makes this more than cutting is that a mapping need not announce its keys. A text, an alias or a
bracketed structure may turn out to have been a key when a colon follows, on the same line and not too
far away. So the place of each token that could still become a key is remembered, one for each level
of brackets, and the sign of the key, and the start of a block if need be, are put in later.
-/

set_option autoImplicit false

namespace Gazetteer.Yaml

inductive ScalarStyle where
  | plain
  | quoted
  /-- As a block whose lines stand for themselves. -/
  | literal
  /-- As a block whose lines are joined. -/
  | folded
  deriving DecidableEq, Repr

inductive Token where
  | version (major minor : Nat)
  | tagHandle (handle : String) (stands : Tag)
  | documentStart
  | documentEnd
  | blockMapping
  | blockSequence
  | blockEnd
  | flowMapping
  | flowMappingEnd
  | flowSequence
  | flowSequenceEnd
  | flowEntry
  | blockEntry
  | key
  | value
  | anchor (name : String)
  | alias (name : String)
  | tag (handle : String) (suffix : Tag)
  | scalar (style : ScalarStyle) (text : String)
  deriving DecidableEq, Repr

/-- A token that becomes a key if a colon follows in time. -/
structure PossibleKey where
  position : Nat
  index : Nat
  line : Nat
  column : Nat
  /-- Whether nothing but a key may stand there. -/
  required : Bool

structure Scan where
  cursor : Cursor
  tokens : Array Token := #[]
  /-- The possible key of each level of brackets, the innermost first; the last is outside all. -/
  keys : List (Option PossibleKey) := [none]
  /-- The column of the innermost block; -1 outside all. -/
  indent : Int := -1
  /-- The columns of the blocks around it, the nearest first. -/
  outer : List Int := []
  /-- Whether a key may begin here. -/
  keyAllowed : Bool := true

namespace Scan

/-- How far behind its beginning a key may have its colon. -/
def keyReach : Nat := 1024

def inFlow (s : Scan) : Bool := 1 < s.keys.length

def push (s : Scan) (t : Token) : Scan := { s with tokens := s.tokens.push t }

def at' (s : Scan) (c : Cursor) : Scan := { s with cursor := c }

/-! ## Blocks -/

/-- Ends the blocks that are deeper than a column. -/
def closeBlocks (s : Scan) (column : Int) : List Int → Scan
  | [] => s
  | o :: outer =>
    if column < s.indent then
      closeBlocks { s.push .blockEnd with indent := o, outer } column outer
    else s

/-- Ends the blocks that are deeper than a column, unless the scan is between brackets. -/
def unindent (s : Scan) (column : Int) : Scan :=
  if s.inFlow then s else s.closeBlocks column s.outer

/-- Starts a block at a column if it is deeper; the token goes in front of those from `position` on. -/
def startBlock (s : Scan) (column position : Nat) (t : Token) : Scan :=
  if !s.inFlow && s.indent < column then
    { s with
      tokens := s.tokens.insertIdxIfInBounds position t
      indent := column
      outer := s.indent :: s.outer }
  else s

/-! ## Possible keys -/

/-- Gives up a possible key. That is an error if a key was required there. -/
def giveUp? (k : Option PossibleKey) : Option (Option PossibleKey) :=
  if k.any PossibleKey.required then none else some none

/-- Whether the colon of a key can no longer follow. -/
def isStale (s : Scan) (k : PossibleKey) : Bool :=
  k.line < s.cursor.line || k.index + keyReach < s.cursor.index

/-- Gives up all possible keys whose colon can no longer follow. -/
def dropStale? (s : Scan) : Option Scan := do
  let keys ← s.keys.mapM fun k => if k.any s.isStale then giveUp? k else some k
  return { s with keys }

def dropKey? (s : Scan) : Option Scan :=
  match s.keys with
  | [] => some s
  | k :: rest => (giveUp? k).map fun k => { s with keys := k :: rest }

/-- Remembers that the token that comes next may be a key, if one may begin here. -/
def saveKey? (s : Scan) : Option Scan :=
  if s.keyAllowed then do
    let s ← s.dropKey?
    let c := s.cursor
    let required := !s.inFlow && s.indent == (c.column : Int)
    let k : PossibleKey := ⟨s.tokens.size, c.index, c.line, c.column, required⟩
    return { s with keys := some k :: s.keys.tail }
  else some s

/-! ## Blanks -/

/--
Passes spaces, comments and line breaks. Tabs do not count as spaces where a key may begin. Behind a
line break a key may begin, except between brackets.
-/
def skipBlank : Nat → Scan → Scan
  | 0, s => s
  | fuel + 1, s =>
    let c := s.cursor
    let c := if c.column = 0 ∧ c.isAt (Char.ofNat 0xFEFF) then c.next else c
    let c := c.skipWhile fun x => x = ' ' || (x = '\t' && (s.inFlow || !s.keyAllowed))
    let c := c.skipComment
    if c.sees isBreak then
      skipBlank fuel { s.at' c.nextLine with keyAllowed := s.keyAllowed || !s.inFlow }
    else s.at' c

/-! ## Signs -/

/-- Ends all blocks and appends a token that is alone on its line. -/
def outermost? (s : Scan) (t : Token) (c : Cursor) : Option Scan := do
  let s ← (s.unindent (-1)).dropKey?
  return { s.push t with cursor := c, keyAllowed := false }

def openFlow? (s : Scan) (t : Token) : Option Scan := do
  let s ← s.saveKey?
  return { s.push t with keys := none :: s.keys, keyAllowed := true, cursor := s.cursor.next }

def closeFlow? (s : Scan) (t : Token) : Option Scan := do
  let s ← s.dropKey?
  let keys := if s.inFlow then s.keys.tail else s.keys
  return { s.push t with keys, keyAllowed := false, cursor := s.cursor.next }

def flowEntry? (s : Scan) : Option Scan := do
  let s ← s.dropKey?
  return { s.push .flowEntry with keyAllowed := true, cursor := s.cursor.next }

def blockEntry? (s : Scan) : Option Scan := do
  if !s.inFlow && !s.keyAllowed then none
  let s := s.startBlock s.cursor.column s.tokens.size .blockSequence
  let s ← s.dropKey?
  return { s.push .blockEntry with keyAllowed := true, cursor := s.cursor.next }

/-- A question mark in front of a key. -/
def key? (s : Scan) : Option Scan := do
  if !s.inFlow && !s.keyAllowed then none
  let s := s.startBlock s.cursor.column s.tokens.size .blockMapping
  let s ← s.dropKey?
  return { s.push .key with keyAllowed := !s.inFlow, cursor := s.cursor.next }

/-- A colon. If a possible key is at hand it becomes one. -/
def value? (s : Scan) : Option Scan :=
  match s.keys with
  | some k :: rest =>
    let s := { s with
      tokens := s.tokens.insertIdxIfInBounds k.position .key
      keys := none :: rest
      keyAllowed := false }
    let s := s.startBlock k.column k.position .blockMapping
    some { s.push .value with cursor := s.cursor.next }
  | _ =>
    if !s.inFlow && !s.keyAllowed then none
    else
      let s := s.startBlock s.cursor.column s.tokens.size .blockMapping
      some { s.push .value with keyAllowed := !s.inFlow, cursor := s.cursor.next }

/-! ## Names and tags -/

def nameAhead (c : Cursor) : List Char := c.rest.takeWhile isNameChar

/-- The signs that may follow the name of an anchor without a space. -/
def endsName (c : Char) : Bool :=
  c = '?' || c = ':' || c = ',' || c = ']' || c = '\x7d' || c = '%' || c = '@' || c = Char.ofNat 0x60

/-- An anchor or an alias: a sign and a name. -/
def anchor? (s : Scan) (make : String → Token) : Option Scan := do
  let s ← s.saveKey?
  let c := s.cursor.next
  let name := nameAhead c
  let c := c.forward name.length
  if name.isEmpty || !(c.endsWordAt 0 || c.sees endsName) then none
  return { s.push (make (String.ofList name)) with keyAllowed := false, cursor := c }

/-- Takes a handle off the front: an exclamation mark, and possibly a name and another mark. -/
def takeHandle? (c : Cursor) : Option (String × Cursor) :=
  if c.isAt '!' then
    let name := nameAhead c.next
    let c := c.next.forward name.length
    if c.isAt '!' then some (String.ofList ('!' :: name ++ ['!']), c.next)
    else some (String.ofList ('!' :: name), c)
  else none

/--
Takes a tag off the front, as its handle and what follows. What follows a mark that is alone, or a
name without a second mark, may be empty, and if nothing is left then the mark itself is the tag.
-/
def takeTag? (c : Cursor) : Option (String × Tag × Cursor) :=
  if c.next.isAt '<' then do
    let (tag, c) ← Tag.take? true false (c.forward 2)
    if !c.isAt '>' then none
    return ("", tag, c.next)
  else do
    let (handle, c) ← takeHandle? c
    if 1 < handle.length && handle.endsWith "!" then
      let (suffix, c) ← Tag.take? false false c
      return (handle, suffix, c)
    else
      let (rest, c) ← Tag.take? false true c
      let suffix := Tag.ofText (String.ofList (handle.toList.drop 1)) ++ rest
      return if suffix.isEmpty then ("", Tag.ofText "!", c) else ("!", suffix, c)

def tag? (s : Scan) : Option Scan := do
  let s ← s.saveKey?
  let (handle, suffix, c) ← takeTag? s.cursor
  if !(c.endsWordAt 0 || (s.inFlow && c.isAt ',')) then none
  return { s.push (.tag handle suffix) with keyAllowed := false, cursor := c }

/-! ## Directives -/

/-- Takes a number of up to nine digits off the front. -/
def takeNumber? (c : Cursor) : Option (Nat × Cursor) := do
  let digits := c.rest.takeWhile fun x => '0' ≤ x && x ≤ '9'
  if 9 < digits.length then none
  return (← Whole.ofDigits? 10 digits, c.forward digits.length)

/-- Takes what follows the name of a directive off the front. -/
def takeDirective? (name : String) (c : Cursor) : Option (Token × Cursor) :=
  let c := c.skipWhile isSpace
  if name = "YAML" then do
    let (major, c) ← takeNumber? c
    if !c.isAt '.' then none
    let (minor, c) ← takeNumber? c.next
    return (.version major minor, c)
  else if name = "TAG" then do
    let (handle, c) ← takeHandle? c
    if !(handle = "!" || handle.endsWith "!") || !c.sees isSpace then none
    let (stands, c) ← Tag.take? true false (c.skipWhile isSpace)
    if !c.endsWordAt 0 then none
    return (.tagHandle handle stands, c)
  else none

def directive? (s : Scan) : Option Scan := do
  let c := s.cursor.next
  let name := nameAhead c
  let c := c.forward name.length
  if name.isEmpty || !c.endsWordAt 0 then none
  let (t, c) ← takeDirective? (String.ofList name) c
  s.outermost? t (← c.finishLine?)

/-! ## Scalars -/

def block? (s : Scan) (style : ScalarStyle) : Option Scan := do
  let s ← s.dropKey?
  let (text, c) ← takeBlock? (style = .literal) s.indent s.cursor.next
  return { s.push (.scalar style (String.ofList text.reverse)) with keyAllowed := true, cursor := c }

def quoted? (s : Scan) (double : Bool) : Option Scan := do
  let s ← s.saveKey?
  let c := s.cursor.next
  let (text, c) ← takeQuoted? double (c.rest.length + 1) c []
  return {
    s.push (.scalar .quoted (String.ofList text.reverse)) with keyAllowed := false, cursor := c }

def plain? (s : Scan) : Option Scan := do
  let s ← s.saveKey?
  let c := s.cursor
  let (text, broken, c) ← takePlain? s.inFlow (s.indent + 1).toNat (c.rest.length + 1) c {} []
  return {
    s.push (.scalar .plain (String.ofList text.reverse)) with keyAllowed := broken, cursor := c }

/-- The signs that announce something and so cannot begin a plain text. -/
def isSign (c : Char) : Bool :=
  "-?:,[]\x7b\x7d#&*!|>\"%@".toList.contains c || c = '\'' || c = Char.ofNat 0x60

/-- Whether a plain text can begin here. -/
def plainAhead (s : Scan) : Bool :=
  let c := s.cursor
  c.sees (fun x => !isSpace x && !isSign x) ||
    (c.isAt '-' && !(c.next.sees isSpace)) ||
    (!s.inFlow && (c.isAt '?' || c.isAt ':') && !c.endsWordAt 1)

/-! ## The whole text -/

/-- Reads the token at hand. -/
def token? (s : Scan) : Option Scan :=
  let c := s.cursor
  let alone := c.endsWordAt 1
  if c.column = 0 ∧ c.isAt '%' then s.directive?
  else if c.isMark '-' then s.outermost? .documentStart (c.forward 3)
  else if c.isMark '.' then s.outermost? .documentEnd (c.forward 3)
  else if c.isAt '[' then s.openFlow? .flowSequence
  else if c.isAt '\x7b' then s.openFlow? .flowMapping
  else if c.isAt ']' then s.closeFlow? .flowSequenceEnd
  else if c.isAt '\x7d' then s.closeFlow? .flowMappingEnd
  else if c.isAt ',' then s.flowEntry?
  else if c.isAt '-' && alone then s.blockEntry?
  else if c.isAt '?' && (s.inFlow || alone) then s.key?
  else if c.isAt ':' && (s.inFlow || alone) then s.value?
  else if c.isAt '*' then s.anchor? .alias
  else if c.isAt '&' then s.anchor? .anchor
  else if c.isAt '!' then s.tag?
  else if c.isAt '|' && !s.inFlow then s.block? .literal
  else if c.isAt '>' && !s.inFlow then s.block? .folded
  else if c.isAt '\'' then s.quoted? false
  else if c.isAt '"' then s.quoted? true
  else if s.plainAhead then s.plain?
  else none

/-- Ends the text: a key that is still required is missing. -/
def finish? (s : Scan) : Option (List Token) :=
  ((s.unindent (-1)).dropKey?).map fun s => s.tokens.toList

/-- Reads tokens up to the end of the text. -/
def run? : Nat → Scan → Option (List Token)
  | 0, _ => none
  | fuel + 1, s => do
    let s := s.skipBlank (s.cursor.rest.length + 1)
    let s ← s.dropStale?
    let s := s.unindent s.cursor.column
    if s.cursor.atEnd then s.finish?
    else run? fuel (← s.token?)

end Scan

/-- Whether a character may stand in a YAML text at all. -/
def isAllowed (c : Char) : Bool :=
  let n := c.toNat
  n = 9 || n = 10 || n = 13 || (0x20 ≤ n && n ≤ 0x7E) || n = 0x85 || (0xA0 ≤ n && n ≤ 0xFFFD) ||
    0x10000 ≤ n

def Token.scan? (s : String) : Option (List Token) :=
  if s.toList.all isAllowed then
    Scan.run? (s.toList.length + 1) { cursor := .ofText s }
  else none

end Gazetteer.Yaml
