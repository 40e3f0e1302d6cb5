import Gazetteer.Number.Whole
import Gazetteer.Yaml.Cursor

/-!
# Scalars

The ways to write a text in YAML: plain, between single or double quotes, or as a block of indented
lines. Each reader starts behind the sign that announces its kind and returns the text with the place
behind it. Texts under way are kept backwards, the last character first.
-/

set_option autoImplicit false

namespace Gazetteer.Yaml

/-! ## Gaps -/

/--
A stretch of spaces and line breaks inside a text. Until the first break it stands for its spaces;
after it, spaces do not count, a single break stands for a space, and further breaks for themselves.
-/
structure Gap where
  /-- The spaces before any break, backwards. -/
  spaces : List Char := []
  /-- Whether a break has been seen. -/
  broken : Bool := false
  /-- What the first break contributes, unless it was escaped. -/
  first : Option Char := none
  /-- What the breaks after the first contribute, backwards. -/
  more : List Char := []

/-- What a gap stands for, backwards. -/
def Gap.text (g : Gap) : List Char :=
  if g.broken then
    match g.first with
    | some '\n' => if g.more.isEmpty then [' '] else g.more
    | some c => g.more ++ [c]
    | none => g.more
  else g.spaces

/-- The gap with one break more. -/
def Gap.addBreak (g : Gap) (c : Char) : Gap :=
  if g.broken then { g with more := breakText c :: g.more }
  else { broken := true, first := some (breakText c) }

/--
Takes spaces and breaks off the front. `tabsFrom` is the column before which a tab would stand in for
indentation, which it may not.
-/
def takeGap? (tabsFrom : Nat) : Nat → Cursor → Gap → Option (Gap × Cursor)
  | 0, _, _ => none
  | fuel + 1, c, g =>
    match c.head? with
    | some x =>
      if isBreak x then takeGap? tabsFrom fuel c.nextLine (g.addBreak x)
      else if isSpace x then
        if g.broken then
          if x = '\t' ∧ c.column < tabsFrom then none else takeGap? tabsFrom fuel c.next g
        else takeGap? tabsFrom fuel c.next { g with spaces := x :: g.spaces }
      else some (g, c)
    | none => some (g, c)

/-! ## Plain texts -/

/-- The signs that mean something between brackets and braces. -/
def isFlowSign (c : Char) : Bool :=
  c = ',' || c = '[' || c = ']' || c = '\x7b' || c = '\x7d'

/--
The length of the run of characters that starts a plain text or continues it. A colon ends it before
a space; between brackets the signs of brackets end it too, and a colon right before one of them, or
before a question mark, is an error.
-/
def plainRun? (inFlow : Bool) : List Char → Option Nat
  | [] => some 0
  | [c] =>
    some (if isSpace c || isBreak c || c = ':' || (inFlow && isFlowSign c) then 0 else 1)
  | c :: d :: rest =>
    if isSpace c || isBreak c then some 0
    else if inFlow && c = ':' && (isFlowSign d || d = '?') then none
    else if c = ':' && (isSpace d || isBreak d) then some 0
    else if inFlow && isFlowSign c then some 0
    else (plainRun? inFlow (d :: rest)).map (· + 1)

/--
Continues a plain text. `indent` is the least column at which a further line may start; `gap` is what
was passed since the last character of the text. Returns the text, and whether a line break was passed
behind it.
-/
def takePlain? (inFlow : Bool) (indent : Nat) :
    Nat → Cursor → Gap → List Char → Option (List Char × Bool × Cursor)
  | 0, _, _, _ => none
  | fuel + 1, c, gap, text =>
    if c.atDocumentMark || c.isAt '#' then some (text, gap.broken, c)
    else do
      let run ← plainRun? inFlow c.rest
      let (text, gap) :=
        if run = 0 then (text, gap) else ((c.rest.take run).reverse ++ gap.text ++ text, {})
      let c := c.forward run
      if !c.sees (fun x => isSpace x || isBreak x) then return (text, gap.broken, c)
      let (gap, c) ← takeGap? indent (c.rest.length + 1) c gap
      if !inFlow && c.column < indent then return (text, gap.broken, c)
      takePlain? inFlow indent fuel c gap text

/-! ## Quoted texts -/

/-- What a letter after a backslash stands for, other than those that announce a number. -/
def escape? (c : Char) : Option Char :=
  match c with
  | '0' => some (Char.ofNat 0)
  | 'a' => some (Char.ofNat 7)
  | 'b' => some (Char.ofNat 8)
  | 't' => some '\t'
  | '\t' => some '\t'
  | 'n' => some '\n'
  | 'v' => some (Char.ofNat 11)
  | 'f' => some (Char.ofNat 12)
  | 'r' => some '\r'
  | 'e' => some (Char.ofNat 27)
  | ' ' => some ' '
  | '"' => some '"'
  | '/' => some '/'
  | '\\' => some '\\'
  | 'N' => some (Char.ofNat 0x85)
  | '_' => some (Char.ofNat 0xA0)
  | 'L' => some (Char.ofNat 0x2028)
  | 'P' => some (Char.ofNat 0x2029)
  | _ => none

/-- How many hexadecimal digits follow a letter that announces a number. -/
def escapeDigits? (c : Char) : Option Nat :=
  match c with
  | 'x' => some 2
  | 'u' => some 4
  | 'U' => some 8
  | _ => none

/-- The character with a number, if there is one. -/
def charOfNumber? (n : Nat) : Option Char := if h : n.isValidChar then some (.ofNatAux n h) else none

/-- Takes what follows a backslash off the front, other than a line break. -/
def takeEscape? (c : Cursor) : Option (Char × Cursor) := do
  let letter ← c.head?
  match escapeDigits? letter with
  | none => return (← escape? letter, c.next)
  | some count =>
    let digits := c.next.rest.take count
    if digits.length < count then none
    let n ← Whole.ofDigits? 16 digits
    return (← charOfNumber? n, c.forward (count + 1))

/--
Takes the characters of a quoted text off the front, up to a space, a break, the closing quote or the
end. Returns them backwards, and whether an escaped line break ended them.
-/
def takeQuotedRun? (double : Bool) : Nat → Cursor → List Char → Option (List Char × Bool × Cursor)
  | 0, _, _ => none
  | fuel + 1, c, run =>
    match c.rest with
    | [] => some (run, false, c)
    | x :: rest =>
      if isSpace x || isBreak x then some (run, false, c)
      else if double then
        if x = '"' then some (run, false, c)
        else if x = '\\' then
          if rest.head?.any isBreak then some (run, true, c.next.nextLine)
          else do
            let (e, c) ← takeEscape? c.next
            takeQuotedRun? double fuel c (e :: run)
        else takeQuotedRun? double fuel c.next (x :: run)
      else if x = '\'' then
        if rest.head? == some '\'' then takeQuotedRun? double fuel (c.forward 2) ('\'' :: run)
        else some (run, false, c)
      else takeQuotedRun? double fuel c.next (x :: run)

/-- Reads a quoted text up to and with its closing quote. -/
def takeQuoted? (double : Bool) : Nat → Cursor → List Char → Option (List Char × Cursor)
  | 0, _, _ => none
  | fuel + 1, c, text =>
    if c.atDocumentMark || c.atEnd then none
    else do
      let (run, escaped, c) ← takeQuotedRun? double (c.rest.length + 1) c []
      let text := run ++ text
      if c.isAt (if double then '"' else '\'') then return (text, c.next)
      let (gap, c) ← takeGap? 0 (c.rest.length + 1) c { broken := escaped }
      takeQuoted? double fuel c (gap.text ++ text)

/-! ## Blocks -/

/-- What happens to the line breaks at the end of a block. -/
inductive Chomping where
  /-- None stays. -/
  | strip
  /-- The first stays. -/
  | clip
  /-- All stay. -/
  | keep
  deriving DecidableEq, Repr

/-- Takes the sign for chomping off the front. -/
def takeChomping? (c : Cursor) : Option (Chomping × Cursor) :=
  if c.isAt '+' then some (.keep, c.next) else if c.isAt '-' then some (.strip, c.next) else none

/-- Takes the digit for the indentation off the front; it may not be 0. -/
def takeIndentation? (c : Cursor) : Option (Nat × Cursor) :=
  (c.head?.bind (Whole.digit? 10)).map fun d => (d, c.next)

/-- Takes the signs for chomping and indentation off the front, in either order. -/
def takeBlockHeader (c : Cursor) : Chomping × Option Nat × Cursor :=
  match takeChomping? c with
  | some (chomping, c) =>
    match takeIndentation? c with
    | some (d, c) => (chomping, some d, c)
    | none => (chomping, none, c)
  | none =>
    match takeIndentation? c with
    | some (d, c) =>
      match takeChomping? c with
      | some (chomping, c) => (chomping, some d, c)
      | none => (.clip, some d, c)
    | none => (.clip, none, c)

/--
Takes empty lines off the front, and the indentation of the line behind them. `indent` is the
indentation of the block if it is known. Returns the breaks backwards, and the greatest indentation
that was seen.
-/
def takeBlockBreaks? (indent : Option Nat) :
    Nat → Cursor → Nat → List Char → Option (List Char × Nat × Cursor)
  | 0, _, _, _ => none
  | fuel + 1, c, widest, breaks =>
    let spaces := (c.rest.takeWhile (· = ' ')).length
    let c := c.forward ((indent.map fun i => min spaces (i - c.column)).getD spaces)
    let widest := max widest c.column
    if indent.all (c.column < ·) && c.isAt '\t' then none
    else
      match c.head? with
      | some x =>
        if isBreak x then takeBlockBreaks? indent fuel c.nextLine widest (breakText x :: breaks)
        else some (breaks, widest, c)
      | none => some (breaks, widest, c)

/--
Reads the lines of a block. `last` is the break at the end of the last line, `breaks` are those of the
empty lines since, and `wasSpaced` tells whether the last line began with a space. Unless the block is
literal, a break between two lines that do not begin with a space stands for a space, or for nothing
when empty lines follow it.
-/
def takeBlockLines? (literal : Bool) (indent : Nat) :
    Nat → Cursor → List Char → List Char → List Char → Bool →
      Option (List Char × List Char × List Char × Cursor)
  | 0, _, _, _, _, _ => none
  | fuel + 1, c, text, last, breaks, wasSpaced =>
    if c.column ≠ indent ∨ c.atEnd then some (text, last, breaks, c)
    else do
      let spaced := c.sees isSpace
      let fold := !literal && last == ['\n'] && !wasSpaced && !spaced
      let between := if fold then (if breaks.isEmpty then [' '] else []) else last
      let line := c.rest.takeWhile fun x => !isBreak x
      let text := line.reverse ++ breaks ++ between ++ text
      let c := c.forward line.length
      let last := (c.head?.map breakText).toList
      let c := if c.atEnd then c else c.nextLine
      let (breaks, _, c) ← takeBlockBreaks? (some indent) (c.rest.length + 1) c 0 []
      takeBlockLines? literal indent fuel c text last breaks spaced

/-- Reads a block behind its sign, inside a structure that is indented by `parent` at least. -/
def takeBlock? (literal : Bool) (parent : Int) (c : Cursor) : Option (List Char × Cursor) := do
  let (chomping, digit, c) := takeBlockHeader c
  if digit = some 0 then none
  let c ← c.finishLine?
  let given := digit.map fun d => (max parent 0).toNat + d
  let (breaks, widest, c) ← takeBlockBreaks? given (c.rest.length + 1) c 0 []
  let indent := given.getD (max widest (max (parent + 1) 1).toNat)
  let (text, last, breaks, c) ←
    takeBlockLines? literal indent (c.rest.length + 1) c [] [] breaks false
  return match chomping with
    | .strip => (text, c)
    | .clip => (last ++ text, c)
    | .keep => (breaks ++ last ++ text, c)

end Gazetteer.Yaml
