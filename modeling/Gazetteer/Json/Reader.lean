import Gazetteer.Json.Basic
import Gazetteer.Number.Decimal

/-!
# Reading JSON

The strict notation: no comments, no trailing commas, no controls in strings, no leading zeros.
Every reader takes what it reads off the front of a list of characters and returns the characters
that follow.
-/

set_option autoImplicit false

namespace Gazetteer.Json

/-! ## Blanks and words -/

/-- The characters that may stand between any two parts. -/
def isSpace (c : Char) : Bool := c = ' ' || c = '\n' || c = '\r' || c = '\t'

/-- The text without blanks in front. -/
def skipSpace (cs : List Char) : List Char := cs.dropWhile isSpace

/-- What follows a given word. -/
def after? : List Char → List Char → Option (List Char)
  | [], cs => some cs
  | _ :: _, [] => none
  | w :: word, c :: cs => if w = c then after? word cs else none

/-! ## Strings -/

/-- The number that four hexadecimal digits stand for. -/
def hex4? (a b c d : Char) : Option Nat := Whole.ofDigits? 16 [a, b, c, d]

def isHighHalf (n : Nat) : Bool := 0xD800 ≤ n && n < 0xDC00

def isLowHalf (n : Nat) : Bool := 0xDC00 ≤ n && n < 0xE000

/-- The character that a surrogate pair stands for. -/
def joinHalves (high low : Nat) : Char :=
  Char.ofNat (0x10000 + (high - 0xD800) * 0x400 + (low - 0xDC00))

/-- What a letter after a backslash stands for; the letter u is another matter. -/
def simpleEscape? (c : Char) : Option Char :=
  if c = '"' then some '"'
  else if c = '\\' then some '\\'
  else if c = '/' then some '/'
  else if c = 'b' then some (Char.ofNat 8)
  else if c = 'f' then some (Char.ofNat 12)
  else if c = 'n' then some '\n'
  else if c = 'r' then some '\r'
  else if c = 't' then some '\t'
  else none

/-- What a string is written with: characters, and numbers of 16 bits that stand for some. -/
inductive StringPart where
  | char (c : Char)
  | code (n : Nat)
  deriving DecidableEq, Repr

/-- Reads the parts of a string whose opening quote is behind us. -/
def stringParts? : List Char → Option (List StringPart × List Char)
  | [] => none
  | '"' :: rest => some ([], rest)
  | '\\' :: 'u' :: a :: b :: c :: d :: rest => do
    let n ← hex4? a b c d
    let (parts, rest) ← stringParts? rest
    return (.code n :: parts, rest)
  | '\\' :: c :: rest => do
    let e ← simpleEscape? c
    let (parts, rest) ← stringParts? rest
    return (.char e :: parts, rest)
  | c :: rest => do
    if c.toNat < 32 then none
    let (parts, rest) ← stringParts? rest
    return (.char c :: parts, rest)

/-- The text that parts stand for. There is none when half of a surrogate pair stands alone. -/
def textOfParts? : List StringPart → Option (List Char)
  | [] => some []
  | .char c :: rest => (textOfParts? rest).map (c :: ·)
  | [.code n] => if isHighHalf n || isLowHalf n then none else some [Char.ofNat n]
  | .code n :: .code m :: rest =>
    if isHighHalf n then
      if isLowHalf m then (textOfParts? rest).map (joinHalves n m :: ·) else none
    else if isLowHalf n then none
    else (textOfParts? (.code m :: rest)).map (Char.ofNat n :: ·)
  | .code n :: .char c :: rest =>
    if isHighHalf n || isLowHalf n then none
    else (textOfParts? (.char c :: rest)).map (Char.ofNat n :: ·)

/-- Reads a string whose opening quote is behind us, as an optional text. -/
def text? (cs : List Char) : Option (Option String × List Char) :=
  (stringParts? cs).map fun (parts, rest) => ((textOfParts? parts).map String.ofList, rest)

/-! ## Numbers -/

/-- Takes the digits off the front; there has to be one. -/
def digits? (cs : List Char) : Option (List Char × List Char) :=
  let run := cs.takeWhile Decimal.isDigit
  if run.isEmpty then none else some (run, cs.dropWhile Decimal.isDigit)

/-- Takes the whole part of a number off the front: a lone zero, or digits without leading zeros. -/
def wholePart? : List Char → Option (List Char × List Char)
  | '0' :: rest => some (['0'], rest)
  | cs => digits? cs

/-- Takes the places after the point off the front, if there is a point. -/
def places? : List Char → Option (List Char × List Char)
  | '.' :: rest => (digits? rest).map fun (run, rest) => ('.' :: run, rest)
  | cs => some ([], cs)

/-- Takes the exponent off the front, if there is one. -/
def exponentPart? : List Char → Option (List Char × List Char)
  | [] => some ([], [])
  | mark :: rest =>
    if mark = 'e' ∨ mark = 'E' then
      match rest with
      | '+' :: rest => (digits? rest).map fun (run, rest) => (mark :: '+' :: run, rest)
      | '-' :: rest => (digits? rest).map fun (run, rest) => (mark :: '-' :: run, rest)
      | rest => (digits? rest).map fun (run, rest) => (mark :: run, rest)
    else some ([], mark :: rest)

def number? (cs : List Char) : Option (Json × List Char) := do
  let (sign, cs) := match cs with
    | '-' :: rest => (['-'], rest)
    | cs => ([], cs)
  let (whole, cs) ← wholePart? cs
  let (places, cs) ← places? cs
  let (exponent, cs) ← exponentPart? cs
  return (.number (String.ofList (sign ++ whole ++ places ++ exponent)), cs)

/-! ## Values -/

mutual

/-- Takes a value off the front. Every character read costs a unit of fuel at most. -/
def value? : Nat → List Char → Option (Json × List Char)
  | 0, _ => none
  | fuel + 1, cs =>
    match skipSpace cs with
    | [] => none
    | '"' :: rest => (text? rest).map fun (text, rest) => (.string text, rest)
    | '[' :: rest =>
      match skipSpace rest with
      | ']' :: rest => some (.array [], rest)
      | rest => (items? fuel rest).map fun (items, rest) => (.array items, rest)
    | '\x7b' :: rest =>
      match skipSpace rest with
      | '\x7d' :: rest => some (.object [], rest)
      | rest => (members? fuel rest).map fun (members, rest) => (.object members, rest)
    | 'n' :: rest => (after? "ull".toList rest).map fun rest => (.null, rest)
    | 't' :: rest => (after? "rue".toList rest).map fun rest => (.bool true, rest)
    | 'f' :: rest => (after? "alse".toList rest).map fun rest => (.bool false, rest)
    | cs => number? cs

/-- Takes the items of an array and its end off the front; there is one item at least. -/
def items? : Nat → List Char → Option (List Json × List Char)
  | 0, _ => none
  | fuel + 1, cs => do
    let (item, rest) ← value? fuel cs
    match skipSpace rest with
    | ',' :: rest =>
      let (items, rest) ← items? fuel rest
      return (item :: items, rest)
    | ']' :: rest => return ([item], rest)
    | _ => none

/-- Takes the members of an object and its end off the front; there is one member at least. -/
def members? : Nat → List Char → Option (List (Option String × Json) × List Char)
  | 0, _ => none
  | fuel + 1, cs =>
    match skipSpace cs with
    | '"' :: rest => do
      let (name, rest) ← text? rest
      match skipSpace rest with
      | ':' :: rest =>
        let (value, rest) ← value? fuel rest
        match skipSpace rest with
        | ',' :: rest =>
          let (members, rest) ← members? fuel rest
          return ((name, value) :: members, rest)
        | '\x7d' :: rest => return ([(name, value)], rest)
        | _ => none
      | _ => none
    | _ => none

end

/-- Reads a text that holds one value and nothing else but blanks. -/
def ofString? (s : String) : Option Json := do
  let (j, rest) ← value? (s.toList.length + 1) s.toList
  if (skipSpace rest).isEmpty then return j else none

end Gazetteer.Json
