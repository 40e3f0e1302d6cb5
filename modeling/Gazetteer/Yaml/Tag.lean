import Gazetteer.Bytes
import Gazetteer.Number.Whole
import Gazetteer.Yaml.Cursor

/-!
# Tags

A tag tells the kind of a node. It is made of bytes and need not be text: behind a percent sign a
byte is given by its digits. Such bytes have to look like characters, in that a first byte says how
many more belong to it, but which character they would be, and whether there is one, is not asked.

Among these bytes may be zeros. A tag ends before the first zero byte, though what follows has to be
written correctly.
-/

set_option autoImplicit false

namespace Gazetteer.Yaml

/-- The bytes of a tag or of a part of one. -/
abbrev Tag := List UInt8

def isNameChar (c : Char) : Bool :=
  ('0' ≤ c && c ≤ '9') || ('A' ≤ c && c ≤ 'Z') || ('a' ≤ c && c ≤ 'z') || c = '_' || c = '-'

namespace Tag

def ofText (s : String) : Tag := Bytes.ofText s

/-- The tag as far as it counts. -/
def untilZero (t : Tag) : Tag := t.takeWhile (· ≠ 0)

/--
The name that a tag of the document's own carries behind its exclamation mark. The mark alone is a
name too. A tag that is no text carries no name.
-/
def name? : Tag → Option String
  | [0x21] => some "!"
  | 0x21 :: name => Bytes.toText? name
  | _ => none

/-! ## Reading -/

/-- The characters that tags are made of; some only where a tag is written out in full. -/
def isTagChar (full : Bool) (c : Char) : Bool :=
  isNameChar c || ";/?:@&=+$.!~*()".toList.contains c || c = '\'' ||
    (full && (c = ',' || c = '[' || c = ']'))

/-- How many bytes belong to a first byte, if it is one. -/
def following? (b : UInt8) : Option Nat :=
  if b < 0x80 then some 0
  else if b < 0xC0 then none
  else if b < 0xE0 then some 1
  else if b < 0xF0 then some 2
  else if b < 0xF8 then some 3
  else none

/-- Whether a byte belongs to a first byte before it. -/
def isFollowing (b : UInt8) : Bool := 0x80 ≤ b && b < 0xC0

/-- Takes a byte that is given by its digits off the front. -/
def takeByte? (c : Cursor) : Option (UInt8 × Cursor) :=
  match c.rest with
  | '%' :: a :: b :: _ => (Whole.ofDigits? 16 [a, b]).map fun n => (UInt8.ofNat n, c.forward 3)
  | _ => none

/-- Takes a number of bytes that belong to a first byte off the front. -/
def takeFollowing? : Nat → Cursor → Option (Tag × Cursor)
  | 0, c => some ([], c)
  | n + 1, c => do
    let (b, c) ← takeByte? c
    if !isFollowing b then none
    let (bytes, c) ← takeFollowing? n c
    return (b :: bytes, c)

/-- Takes a first byte and what belongs to it off the front. -/
def takeEscaped? (c : Cursor) : Option (Tag × Cursor) := do
  let (b, c) ← takeByte? c
  let (bytes, c) ← takeFollowing? (← following? b) c
  return (b :: bytes, c)

/-- Takes the characters and bytes of a tag off the front. -/
def takeBytes? (full : Bool) : Nat → Cursor → Option (Tag × Cursor)
  | 0, _ => none
  | fuel + 1, c =>
    match c.rest with
    | [] => some ([], c)
    | x :: _ =>
      if x = '%' then do
        let (bytes, c) ← takeEscaped? c
        let (rest, c) ← takeBytes? full fuel c
        return (bytes ++ rest, c)
      else if isTagChar full x then do
        let (rest, c) ← takeBytes? full fuel c.next
        return (UInt8.ofNat x.toNat :: rest, c)
      else some ([], c)

/-- Takes a tag off the front, which may be empty only if it `mayBeEmpty`. -/
def take? (full mayBeEmpty : Bool) (c : Cursor) : Option (Tag × Cursor) := do
  let (bytes, c) ← takeBytes? full (c.rest.length + 1) c
  if bytes.isEmpty && !mayBeEmpty then none
  return (bytes.untilZero, c)

end Tag

end Gazetteer.Yaml
