import Gazetteer.Number.Binary32
import Gazetteer.Number.Whole

/-!
# Decimal notation

Three ways between decimal digits and binary numbers:

* `Decimal.ofChars?` and `Decimal.toDouble` read decimal notation and round it to 64 bits;
* `Shortest` finds the fewest digits that still read back as the same number;
* `Binary32.fixed` rounds to a fixed number of places.

All three compute with natural numbers and round once.
-/

set_option autoImplicit false

namespace Gazetteer

/-! ## Reading -/

/-- The number `digits * 10 ^ exponent` under a sign. -/
structure Decimal where
  negative : Bool
  digits : Nat
  exponent : Int
  deriving DecidableEq, Repr

namespace Decimal

def tenTo (n : Nat) : Nat := Nat.pow 10 n

def isDigit (c : Char) : Bool := '0' ≤ c && c ≤ '9'

/-- The number that a run of decimal digits stands for; 0 for an empty run. -/
def natOfDigits (cs : List Char) : Nat := (Whole.readFrom 10 0 cs).getD 0

/-- Takes a sign off the front. -/
def takeSign : List Char → Bool × List Char
  | '-' :: rest => (true, rest)
  | '+' :: rest => (false, rest)
  | cs => (false, cs)

/-- Reads what may follow the digits: nothing, or a mark and a signed exponent. -/
def exponent? : List Char → Option Int
  | [] => some 0
  | mark :: rest =>
    if mark = 'e' ∨ mark = 'E' then
      let (negative, digits) := takeSign rest
      if digits.isEmpty || !digits.all isDigit then none
      else
        let size : Int := natOfDigits digits
        some (if negative then -size else size)
    else none

/--
Reads decimal notation: digits with or without a point, at least one of them, and possibly an
exponent.
-/
def ofChars? (cs : List Char) : Option Decimal :=
  let (negative, unsigned) := takeSign cs
  let whole := unsigned.takeWhile isDigit
  let afterWhole := unsigned.dropWhile isDigit
  let (places, afterPlaces) :=
    match afterWhole with
    | '.' :: rest => (rest.takeWhile isDigit, rest.dropWhile isDigit)
    | rest => ([], rest)
  if whole.isEmpty && places.isEmpty then none
  else (exponent? afterPlaces).map fun e =>
    ⟨negative, natOfDigits (whole ++ places), e - places.length⟩

def width (n : Nat) : Nat := (Nat.toDigits 10 n).length

/--
The pattern of the 64-bit magnitude nearest to a decimal number. Numbers of more than 400 digits
before the point are beyond all finite magnitudes, and those with more than 400 zeros after it are
below half the smallest one, so neither needs to be written out.
-/
def toDouble (d : Decimal) : Nat :=
  let size : Int := d.exponent + width d.digits
  if d.digits = 0 ∨ size < -400 then 0
  else if 400 < size then BinaryFormat.double.infinity
  else
    BinaryFormat.double.ofRatio
      ((d.digits * tenTo d.exponent.toNat) <<< BinaryFormat.double.unitPlaces)
      (tenTo (-d.exponent).toNat)

end Decimal

/-! ## Between the two widths -/

/-- How many units of the 64-bit format make one unit of the 32-bit format. -/
def Binary32.unitRatio : Nat :=
  1 <<< (BinaryFormat.double.unitPlaces - BinaryFormat.single.unitPlaces)

/-- The 32-bit number nearest to a finite 64-bit magnitude under a sign. -/
def Binary32.ofDouble (negative : Bool) (pattern : Nat) : Binary32 :=
  Binary32.round negative (BinaryFormat.double.units pattern) Binary32.unitRatio

/-- The 64-bit pattern of the same magnitude. Every 32-bit magnitude has one. -/
def Binary32.toDouble (x : Binary32) : Nat :=
  BinaryFormat.double.ofRatio (x.units * Binary32.unitRatio) 1

/-! ## The fewest digits -/

namespace Shortest

/-- The place of the first digit of `num / den`: 0 for units, -1 for tenths. Zero has none. -/
def smallPlace (num den : Nat) : Nat → Int
  | 0 => 0
  | fuel + 1 => if den ≤ num then 0 else smallPlace (num * 10) den fuel - 1

/-- The place of the first digit of a positive ratio. -/
def firstPlace (num den : Nat) : Int :=
  if den ≤ num then Decimal.width (num / den) - 1 else smallPlace num den (den.log2 + 1)

/--
The multiple of `10 ^ place` nearest to a magnitude, among the two on either side of it, provided
that it reads back: it lies between the middles to the two neighbouring magnitudes, a middle itself
included when the pattern is even, since a tie goes there.
-/
def onGrid (f : BinaryFormat) (pattern : Nat) (place : Int) : Option Nat :=
  let up := Decimal.tenTo (-place).toNat
  let den := Decimal.tenTo place.toNat <<< f.unitPlaces
  let num := f.units pattern * up
  let low := f.twiceMiddle (pattern - 1) * up
  let high := f.twiceMiddle pattern * up
  let readsBack (d : Nat) : Bool :=
    if pattern % 2 = 0 then low ≤ 2 * d * den && 2 * d * den ≤ high
    else low < 2 * d * den && 2 * d * den < high
  let below := num / den
  let above := below + 1
  match readsBack below, readsBack above with
  | false, false => none
  | true, false => some below
  | false, true => some above
  | true, true =>
    match compare (2 * num) ((below + above) * den) with
    | .lt => some below
    | .gt => some above
    | .eq => some (if below % 2 = 0 then below else above)

/-- Looks for a grid that has a hit, from coarse to fine. -/
def search (f : BinaryFormat) (pattern : Nat) (place : Int) : Nat → Nat × Int
  | 0 => (0, 0)
  | fuel + 1 =>
    match onGrid f pattern place with
    | some d => (d, place)
    | none => search f pattern (place - 1) fuel

/-- Moves the zeros at the end of the digits into the exponent. -/
def strip (digits : Nat) (place : Int) : Nat → Nat × Int
  | 0 => (digits, place)
  | fuel + 1 => if digits % 10 = 0 then strip (digits / 10) (place + 1) fuel else (digits, place)

/-- The fewest digits, and the place of the last, that read back as a positive 64-bit magnitude. -/
def ofDouble (pattern : Nat) : Nat × Int :=
  let f := BinaryFormat.double
  let (digits, place) := search f pattern (firstPlace (f.units pattern) (1 <<< f.unitPlaces)) 18
  strip digits place 20

end Shortest

/-! ## A fixed number of places -/

/-- The whole number nearest to a ratio; a half goes to the even neighbour. -/
def roundHalfEven (num den : Nat) : Nat :=
  let below := num / den
  match compare (2 * (num % den)) den with
  | .lt => below
  | .gt => below + 1
  | .eq => below + below % 2

/-- Puts zeros in front of a text until it has the given length. -/
def padZeros (length : Nat) (s : String) : String :=
  String.ofList (List.replicate (length - s.length) '0') ++ s

/-- A number with a fixed number of digits after the point. -/
def Binary32.fixed (places : Nat) (x : Binary32) : String :=
  if x.isNaN then "NaN"
  else
    let sign := if x.isNegative then "-" else ""
    if x.isInfinite then sign ++ "inf"
    else
      let one := Decimal.tenTo places
      let n := roundHalfEven (x.units * one) Binary32.unitsOfOne
      sign ++ toString (n / one) ++ "." ++ padZeros places (toString (n % one))

end Gazetteer
