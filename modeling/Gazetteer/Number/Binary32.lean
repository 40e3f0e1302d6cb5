import Gazetteer.Number.BinaryFormat

/-!
# Numbers of 32 bits

The components of vectors, and all that is computed from them, are binary floating-point numbers of
32 bits. A number is kept as its bits, so that two numbers are equal here exactly when they are the
same in every respect, the sign of a zero and the payload of a not-a-number included.

Every operation is exact arithmetic on whole units followed by one rounding (`BinaryFormat`). What
is left are the special values. A not-a-number passes through an operation, the first operand's
before the second's; an operation that has no result makes `invalid`, which has its sign bit set.
The sign matters, because ranking orders all numbers, those included.
-/

set_option autoImplicit false

namespace Gazetteer

/-- A binary floating-point number of 32 bits. -/
structure Binary32 where
  bits : UInt32
  deriving DecidableEq, Repr, Inhabited

namespace Binary32

/-! ## Parts -/

/-- What the sign bit, the highest of all, is worth. -/
def signWorth : Nat := 0x80000000

/-- The pattern of the magnitude: all bits but the sign. -/
def pattern (x : Binary32) : Nat := x.bits.toNat % signWorth

def isNegative (x : Binary32) : Bool := signWorth ≤ x.bits.toNat

/-- The number with a given sign and magnitude pattern. -/
def ofPattern (negative : Bool) (pattern : Nat) : Binary32 :=
  ⟨UInt32.ofNat ((if negative then signWorth else 0) + pattern)⟩

/-- Whether this is no number at all. -/
def isNaN (x : Binary32) : Bool := BinaryFormat.single.infinity < x.pattern

/-- Whether this is one of the two infinities. -/
def isInfinite (x : Binary32) : Bool := x.pattern == BinaryFormat.single.infinity

/-- Whether this stands for a real number. -/
def isFinite (x : Binary32) : Bool := x.pattern < BinaryFormat.single.infinity

/-- The magnitude of a finite number in units of `2 ^ -149`. -/
def units (x : Binary32) : Nat := BinaryFormat.single.units x.pattern

/-- The value of a finite number in units of `2 ^ -149`. -/
def signedUnits (x : Binary32) : Int := if x.isNegative then -(x.units : Int) else x.units

/-- The number of units in one. -/
def unitsOfOne : Nat := 1 <<< BinaryFormat.single.unitPlaces

/-- A magnitude rounded from a ratio of units, under a sign. -/
def round (negative : Bool) (num den : Nat) : Binary32 :=
  ofPattern negative (BinaryFormat.single.ofRatio num den)

/-! ## Constants -/

def zero : Binary32 := ⟨0⟩

def negativeZero : Binary32 := ⟨0x80000000⟩

def one : Binary32 := ⟨0x3F800000⟩

def negativeOne : Binary32 := ⟨0xBF800000⟩

/-- The result of an operation that has none. -/
def invalid : Binary32 := ⟨0xFFC00000⟩

/-- A not-a-number as an operation hands it on. -/
def quiet (x : Binary32) : Binary32 := ⟨x.bits ||| 0x00400000⟩

/-! ## Arithmetic -/

def neg (x : Binary32) : Binary32 := ⟨x.bits ^^^ 0x80000000⟩

/-- The sum. A sum of nothing is negative only if both parts are. -/
def add (x y : Binary32) : Binary32 :=
  if x.isNaN then x.quiet
  else if y.isNaN then y.quiet
  else if x.isInfinite then
    if y.isInfinite && x.isNegative != y.isNegative then invalid else x
  else if y.isInfinite then y
  else
    let sum := x.signedUnits + y.signedUnits
    if sum = 0 then ofPattern (x.isNegative && y.isNegative) 0
    else round (sum < 0) sum.natAbs 1

def sub (x y : Binary32) : Binary32 :=
  if x.isNaN then x.quiet else if y.isNaN then y.quiet else add x y.neg

def mul (x y : Binary32) : Binary32 :=
  let negative := x.isNegative != y.isNegative
  if x.isNaN then x.quiet
  else if y.isNaN then y.quiet
  else if x.isInfinite || y.isInfinite then
    if x.pattern = 0 ∨ y.pattern = 0 then invalid
    else ofPattern negative BinaryFormat.single.infinity
  else if x.pattern = 0 ∨ y.pattern = 0 then ofPattern negative 0
  else round negative (x.units * y.units) unitsOfOne

def div (x y : Binary32) : Binary32 :=
  let negative := x.isNegative != y.isNegative
  if x.isNaN then x.quiet
  else if y.isNaN then y.quiet
  else if x.isInfinite then
    if y.isInfinite then invalid else ofPattern negative BinaryFormat.single.infinity
  else if y.isInfinite then ofPattern negative 0
  else if y.pattern = 0 then
    if x.pattern = 0 then invalid else ofPattern negative BinaryFormat.single.infinity
  else round negative (x.units * unitsOfOne) y.units

/-- The square root. Both zeros are their own root. -/
def sqrt (x : Binary32) : Binary32 :=
  if x.isNaN then x.quiet
  else if x.pattern = 0 then x
  else if x.isNegative then invalid
  else if x.isInfinite then x
  else ofPattern false (BinaryFormat.single.ofSqrt (x.units * unitsOfOne))

instance : Add Binary32 := ⟨add⟩
instance : Sub Binary32 := ⟨sub⟩
instance : Mul Binary32 := ⟨mul⟩
instance : Div Binary32 := ⟨div⟩
instance : Neg Binary32 := ⟨neg⟩

/-! ## The order of values -/

/-- The pattern with the sign of the number. Both zeros have 0. -/
def signedPattern (x : Binary32) : Int := if x.isNegative then -(x.pattern : Int) else x.pattern

/-- Whether one value is below another. Nothing is below or above a not-a-number. -/
def isBelow (x y : Binary32) : Bool := !x.isNaN && !y.isNaN && x.signedPattern < y.signedPattern

/-- Whether one value is below another or the same. -/
def isAtMost (x y : Binary32) : Bool := !x.isNaN && !y.isNaN && x.signedPattern ≤ y.signedPattern

/-- Whether two values are the same. The zeros are; a not-a-number is not the same as itself. -/
def isSame (x y : Binary32) : Bool := !x.isNaN && !y.isNaN && x.signedPattern == y.signedPattern

/-- The value forced into a range. A not-a-number stays what it is. -/
def clamp (x low high : Binary32) : Binary32 :=
  if x.isBelow low then low else if high.isBelow x then high else x

/-! ## The order of everything -/

/--
The place of a number in the total order: negative not-a-numbers, negative infinity, the negative
numbers, both zeros with the negative one first, the positive numbers, positive infinity, positive
not-a-numbers.
-/
def place (x : Binary32) : Int := if x.isNegative then -(x.pattern : Int) - 1 else x.pattern

/-- Whether `x` comes before `y` in the total order, or is `y`. -/
def precedes (x y : Binary32) : Bool := x.place ≤ y.place

end Binary32

end Gazetteer
