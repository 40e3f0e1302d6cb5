/-!
# Binary floating-point formats

A format packs a magnitude into a *pattern*: a number whose low bits are the fraction and whose high
bits are the exponent. Two facts make patterns pleasant to compute with. Every finite magnitude is a
whole multiple of one smallest unit, so exact arithmetic is arithmetic of natural numbers; and the
multiple grows with the pattern, so the neighbours of a magnitude are the neighbours of its pattern.

Rounding is therefore one rule for all operations: take the greatest pattern that is not above the
exact result, compare the result with the middle between this pattern and the next, and on a tie
take the even pattern. A result past the greatest finite magnitude falls on the pattern of infinity
by the same rule, because that pattern stands where the next finite one would.
-/

set_option autoImplicit false

namespace Gazetteer

/-- The two widths that make up a format; the exponent bias follows from them. -/
structure BinaryFormat where
  fractionBits : Nat
  exponentBits : Nat
  deriving DecidableEq, Repr

namespace BinaryFormat

def single : BinaryFormat := ⟨23, 8⟩

def double : BinaryFormat := ⟨52, 11⟩

variable (f : BinaryFormat)

/-! ## Patterns and what they are worth -/

/-- The unit of all magnitudes is `2 ^ -unitPlaces`. -/
def unitPlaces : Nat := (1 <<< (f.exponentBits - 1)) - 2 + f.fractionBits

/-- The pattern of infinity; those above it are not numbers. -/
def infinity : Nat := ((1 <<< f.exponentBits) - 1) <<< f.fractionBits

/-- The worth of a pattern in units. The exponent 0 has no leading bit of its own. -/
def units (pattern : Nat) : Nat :=
  let leading := 1 <<< f.fractionBits
  let exponent := pattern / leading
  let fraction := pattern % leading
  if exponent = 0 then fraction else (leading + fraction) <<< (exponent - 1)

/-- The greatest pattern that is worth at most `n` units. -/
def patternBelow (n : Nat) : Nat :=
  let shift := n.log2 - f.fractionBits
  (shift <<< f.fractionBits) + (n >>> shift)

/-- Twice the worth of the middle between a pattern and the next. -/
def twiceMiddle (pattern : Nat) : Nat := f.units pattern + f.units (pattern + 1)

/-! ## Rounding -/

/--
The pattern nearest to an exact result that lies at or above `below` and under the next pattern,
given how the result compares with the middle of the two.
-/
def settle (below : Nat) (againstMiddle : Ordering) : Nat :=
  let nearest :=
    match againstMiddle with
    | .lt => below
    | .gt => below + 1
    | .eq => below + below % 2
  min nearest f.infinity

/-- The pattern nearest to `num / den` units. -/
def ofRatio (num den : Nat) : Nat :=
  let below := f.patternBelow (num / den)
  f.settle below (compare (2 * num) (f.twiceMiddle below * den))

/-- The pattern nearest to the square root of `n`, in units. -/
def ofSqrt (n : Nat) : Nat :=
  let below := f.patternBelow n.sqrt
  f.settle below (compare (4 * n) (f.twiceMiddle below * f.twiceMiddle below))

end BinaryFormat

end Gazetteer
