import Gazetteer.Proofs.Number.Bounds
import Mathlib.Tactic.Ring

/-!
# Relative errors

A magnitude that has a leading bit differs from the next by at most one part in `leading`, which is
`2 ^ 23` for numbers of 32 bits. Rounding picks one of two neighbours, so it errs by no more than that
in either direction (`leading_mul_units_ofRatio_le`, `leading_mul_le_units_ofRatio`, and for roots
`leading_mul_units_ofSqrt_le`). Such bounds multiply along a computation, where bounds by fixed
magnitudes would widen too fast.

The use that is made of them is a quotient that is one in exact arithmetic: a number divided by the
square of its root, with all three operations rounded, is one up to `2 ^ -21`
(`Between.div_square_sqrt`).
-/

set_option autoImplicit false

namespace Gazetteer

namespace BinaryFormat

variable {f : BinaryFormat} {n num den : Nat}

theorem leading_mul_units_succ_le {pattern : Nat} (h : f.leading ≤ pattern) :
    f.leading * f.units (pattern + 1) ≤ (f.leading + 1) * f.units pattern := by
  obtain ⟨exponent, fraction, hfraction, rfl⟩ := f.exists_fields pattern
  cases exponent with
  | zero => omega
  | succ e =>
    rw [units_succ hfraction, Nat.add_sub_cancel, Nat.one_shiftLeft, Nat.mul_add, Nat.add_mul,
      Nat.one_mul, units_fields_succ hfraction, Nat.shiftLeft_eq]
    exact Nat.add_le_add_left (Nat.mul_le_mul_right _ (Nat.le_add_right _ _)) _

theorem leading_le_patternBelow (h : f.leading ≤ n) : f.leading ≤ f.patternBelow n := by
  have hself : f.units f.leading = f.leading :=
    units_of_lt (by have hpos := f.leading_pos; omega)
  have hnext := Nat.lt_of_le_of_lt h (f.units_patternBelow_bounds n).2
  rw [← hself] at hnext
  exact Nat.le_of_lt_succ (f.strictMono_units.lt_iff_lt.mp hnext)

/-! ## One rounding -/

/-- A result is not rounded up by more than one part in `leading`. -/
theorem leading_mul_units_settle_le (h : f.leading ≤ n) (o : Ordering) :
    f.leading * f.units (f.settle (f.patternBelow n) o) ≤ (f.leading + 1) * n :=
  calc f.leading * f.units (f.settle (f.patternBelow n) o)
      ≤ f.leading * f.units (f.patternBelow n + 1) :=
        Nat.mul_le_mul_left _
          (f.strictMono_units.monotone (settle_le (Or.inl (Nat.lt_succ_self _))))
    _ ≤ (f.leading + 1) * f.units (f.patternBelow n) :=
        leading_mul_units_succ_le (leading_le_patternBelow h)
    _ ≤ (f.leading + 1) * n := Nat.mul_le_mul_left _ (f.units_patternBelow_bounds n).1

theorem leading_mul_units_ofRatio_le (hden : 0 < den) (h : f.leading * den ≤ num) :
    f.leading * (f.units (f.ofRatio num den) * den) ≤ (f.leading + 1) * num := by
  have hquotient : f.leading ≤ num / den := (Nat.le_div_iff_mul_le hden).mpr h
  calc f.leading * (f.units (f.ofRatio num den) * den)
      = f.leading * f.units (f.ofRatio num den) * den := (Nat.mul_assoc _ _ _).symm
    _ ≤ (f.leading + 1) * (num / den) * den :=
        Nat.mul_le_mul_right den (leading_mul_units_settle_le hquotient _)
    _ ≤ (f.leading + 1) * num := by
        rw [Nat.mul_assoc]
        exact Nat.mul_le_mul_left _ (Nat.div_mul_le_self num den)

/-- A result is not rounded down by more than one part in `leading`, unless it is too great. -/
theorem leading_mul_le_units_ofRatio (hden : 0 < den) (h : f.leading * den ≤ num)
    (hfinite : f.ofRatio num den < f.infinity) :
    f.leading * num ≤ (f.leading + 1) * (f.units (f.ofRatio num den) * den) := by
  have hquotient : f.leading ≤ num / den := (Nat.le_div_iff_mul_le hden).mpr h
  have hnum : num ≤ f.units (f.patternBelow (num / den) + 1) * den :=
    Nat.le_of_lt ((Nat.div_lt_iff_lt_mul hden).mp (f.units_patternBelow_bounds (num / den)).2)
  have hbelow : f.patternBelow (num / den) ≤ f.ofRatio num den := by
    by_contra hless
    have hle : f.ofRatio num den + 1 ≤ f.ofRatio num den :=
      le_settle (Nat.lt_of_not_le hless) hfinite _
    omega
  calc f.leading * num
      ≤ f.leading * f.units (f.patternBelow (num / den) + 1) * den := by
        rw [Nat.mul_assoc]
        exact Nat.mul_le_mul_left _ hnum
    _ ≤ (f.leading + 1) * f.units (f.patternBelow (num / den)) * den :=
        Nat.mul_le_mul_right den (leading_mul_units_succ_le (leading_le_patternBelow hquotient))
    _ ≤ (f.leading + 1) * (f.units (f.ofRatio num den) * den) := by
        rw [Nat.mul_assoc]
        exact Nat.mul_le_mul_left _
          (Nat.mul_le_mul_right den (f.strictMono_units.monotone hbelow))

theorem leading_mul_units_ofSqrt_le (h : f.leading * f.leading ≤ n) :
    f.leading * f.units (f.ofSqrt n) * (f.leading * f.units (f.ofSqrt n)) ≤
      (f.leading + 1) * (f.leading + 1) * n := by
  have hroot : f.leading * f.units (f.ofSqrt n) ≤ (f.leading + 1) * n.sqrt :=
    leading_mul_units_settle_le (Nat.le_sqrt.mpr h) _
  calc f.leading * f.units (f.ofSqrt n) * (f.leading * f.units (f.ofSqrt n))
      ≤ (f.leading + 1) * n.sqrt * ((f.leading + 1) * n.sqrt) := Nat.mul_le_mul hroot hroot
    _ = (f.leading + 1) * (f.leading + 1) * (n.sqrt * n.sqrt) := Nat.mul_mul_mul_comm _ _ _ _
    _ ≤ (f.leading + 1) * (f.leading + 1) * n := Nat.mul_le_mul_left _ (Nat.sqrt_le n)

end BinaryFormat

namespace Binary32

open BinaryFormat (single)

variable {x y : Binary32} {low : Nat}

theorem AtLeast.leading_mul_units_sqrt_le (hx : x.AtLeast low) (hfinite : x.isFinite = true)
    (h : single.leading * single.leading ≤ x.units * unitsOfOne) :
    single.leading * x.sqrt.units * (single.leading * x.sqrt.units) ≤
      (single.leading + 1) * (single.leading + 1) * (x.units * unitsOfOne) := by
  have hpos : x.pattern ≠ 0 := by
    intro hzero
    rw [units_of_pattern_eq_zero hzero, Nat.zero_mul] at h
    exact absurd h (by decide)
  rw [show x.sqrt.units = single.units x.sqrt.pattern from rfl, hx.pattern_sqrt hfinite hpos]
  exact BinaryFormat.leading_mul_units_ofSqrt_le h

theorem leading_mul_units_mul_le (hx : x.isFinite = true) (hy : y.isFinite = true)
    (h : single.leading * unitsOfOne ≤ x.units * y.units) :
    single.leading * ((x * y).units * unitsOfOne) ≤
      (single.leading + 1) * (x.units * y.units) := by
  rw [show (x * y).units = single.units (x * y).pattern from rfl, pattern_mul hx hy]
  exact BinaryFormat.leading_mul_units_ofRatio_le (by decide) h

theorem leading_mul_le_units_div (hx : x.isFinite = true) (hy : y.isFinite = true)
    (hy0 : 0 < y.units) (h : single.leading * y.units ≤ x.units * unitsOfOne)
    (hfinite : (x / y).isFinite = true) :
    single.leading * (x.units * unitsOfOne) ≤ (single.leading + 1) * ((x / y).units * y.units) := by
  have hpattern := pattern_div hx hy (mt units_of_pattern_eq_zero (Nat.ne_of_gt hy0))
  rw [isFinite_iff, hpattern] at hfinite
  rw [show (x / y).units = single.units (x / y).pattern from rfl, hpattern]
  exact BinaryFormat.leading_mul_le_units_ofRatio hy0 h hfinite

/-! ## Three roundings -/

/-- The pattern of `1 - 2 ^ -21`. -/
def almostOne : Nat := 0x3F7FFFF8

/-- The errors of a root, of its square and of the quotient by that do not add up to much. -/
theorem leading_pow_mul_le {lead unit whole root square quotient : Nat} (hunit : 0 < unit)
    (hwhole : 0 < whole)
    (hroot : lead * root * (lead * root) ≤ (lead + 1) * (lead + 1) * (whole * unit))
    (hsquare : lead * (square * unit) ≤ (lead + 1) * (root * root))
    (hquotient : lead * (whole * unit) ≤ (lead + 1) * (quotient * square)) :
    lead ^ 4 * unit ≤ (lead + 1) ^ 4 * quotient := by
  have hboth : lead ^ 3 * square ≤ (lead + 1) ^ 3 * whole := by
    refine Nat.le_of_mul_le_mul_right ?_ hunit
    calc lead ^ 3 * square * unit = lead ^ 2 * (lead * (square * unit)) := by ring
      _ ≤ lead ^ 2 * ((lead + 1) * (root * root)) := Nat.mul_le_mul_left _ hsquare
      _ = (lead + 1) * (lead * root * (lead * root)) := by ring
      _ ≤ (lead + 1) * ((lead + 1) * (lead + 1) * (whole * unit)) := Nat.mul_le_mul_left _ hroot
      _ = (lead + 1) ^ 3 * whole * unit := by ring
  refine Nat.le_of_mul_le_mul_right ?_ hwhole
  calc lead ^ 4 * unit * whole = lead ^ 3 * (lead * (whole * unit)) := by ring
    _ ≤ lead ^ 3 * ((lead + 1) * (quotient * square)) := Nat.mul_le_mul_left _ hquotient
    _ = (lead + 1) * quotient * (lead ^ 3 * square) := by ring
    _ ≤ (lead + 1) * quotient * ((lead + 1) ^ 3 * whole) := Nat.mul_le_mul_left _ hboth
    _ = (lead + 1) ^ 4 * quotient * whole := by ring

/-- **A number divided by the square of its root is almost one.** -/
theorem Between.div_square_sqrt (hx : x.Between (powerOfTwo 0) (powerOfTwo 73)) :
    (x / (x.sqrt * x.sqrt)).Between almostOne (powerOfTwo 73) := by
  have hroot : x.sqrt.Between (powerOfTwo 0) (powerOfTwo 37) :=
    hx.sqrt (by decide +kernel) (by decide +kernel) (by decide)
  have hsquare : (x.sqrt * x.sqrt).Between (powerOfTwo 0) (powerOfTwo 74) :=
    hroot.mul hroot (by decide +kernel) (by decide +kernel) (by decide)
  have hquotient : (x / (x.sqrt * x.sqrt)).Between 1 (powerOfTwo 73) :=
    hx.div hsquare (by decide) (by decide +kernel) (by decide +kernel) (by decide)
  have hunits : ∀ {z : Binary32} {high : Nat}, z.Between (powerOfTwo 0) high →
      unitsOfOne ≤ z.units := by
    intro z high hz
    calc unitsOfOne = single.units (powerOfTwo 0) := by decide +kernel
      _ ≤ z.units := hz.units_low_le
  have hsmall : unitsOfOne * unitsOfOne ≤ x.units * unitsOfOne :=
    Nat.mul_le_mul_right _ (hunits hx)
  have hrooterror := hx.atLeast.leading_mul_units_sqrt_le hx.isFinite
    (Nat.le_trans (by decide +kernel) hsmall)
  have hsquareerror := leading_mul_units_mul_le hroot.isFinite hroot.isFinite
    (Nat.le_trans (by decide +kernel) (Nat.mul_le_mul (hunits hroot) (hunits hroot)))
  have hquotienterror := leading_mul_le_units_div hx.isFinite hsquare.isFinite
    (Nat.lt_of_lt_of_le (by decide) (hunits hsquare))
    (calc single.leading * (x.sqrt * x.sqrt).units
          ≤ single.leading * single.units (powerOfTwo 74) :=
            Nat.mul_le_mul_left _ hsquare.units_le_high
        _ ≤ unitsOfOne * unitsOfOne := by decide +kernel
        _ ≤ x.units * unitsOfOne := hsmall)
    hquotient.isFinite
  have herror := leading_pow_mul_le (by decide) (Nat.lt_of_lt_of_le (by decide) (hunits hx))
    hrooterror hsquareerror hquotienterror
  refine { hquotient with low_le := ?_ }
  -- a quotient of less than that would have a greater error
  by_contra hless
  have hlt : (x / (x.sqrt * x.sqrt)).units < single.units almostOne :=
    single.strictMono_units (Nat.lt_of_not_le hless)
  have hfar : (single.leading + 1) ^ 4 * single.units almostOne ≤
      single.leading ^ 4 * unitsOfOne := by decide +kernel
  have hgreater : (single.leading + 1) ^ 4 * (x / (x.sqrt * x.sqrt)).units <
      (single.leading + 1) ^ 4 * single.units almostOne :=
    Nat.mul_lt_mul_of_pos_left hlt (by decide +kernel)
  omega

end Binary32

end Gazetteer
