import Gazetteer.Number.Binary32

/-!
# The order of all numbers of 32 bits

Ranking compares numbers by their `place`, which differs from number to number, so that the order is
total (`eq_of_place_eq`). Values are compared by `isBelow` and its kin, to which a not-a-number and
the sign of a zero mean nothing. This module says how far the two ways to compare agree:

* **numbers that differ in value are ordered by value** (`signedPattern_le_of_precedes`), and among
  numbers of one value only the two zeros have different places (`zeros_of_isSame`);
* what is no number stands at one of the ends, by its sign (`isNegative_of_precedes`).
-/

set_option autoImplicit false

namespace Gazetteer

namespace Binary32

variable {x y z : Binary32}

/-! ## A total order -/

theorem eq_of_place_eq (h : x.place = y.place) : x = y := by
  have hx := x.bits.toNat_lt
  have hy := y.bits.toNat_lt
  have hbits : x.bits.toNat = y.bits.toNat := by
    simp only [place, isNegative, pattern, signWorth] at h
    by_cases hnx : 0x80000000 ≤ x.bits.toNat <;> by_cases hny : 0x80000000 ≤ y.bits.toNat <;>
      simp only [hnx, hny, decide_true, decide_false, Bool.false_eq_true, if_true, if_false] at h <;>
      omega
  cases x
  cases y
  exact congrArg Binary32.mk (UInt32.toNat_inj.mp hbits)

theorem precedes_iff : x.precedes y = true ↔ x.place ≤ y.place := by
  simp [precedes]

theorem precedes_refl (x : Binary32) : x.precedes x = true := precedes_iff.mpr (Int.le_refl _)

theorem precedes_trans (hxy : x.precedes y = true) (hyz : y.precedes z = true) :
    x.precedes z = true :=
  precedes_iff.mpr (Int.le_trans (precedes_iff.mp hxy) (precedes_iff.mp hyz))

theorem precedes_total (x y : Binary32) : (x.precedes y || y.precedes x) = true := by
  simp only [Bool.or_eq_true, precedes_iff]
  exact Int.le_total x.place y.place

/-! ## Places and values -/

/-- The places below zero are moved down by one, to make room for the zero with a sign. -/
theorem place_eq (x : Binary32) :
    x.place = if x.isNegative then x.signedPattern - 1 else x.signedPattern := by
  unfold place signedPattern
  cases x.isNegative <;> rfl

theorem signedPattern_nonneg (h : x.isNegative = false) : 0 ≤ x.signedPattern := by
  rw [signedPattern, h, if_neg Bool.false_ne_true]
  exact Int.natCast_nonneg _

theorem signedPattern_nonpos (h : x.isNegative = true) : x.signedPattern ≤ 0 := by
  rw [signedPattern, h, if_pos rfl]
  exact Int.neg_nonpos_of_nonneg (Int.natCast_nonneg _)

theorem signedPattern_le_of_precedes (h : x.precedes y = true) :
    x.signedPattern ≤ y.signedPattern := by
  rw [precedes_iff, place_eq, place_eq] at h
  cases hx : x.isNegative <;> cases hy : y.isNegative <;>
    simp only [hx, hy, if_true, Bool.false_eq_true, if_false] at h
  · exact h
  · -- a place without a sign is not among those with one
    have := signedPattern_nonneg hx
    have := signedPattern_nonpos hy
    omega
  · have := signedPattern_nonneg hy
    have := signedPattern_nonpos hx
    omega
  · omega

/-- Two places for one value: it is zero, once with a sign and once without. -/
theorem zeros_of_place_lt (hplace : x.place < y.place) (hsame : x.signedPattern = y.signedPattern) :
    x = negativeZero ∧ y = zero := by
  rw [place_eq, place_eq] at hplace
  cases hx : x.isNegative <;> cases hy : y.isNegative <;>
    simp only [hx, hy, if_true, Bool.false_eq_true, if_false] at hplace
  · omega
  · omega
  · have hle := signedPattern_nonpos hx
    have hge := signedPattern_nonneg hy
    constructor
    · refine eq_of_place_eq ?_
      rw [place_eq, hx, if_pos rfl, show x.signedPattern = 0 by omega]
      decide
    · refine eq_of_place_eq ?_
      rw [place_eq, hy, if_neg Bool.false_ne_true, show y.signedPattern = 0 by omega]
      decide
  · omega

theorem isAtMost_iff (hx : x.isNaN = false) (hy : y.isNaN = false) :
    x.isAtMost y = true ↔ x.signedPattern ≤ y.signedPattern := by
  simp [isAtMost, hx, hy]

theorem isBelow_iff (hx : x.isNaN = false) (hy : y.isNaN = false) :
    x.isBelow y = true ↔ x.signedPattern < y.signedPattern := by
  simp [isBelow, hx, hy]

/-- Where the order goes up, values do not go down. -/
theorem isAtMost_of_precedes (hx : x.isNaN = false) (hy : y.isNaN = false)
    (h : x.precedes y = true) : x.isAtMost y = true :=
  (isAtMost_iff hx hy).mpr (signedPattern_le_of_precedes h)

/-- For numbers, not to be at or below a bound is to be above it. -/
theorem not_isAtMost_eq_isBelow (hx : x.isNaN = false) (hy : y.isNaN = false) :
    (!x.isAtMost y) = y.isBelow x := by
  rw [Bool.eq_iff_iff, Bool.not_eq_true', Bool.eq_false_iff, ne_eq, isAtMost_iff hx hy,
    isBelow_iff hy hx, Int.not_le]

theorem isAtMost_eq_false_of_isBelow (h : x.isBelow y = true) : y.isAtMost x = false := by
  rw [isBelow, Bool.and_eq_true, decide_eq_true_eq] at h
  rw [isAtMost, decide_eq_false (Int.not_le.mpr h.2), Bool.and_false]

theorem isBelow_trans (hxy : x.isBelow y = true) (hyz : y.isBelow z = true) :
    x.isBelow z = true := by
  simp only [isBelow, Bool.and_eq_true, decide_eq_true_eq] at hxy hyz ⊢
  exact ⟨⟨hxy.1.1, hyz.1.2⟩, Int.lt_trans hxy.2 hyz.2⟩

/-- What comes behind a number above a bound, or is it, is above the bound. -/
theorem isBelow_of_precedes (hx : x.isNaN = false) (hy : y.isNaN = false) (hz : z.isNaN = false)
    (habove : x.isBelow y = true) (h : y.precedes z = true) : x.isBelow z = true := by
  rw [isBelow_iff hx hy] at habove
  rw [isBelow_iff hx hz]
  exact Int.lt_of_lt_of_le habove (signedPattern_le_of_precedes h)

/-- Numbers of the same value have the same place, unless they are the two zeros. -/
theorem zeros_of_isSame (hsame : x.isSame y = true) (hplace : x.place < y.place) :
    x = negativeZero ∧ y = zero := by
  simp only [isSame, Bool.and_eq_true, beq_iff_eq] at hsame
  exact zeros_of_place_lt hplace hsame.2

/-! ## What is no number -/

/-- A place past that of infinity is no number's. -/
theorem pattern_lt_of_isNaN (hx : x.isNaN = true) (hy : y.isNaN = false) :
    y.pattern < x.pattern := by
  simp only [isNaN, decide_eq_true_eq] at hx
  simp only [isNaN, decide_eq_false_iff_not] at hy
  omega

/-- Before a number stands what is no number with a sign, and behind it what is none without. -/
theorem isNegative_of_precedes (h : x.precedes y = true) :
    (x.isNaN = true → y.isNaN = false → x.isNegative = true) ∧
      (x.isNaN = false → y.isNaN = true → y.isNegative = false) := by
  rw [precedes_iff, place, place] at h
  constructor
  · intro hx hy
    have hlt := pattern_lt_of_isNaN hx hy
    cases hneg : x.isNegative with
    | true => rfl
    | false =>
      rw [hneg, if_neg Bool.false_ne_true] at h
      split at h <;> omega
  · intro hx hy
    have hlt := pattern_lt_of_isNaN hy hx
    cases hneg : y.isNegative with
    | false => rfl
    | true =>
      rw [hneg, if_pos rfl] at h
      split at h <;> omega

end Binary32

end Gazetteer
