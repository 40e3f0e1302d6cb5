import Gazetteer.Proofs.Number.Counts
import Gazetteer.Proofs.Number.TotalOrder

/-!
# What is no number

An operation hands on what is no number, and a few operations on numbers have no result. This module
says which of those that similarities are made of: infinities of different signs have no sum, an
infinity and a zero no product, and two infinities or two zeros no quotient (`isNaN_add_iff` and its
kin). Everything else has a result, which may be infinite. So a computation gives a number as long as
it keeps clear of these few cases, however much is rounded on the way.
-/

set_option autoImplicit false

namespace Gazetteer

namespace Binary32

open BinaryFormat (single)

variable {x y : Binary32}

/-! ## Numbers, finite and infinite -/

theorem isFinite_eq (x : Binary32) : x.isFinite = (!x.isNaN && !x.isInfinite) := by
  rw [Bool.eq_iff_iff]
  simp only [isFinite, isNaN, isInfinite, Bool.and_eq_true, Bool.not_eq_true', decide_eq_true_eq,
    decide_eq_false_iff_not, beq_eq_false_iff_ne]
  omega

theorem isFinite_iff : x.isFinite = true ↔ x.pattern < single.infinity := by
  rw [isFinite, decide_eq_true_eq]

theorem isInfinite_iff : x.isInfinite = true ↔ x.pattern = single.infinity := by
  rw [isInfinite, beq_iff_eq]

theorem isNaN_of_isInfinite (h : x.isInfinite = true) : x.isNaN = false := by
  rw [isInfinite_iff] at h
  rw [isNaN, h, decide_eq_false_iff_not]
  exact Nat.lt_irrefl _

theorem isNaN_of_isFinite (h : x.isFinite = true) : x.isNaN = false := by
  rw [isFinite_eq, Bool.and_eq_true, Bool.not_eq_true', Bool.not_eq_true'] at h
  exact h.1

theorem isInfinite_of_isFinite (h : x.isFinite = true) : x.isInfinite = false := by
  rw [isFinite_eq, Bool.and_eq_true, Bool.not_eq_true', Bool.not_eq_true'] at h
  exact h.2

theorem pattern_ne_zero_of_isInfinite (h : x.isInfinite = true) : x.pattern ≠ 0 := by
  rw [isInfinite_iff] at h
  rw [h]
  decide

/-- What is compared with success is a number. -/
theorem isNaN_of_isAtMost (h : x.isAtMost y = true) : x.isNaN = false ∧ y.isNaN = false := by
  rw [isAtMost, Bool.and_eq_true, Bool.and_eq_true, Bool.not_eq_true', Bool.not_eq_true'] at h
  exact h.1

theorem isAtMost_of_isBelow (h : x.isBelow y = true) : x.isAtMost y = true := by
  rw [isBelow, Bool.and_eq_true, decide_eq_true_eq] at h
  rw [isAtMost, h.1, Bool.true_and, decide_eq_true_eq]
  exact Int.le_of_lt h.2

/-! ## Results as they are made -/

theorem isNaN_ofPattern (negative : Bool) {pattern : Nat} (h : pattern ≤ single.infinity) :
    (ofPattern negative pattern).isNaN = false := by
  rw [isNaN, pattern_ofPattern negative (Nat.lt_of_le_of_lt h (by decide)),
    decide_eq_false_iff_not]
  exact Nat.not_lt.mpr h

theorem isNaN_round (negative : Bool) (num den : Nat) : (round negative num den).isNaN = false :=
  isNaN_ofPattern negative (Nat.min_le_right _ _)

/-- What is no number stays none when it is handed on: one more bit is set, and none is lost. -/
theorem isNaN_quiet (h : x.isNaN = true) : x.quiet.isNaN = true := by
  simp only [isNaN, decide_eq_true_eq] at h ⊢
  refine Nat.lt_of_lt_of_le h ?_
  show x.bits.toNat % signWorth ≤ (x.bits ||| 0x00400000).toNat % signWorth
  rw [UInt32.toNat_or, show signWorth = 2 ^ 31 from rfl, Nat.or_mod_two_pow]
  exact Nat.left_le_or

/-- An operation hands on what is no number, and what is left of it is its result for numbers. -/
theorem isNaN_ite_quiet_iff {result : Binary32} {p : Prop}
    (h : x.isNaN = false → y.isNaN = false → (result.isNaN = true ↔ p)) :
    (if x.isNaN then x.quiet else if y.isNaN then y.quiet else result).isNaN = true ↔
      x.isNaN = true ∨ y.isNaN = true ∨ p := by
  cases hx : x.isNaN with
  | true => simp [isNaN_quiet hx]
  | false =>
    cases hy : y.isNaN with
    | true => simp [isNaN_quiet hy]
    | false => simp [h hx hy]

/-! ## The other sign -/

theorem pattern_neg (x : Binary32) : x.neg.pattern = x.pattern := by
  show (x.bits ^^^ 0x80000000).toNat % signWorth = x.bits.toNat % signWorth
  rw [UInt32.toNat_xor, show signWorth = 2 ^ 31 from rfl, Nat.xor_mod_two_pow]
  exact Nat.xor_zero _

theorem isNegative_neg (x : Binary32) : x.neg.isNegative = !x.isNegative := by
  have hmsb : ∀ y : Binary32, y.isNegative = y.bits.toBitVec.msb := fun y =>
    (BitVec.msb_eq_decide y.bits.toBitVec).symm
  rw [hmsb, hmsb]
  show (x.bits ^^^ 0x80000000).toBitVec.msb = _
  rw [UInt32.toBitVec_xor, BitVec.msb_xor]
  exact Bool.xor_true _

theorem units_neg (x : Binary32) : x.neg.units = x.units := by
  rw [units, units, pattern_neg]

theorem signedUnits_neg (x : Binary32) : x.neg.signedUnits = -x.signedUnits := by
  rw [signedUnits, signedUnits, isNegative_neg, units_neg]
  cases x.isNegative
  · rfl
  · exact (Int.neg_neg _).symm

theorem isFinite_neg (x : Binary32) : x.neg.isFinite = x.isFinite := by
  rw [isFinite, isFinite, pattern_neg]

@[simp] theorem isNaN_neg (x : Binary32) : x.neg.isNaN = x.isNaN := by
  rw [isNaN, isNaN, pattern_neg]

@[simp] theorem isInfinite_neg (x : Binary32) : x.neg.isInfinite = x.isInfinite := by
  rw [isInfinite, isInfinite, pattern_neg]

/-! ## Operations -/

/-- Infinities of different signs have no sum. -/
theorem isNaN_add_iff :
    (x + y).isNaN = true ↔ x.isNaN = true ∨ y.isNaN = true ∨
      (x.isInfinite = true ∧ y.isInfinite = true ∧ x.isNegative ≠ y.isNegative) := by
  refine isNaN_ite_quiet_iff fun hx hy => ?_
  split
  · rename_i hinf
    split
    · rename_i hopposite
      simp only [Bool.and_eq_true, bne_iff_ne] at hopposite
      exact iff_of_true (by decide) ⟨hinf, hopposite⟩
    · rename_i hsame
      simp only [Bool.and_eq_true, bne_iff_ne] at hsame
      exact iff_of_false (by simp [hx]) fun h => hsame h.2
  · rename_i hfinite
    refine iff_of_false ?_ fun h => hfinite h.1
    rw [Bool.not_eq_true]
    split
    · exact hy
    · dsimp only
      split
      · exact isNaN_ofPattern _ (Nat.zero_le _)
      · exact isNaN_round _ _ _

/-- Infinities of the same sign have no difference. -/
theorem isNaN_sub_iff :
    (x - y).isNaN = true ↔ x.isNaN = true ∨ y.isNaN = true ∨
      (x.isInfinite = true ∧ y.isInfinite = true ∧ x.isNegative = y.isNegative) := by
  refine isNaN_ite_quiet_iff fun hx hy => ?_
  refine isNaN_add_iff.trans ?_
  rw [isNaN_neg, isInfinite_neg, isNegative_neg, hx, hy]
  simp

/-- An infinity and a zero have no product. -/
theorem isNaN_mul_iff :
    (x * y).isNaN = true ↔ x.isNaN = true ∨ y.isNaN = true ∨
      ((x.isInfinite = true ∨ y.isInfinite = true) ∧ (x.pattern = 0 ∨ y.pattern = 0)) := by
  refine isNaN_ite_quiet_iff fun _ _ => ?_
  split
  · rename_i hinf
    rw [Bool.or_eq_true] at hinf
    split
    · rename_i hzero
      exact iff_of_true (by decide) ⟨hinf, hzero⟩
    · rename_i hzero
      exact iff_of_false (by simp [isNaN_ofPattern _ (Nat.le_refl _)]) fun h => hzero h.2
  · rename_i hfinite
    rw [Bool.or_eq_true] at hfinite
    refine iff_of_false ?_ fun h => hfinite h.1
    rw [Bool.not_eq_true]
    split
    · exact isNaN_ofPattern _ (Nat.zero_le _)
    · exact isNaN_round _ _ _

/-- Two infinities have no quotient, and neither have two zeros. -/
theorem isNaN_div_iff :
    (x / y).isNaN = true ↔ x.isNaN = true ∨ y.isNaN = true ∨
      (x.isInfinite = true ∧ y.isInfinite = true ∨ x.pattern = 0 ∧ y.pattern = 0) := by
  refine isNaN_ite_quiet_iff fun _ _ => ?_
  split
  · rename_i hx
    have hx0 := pattern_ne_zero_of_isInfinite hx
    split
    · rename_i hy
      exact iff_of_true (by decide) (Or.inl ⟨hx, hy⟩)
    · rename_i hy
      refine iff_of_false (by simp [isNaN_ofPattern _ (Nat.le_refl _)]) ?_
      exact fun h => h.elim (fun h => hy h.2) fun h => hx0 h.1
  rename_i hx
  split
  · rename_i hy
    refine iff_of_false (by simp [isNaN_ofPattern _ (Nat.zero_le _)]) ?_
    exact fun h => h.elim (fun h => hx h.1) fun h => pattern_ne_zero_of_isInfinite hy h.2
  split
  · rename_i hy
    split
    · rename_i hx0
      exact iff_of_true (by decide) (Or.inr ⟨hx0, hy⟩)
    · rename_i hx0
      refine iff_of_false (by simp [isNaN_ofPattern _ (Nat.le_refl _)]) ?_
      exact fun h => h.elim (fun h => hx h.1) fun h => hx0 h.1
  · rename_i hy
    refine iff_of_false (by simp [isNaN_round]) ?_
    exact fun h => h.elim (fun h => hx h.1) fun h => hy h.2

/-- Forced into a range, a number stays one and what is none stays none. -/
theorem isNaN_clamp (x : Binary32) {low high : Binary32} (hlow : low.isNaN = false)
    (hhigh : high.isNaN = false) : (x.clamp low high).isNaN = x.isNaN := by
  rw [clamp]
  split
  · rename_i hbelow
    simp only [isBelow, Bool.and_eq_true, Bool.not_eq_true'] at hbelow
    rw [hlow, hbelow.1.1]
  split
  · rename_i habove
    simp only [isBelow, Bool.and_eq_true, Bool.not_eq_true'] at habove
    rw [hhigh, habove.1.2]
  · rfl

/-- A number that was forced into a range lies in it. -/
theorem isAtMost_clamp (hx : x.isNaN = false) {low high : Binary32} (hlow : low.isNaN = false)
    (hhigh : high.isNaN = false) (hordered : low.isAtMost high = true) :
    low.isAtMost (x.clamp low high) = true ∧ (x.clamp low high).isAtMost high = true := by
  rw [clamp]
  split
  · exact ⟨(isAtMost_iff hlow hlow).mpr (Int.le_refl _), hordered⟩
  rename_i hbelow
  split
  · exact ⟨hordered, (isAtMost_iff hhigh hhigh).mpr (Int.le_refl _)⟩
  · rename_i habove
    rw [isBelow_iff hx hlow, Int.not_lt] at hbelow
    rw [isBelow_iff hhigh hx, Int.not_lt] at habove
    exact ⟨(isAtMost_iff hlow hx).mpr hbelow, (isAtMost_iff hx hhigh).mpr habove⟩

end Binary32

end Gazetteer
