import Gazetteer.Proofs.Number.Bounds

/-!
# Arithmetic without signs

A zero can have a sign, and although this does not change its value, ranking sees it. So it matters
where signs come from. Numbers without a sign bit have none in their sums, products and quotients,
and a root has one only if it is that of a zero (`Unsigned`, `NotBelowZero`). What an operation
without a result leaves behind is exempt from this, since its sign bit has no meaning.

A sum starts at the negative zero. So a sum of terms without a sign has none if there is a term at
all (`unsigned_foldl_add`).
-/

set_option autoImplicit false

namespace Gazetteer

namespace Binary32

open BinaryFormat (single)

/-- The number has no sign bit, if it is a number. -/
def Unsigned (x : Binary32) : Prop := x.isNegative = true → x.isNaN = true

/-- The number is not below zero, if it is a number. A zero may have either sign. -/
def NotBelowZero (x : Binary32) : Prop := x.isNegative = true → x.isNaN = true ∨ x.pattern = 0

variable {x y : Binary32}

theorem Unsigned.notBelowZero (h : x.Unsigned) : x.NotBelowZero := fun hneg => Or.inl (h hneg)

theorem Unsigned.isNegative (h : x.Unsigned) (hx : x.isNaN = false) : x.isNegative = false := by
  cases hneg : x.isNegative with
  | false => rfl
  | true => exact absurd (h hneg) (by simp [hx])

theorem unsigned_of_isNegative (h : x.isNegative = false) : x.Unsigned := fun hneg => by
  rw [h] at hneg
  cases hneg

theorem unsigned_of_isNaN (h : x.isNaN = true) : x.Unsigned := fun _ => h

/-- What is not below zero and not a zero either has no sign. -/
theorem NotBelowZero.unsigned (h : x.NotBelowZero) (hzero : x.isSame .zero = false) :
    x.Unsigned := by
  intro hneg
  refine (h hneg).elim id fun hpattern => ?_
  by_contra hnan
  have hsame : x.isSame .zero = true := by
    have hvalue : x.signedPattern = zero.signedPattern := by
      rw [signedPattern, hpattern]
      split <;> rfl
    rw [isSame, Bool.eq_false_iff.mpr hnan, hvalue]
    decide
  exact absurd hsame (Bool.eq_false_iff.mp hzero)

theorem Unsigned.ne_negativeZero (h : x.Unsigned) : x ≠ negativeZero := by
  rintro rfl
  exact absurd (h (by decide)) (by decide)

/-! ## Making numbers -/

theorem unsigned_ofPattern {pattern : Nat} (h : pattern ≤ single.infinity) :
    (ofPattern false pattern).Unsigned :=
  unsigned_of_isNegative (isNegative_ofPattern false (Nat.lt_of_le_of_lt h (by decide)))

theorem unsigned_round (num den : Nat) : (round false num den).Unsigned :=
  unsigned_ofPattern (Nat.min_le_right _ _)

theorem unsigned_invalid : invalid.Unsigned := unsigned_of_isNaN (by decide)

theorem unsigned_quiet (h : x.isNaN = true) : x.quiet.Unsigned := unsigned_of_isNaN (isNaN_quiet h)

/-! ## Operations -/

theorem NotBelowZero.isNegative_of_pattern (h : x.NotBelowZero) (hx : x.isNaN = false)
    (hpos : x.pattern ≠ 0) : x.isNegative = false := by
  cases hneg : x.isNegative with
  | false => rfl
  | true => exact absurd (h hneg) (by simp [hx, hpos])

theorem NotBelowZero.signedUnits (h : x.NotBelowZero) (hx : x.isNaN = false) :
    x.signedUnits = (x.units : Int) := by
  rw [Binary32.signedUnits]
  split
  · rename_i hneg
    have hzero := (h hneg).resolve_left (by simp [hx])
    rw [units_of_pattern_eq_zero hzero]
    rfl
  · rfl

/-- An operation hands on what is no number, so only its result for two numbers can have a sign. -/
theorem unsigned_of_numbers {result : Binary32}
    (h : x.isNaN = false → y.isNaN = false → result.Unsigned) :
    (if x.isNaN then x.quiet else if y.isNaN then y.quiet else result).Unsigned := by
  cases hx : x.isNaN with
  | true => exact unsigned_quiet hx
  | false =>
    cases hy : y.isNaN with
    | true => exact unsigned_quiet hy
    | false => exact h hx hy

/-- A sum has no sign if neither term is below zero and one of them has no sign. -/
theorem unsigned_add (hx : x.NotBelowZero) (hy : y.NotBelowZero) (h : x.Unsigned ∨ y.Unsigned) :
    (x + y).Unsigned := by
  refine unsigned_of_numbers fun hxnan hynan => ?_
  split
  · rename_i hinf
    split
    · exact unsigned_invalid
    · exact unsigned_of_isNegative
        (hx.isNegative_of_pattern hxnan (pattern_ne_zero_of_isInfinite hinf))
  split
  · rename_i hinf
    exact unsigned_of_isNegative
      (hy.isNegative_of_pattern hynan (pattern_ne_zero_of_isInfinite hinf))
  rw [hx.signedUnits hxnan, hy.signedUnits hynan]
  dsimp only
  split
  · -- a zero has a sign only if both terms have one
    have hneither : (x.isNegative && y.isNegative) = false := by
      rcases h with h | h
      · rw [h.isNegative hxnan, Bool.false_and]
      · rw [h.isNegative hynan, Bool.and_false]
    rw [hneither]
    exact unsigned_ofPattern (Nat.zero_le _)
  · rw [decide_eq_false (by omega)]
    exact unsigned_round _ _

theorem Unsigned.mul (hx : x.Unsigned) (hy : y.Unsigned) : (x * y).Unsigned := by
  refine unsigned_of_numbers fun hxnan hynan => ?_
  rw [hx.isNegative hxnan, hy.isNegative hynan, bne_self_eq_false]
  split
  · split
    · exact unsigned_invalid
    · exact unsigned_ofPattern (Nat.le_refl _)
  split
  · exact unsigned_ofPattern (Nat.zero_le _)
  · exact unsigned_round _ _

theorem Unsigned.div (hx : x.Unsigned) (hy : y.Unsigned) : (x / y).Unsigned := by
  refine unsigned_of_numbers fun hxnan hynan => ?_
  rw [hx.isNegative hxnan, hy.isNegative hynan, bne_self_eq_false]
  split
  · split
    · exact unsigned_invalid
    · exact unsigned_ofPattern (Nat.le_refl _)
  split
  · exact unsigned_ofPattern (Nat.zero_le _)
  split
  · split
    · exact unsigned_invalid
    · exact unsigned_ofPattern (Nat.le_refl _)
  · exact unsigned_round _ _

/-- A root has a sign only if it is that of a zero with a sign. -/
theorem notBelowZero_sqrt (x : Binary32) : x.sqrt.NotBelowZero := by
  unfold Binary32.sqrt
  split
  · rename_i hnan
    exact (unsigned_quiet hnan).notBelowZero
  split
  · rename_i hzero
    exact fun _ => Or.inr hzero
  split
  · exact unsigned_invalid.notBelowZero
  split
  · rename_i hneg _
    exact (unsigned_of_isNegative (Bool.eq_false_iff.mpr hneg)).notBelowZero
  · exact (unsigned_ofPattern (Nat.min_le_right _ _)).notBelowZero

/-- Forced into the range of a cosine, a number gets no sign. -/
theorem Unsigned.clamp (h : x.Unsigned) : (x.clamp .negativeOne .one).Unsigned := by
  rw [Binary32.clamp]
  by_cases hlow : x.isBelow .negativeOne = true
  · -- only a number with a sign is below another with one
    simp only [isBelow, Bool.and_eq_true, Bool.not_eq_true', decide_eq_true_eq] at hlow
    have hsign := h.isNegative hlow.1.1
    have hone : negativeOne.signedPattern < 0 := by decide
    rw [signedPattern, hsign, if_neg Bool.false_ne_true] at hlow
    omega
  · rw [if_neg hlow]
    split
    · exact unsigned_of_isNegative (by decide)
    · exact h

/-! ## Sums of many terms -/

theorem Unsigned.foldl_add :
    ∀ (xs : List Binary32) {sum : Binary32}, sum.Unsigned → (∀ x ∈ xs, x.Unsigned) →
      (xs.foldl (· + ·) sum).Unsigned := by
  intro xs
  induction xs with
  | nil => intro sum hsum _; exact hsum
  | cons x xs ih =>
    intro sum hsum hxs
    have hx := hxs x List.mem_cons_self
    exact ih (unsigned_add hsum.notBelowZero hx.notBelowZero (Or.inl hsum))
      fun x' hx' => hxs x' (List.mem_cons_of_mem _ hx')

/-- The first term takes the sign away that a sum starts with. -/
theorem unsigned_foldl_add {xs : List Binary32} (hxs : ∀ x ∈ xs, x.Unsigned) (hne : xs ≠ []) :
    (xs.foldl (· + ·) negativeZero).Unsigned := by
  cases xs with
  | nil => exact absurd rfl hne
  | cons x xs =>
    have hx := hxs x List.mem_cons_self
    have hstart : negativeZero.NotBelowZero := fun _ => Or.inr (by decide)
    exact Unsigned.foldl_add xs (unsigned_add hstart hx.notBelowZero (Or.inr hx))
      fun x' hx' => hxs x' (List.mem_cons_of_mem _ hx')

end Binary32

end Gazetteer
