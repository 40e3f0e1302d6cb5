import Gazetteer.Index.Metric
import Gazetteer.Proofs.Number.Bounds

/-!
# Similarities of vectors of counts

The vectors of the encoders have counts for components, and no count is greater than `2 ^ 24`. So
products of components are at most `2 ^ 48`, and a sum of such products is at most `2 ^ 73`: there
the next product is too small to make a difference. All that a cosine is computed from therefore
stays far from overflowing, and where both vectors have counted something in the same component,
**their cosine is positive** (`between_cosine`), whatever their width.
-/

set_option autoImplicit false

namespace Gazetteer

open BinaryFormat (single)
open Binary32 (powerOfTwo)

namespace DenseVector

variable {a b : DenseVector}

/-! ## Sums of products -/

theorem between_sum {terms : Array Binary32} {least term bound : Nat}
    (hfit : 2 * (single.units bound + single.units term) < single.twiceMiddle bound)
    (hfinite : bound < single.infinity) (hterm : term < single.infinity)
    (hterms : ∀ i (hi : i < terms.size), terms[i].Between 0 term)
    (hleast : least = 0 ∨ ∃ i, ∃ hi : i < terms.size, least ≤ terms[i].pattern) :
    (sum terms).Between least bound := by
  rw [sum, ← Array.foldl_toList]
  have hstart : Binary32.negativeZero.Between 0 bound :=
    ⟨fun _ => by decide, by decide, Nat.zero_le _, Nat.zero_le bound⟩
  refine Binary32.Between.foldl_add hfit hfinite hterm terms.toList hstart (fun x hx => ?_) ?_
  · obtain ⟨i, hi, rfl⟩ := Array.mem_iff_getElem.mp (Array.mem_toList_iff.mp hx)
    exact hterms i hi
  · rcases hleast with rfl | ⟨i, hi, hlow⟩
    · exact Or.inl (Nat.zero_le _)
    · exact Or.inr ⟨terms[i], Array.mem_toList_iff.mpr (Array.getElem_mem hi), hlow⟩

/-- The length of a vector is the root of its product with itself. -/
theorem norm_eq (a : DenseVector) : norm a = (dot a a).sqrt := by
  rw [norm, dot, Array.zipWith_self]

/-! ## Counts -/

/-- No component is negative or greater than the greatest count. -/
def Counts (a : DenseVector) : Prop := ∀ i (hi : i < a.size), a[i].Between 0 (powerOfTwo 24)

/-- Both vectors have counted something in the same component. -/
def Meet (a b : DenseVector) : Prop :=
  ∃ i, ∃ (ha : i < a.size) (hb : i < b.size),
    powerOfTwo 0 ≤ a[i].pattern ∧ powerOfTwo 0 ≤ b[i].pattern

theorem Meet.left (h : Meet a b) : Meet a a := by
  obtain ⟨i, ha, -, hlow, -⟩ := h
  exact ⟨i, ha, ha, hlow, hlow⟩

theorem Meet.right (h : Meet a b) : Meet b b := by
  obtain ⟨i, -, hb, -, hlow⟩ := h
  exact ⟨i, hb, hb, hlow, hlow⟩

theorem between_dot (ha : a.Counts) (hb : b.Counts) (hmeet : Meet a b) :
    (dot a b).Between (powerOfTwo 0) (powerOfTwo 73) := by
  have hterms : ∀ i (hi : i < (Array.zipWith (· * ·) a b).size),
      (Array.zipWith (· * ·) a b)[i].Between 0 (powerOfTwo 48) := by
    intro i hi
    rw [Array.size_zipWith] at hi
    rw [Array.getElem_zipWith]
    exact (ha i (by omega)).mul (hb i (by omega)) (by decide +kernel) (by decide +kernel)
      (by decide)
  refine between_sum (by decide +kernel) (by decide) (by decide) hterms (Or.inr ?_)
  obtain ⟨i, hia, hib, halow, hblow⟩ := hmeet
  refine ⟨i, by rw [Array.size_zipWith]; omega, ?_⟩
  rw [Array.getElem_zipWith]
  -- where both have counted, the product is no less than one
  have hacount : a[i].Between (powerOfTwo 0) (powerOfTwo 24) := { ha i hia with low_le := halow }
  have hbcount : b[i].Between (powerOfTwo 0) (powerOfTwo 24) := { hb i hib with low_le := hblow }
  have hcount : (a[i] * b[i]).Between (powerOfTwo 0) (powerOfTwo 48) :=
    hacount.mul hbcount (by decide +kernel) (by decide +kernel) (by decide)
  exact hcount.low_le

/-- A vector that has counted something has a length. -/
theorem between_norm (ha : a.Counts) (hmeet : Meet a a) :
    (norm a).Between (powerOfTwo 0) (powerOfTwo 37) := by
  rw [norm_eq]
  exact (between_dot ha ha hmeet).sqrt (by decide +kernel) (by decide +kernel) (by decide)

theorem isBelow_norm (ha : a.Counts) (hmeet : Meet a a) : Binary32.zero.isBelow (norm a) = true := by
  have hnorm := between_norm ha hmeet
  rw [Binary32.Between.between_zero.isBelow_iff hnorm]
  exact Nat.lt_of_lt_of_le (by decide) hnorm.low_le

theorem isSame_norm_eq_false (ha : a.Counts) (hmeet : Meet a a) :
    (norm a).isSame .zero = false := by
  have hnorm := between_norm ha hmeet
  rw [Bool.eq_false_iff, ne_eq, hnorm.isSame_iff .between_zero]
  exact Nat.ne_of_gt (Nat.lt_of_lt_of_le (by decide) hnorm.low_le)

/-- **Vectors that have counted something in the same component have a positive cosine.** -/
theorem between_cosine (ha : a.Counts) (hb : b.Counts) (hmeet : Meet a b) :
    (Metric.cosine.similarity a (norm a) b (norm b)).Between 1 Binary32.one.pattern := by
  have hnorma := between_norm ha hmeet.left
  have hnormb := between_norm hb hmeet.right
  have hnorms : (norm a * norm b).Between (powerOfTwo 0) (powerOfTwo 74) :=
    hnorma.mul hnormb (by decide +kernel) (by decide +kernel) (by decide)
  have hquotient : (dot a b / (norm a * norm b)).Between 1 (powerOfTwo 73) :=
    (between_dot ha hb hmeet).div hnorms (by decide) (by decide +kernel) (by decide +kernel)
      (by decide)
  rw [Metric.similarity, isSame_norm_eq_false ha hmeet.left, isSame_norm_eq_false hb hmeet.right,
    Bool.or_self, if_neg Bool.false_ne_true]
  exact hquotient.clamp (by decide)

/-! ## Nothing counted -/

/-- A vector of zeros has no length. -/
theorem isSame_norm_zero (h : ∀ i (hi : i < a.size), a[i] = .zero) :
    (norm a).isSame .zero = true := by
  have hsum : (dot a a).Between 0 0 := by
    have hterms : ∀ i (hi : i < (Array.zipWith (· * ·) a a).size),
        (Array.zipWith (· * ·) a a)[i].Between 0 0 := by
      intro i hi
      rw [Array.size_zipWith] at hi
      rw [Array.getElem_zipWith, h i (by omega)]
      exact Binary32.Between.between_zero.mul .between_zero (by decide) (by decide) (by decide)
    exact between_sum (by decide) (by decide) (by decide) hterms (Or.inl rfl)
  have hnorm : (norm a).Between 0 0 := by
    rw [norm_eq]
    exact hsum.sqrt (by decide) (by decide) (by decide)
  rw [hnorm.isSame_iff .between_zero]
  exact Nat.le_zero.mp hnorm.le_high

end DenseVector

end Gazetteer
