import Gazetteer.Proofs.Index.SimilarityRange
import Gazetteer.Proofs.Number.RelativeError

/-!
# Vectors compared with themselves

A vector is at no distance from itself, so by its distance it is similar to itself with exactly one
(`inverseSimilarity_self`). Vectors of counts that differ do so by one at least, which leaves them
with a half at most (`between_inverseSimilarity_of_ne`): nothing comes near one but what is the same.

By angle a vector need not be similar to itself with exactly one, because the product of its lengths is
rounded. But it is never far from that (`between_cosine_self`).
-/

set_option autoImplicit false

namespace Gazetteer

open BinaryFormat (single)
open Binary32 (powerOfTwo almostOne)

/-! ## Differences -/

namespace Binary32

variable {x y : Binary32}

theorem pattern_sub_self (hx : x.isFinite = true) : (x - x).pattern = 0 := by
  rw [sub_eq_add_neg hx hx]
  show (Binary32.add x x.neg).pattern = 0
  unfold Binary32.add
  simp only [isNaN_neg, isInfinite_neg, isNaN_of_isFinite hx, isInfinite_of_isFinite hx,
    signedUnits_neg, Int.add_right_neg, Bool.false_eq_true, if_false, if_true]
  exact pattern_ofPattern _ (by decide)

/-- Counts that differ do so by one at least. -/
theorem IsCount.one_le_sub {m n : Nat} (hx : x.IsCount m) (hy : y.IsCount n) (hne : m ≠ n) :
    powerOfTwo 0 ≤ (x - y).pattern := by
  have hdifference : x.signedUnits + y.neg.signedUnits = ((m : Int) - n) * unitsOfOne := by
    rw [signedUnits_neg, hx.signedUnits, hy.signedUnits, Int.natCast_mul, Int.natCast_mul,
      ← Int.sub_eq_add_neg, ← Int.sub_mul]
  have hone : 1 ≤ ((m : Int) - n).natAbs := by omega
  have hworth : unitsOfOne ≤ (((m : Int) - n) * unitsOfOne).natAbs := by
    rw [Int.natAbs_mul, Int.natAbs_natCast]
    exact Nat.le_mul_of_pos_left _ hone
  rw [sub_eq_add_neg hx.finite hy.finite]
  show powerOfTwo 0 ≤ (Binary32.add x y.neg).pattern
  unfold Binary32.add
  simp only [isNaN_neg, isInfinite_neg, hx.isNaN, hy.isNaN, hx.isInfinite, hy.isInfinite,
    hdifference, Bool.false_eq_true, if_false]
  have hpos : ((m : Int) - n) * unitsOfOne ≠ 0 := by
    intro hzero
    rw [hzero] at hworth
    exact absurd hworth (by decide)
  rw [if_neg hpos, pattern_round]
  refine BinaryFormat.le_ofRatio Nat.one_pos (by decide) ?_
  calc single.units (powerOfTwo 0) * 1 = unitsOfOne := by decide +kernel
    _ ≤ (((m : Int) - n) * unitsOfOne).natAbs := hworth

/-- One is the only number that lies between one and one. -/
theorem Between.eq_one (hx : x.Between one.pattern one.pattern) : x = one := by
  have hpattern : x.pattern = one.pattern := Nat.le_antisymm hx.le_high hx.low_le
  have hpos : x.pattern ≠ 0 := hpattern ▸ by decide
  refine eq_of_place_eq ?_
  rw [place, hx.isNegative hpos, hpattern]
  rfl

/-- A half. -/
def half : Binary32 := ⟨0x3F000000⟩

end Binary32

namespace DenseVector

variable {a b : DenseVector}

/-! ## Distances -/

/-- A vector is at no distance from itself. -/
theorem AllFinite.between_distance_self (ha : a.AllFinite) : (distance a a).Between 0 0 := by
  have hsquares : ∀ i (hi : i < (Array.zipWith (fun x y => (x - y) * (x - y)) a a).size),
      (Array.zipWith (fun x y => (x - y) * (x - y)) a a)[i].Between 0 0 := by
    intro i hi
    rw [Array.getElem_zipWith]
    rw [Array.size_zipWith, Nat.min_self] at hi
    have hdifference := Binary32.pattern_sub_self (ha a[i] (Array.getElem_mem hi))
    have hfinite : (a[i] - a[i]).isFinite = true :=
      Binary32.isFinite_iff.mpr (hdifference.symm ▸ by decide)
    refine .ofAtLeast (.mul_self (Binary32.isNaN_of_isFinite hfinite) (Nat.zero_le _)
      (Nat.zero_le _) (Nat.zero_le _)) (by decide) (Binary32.pattern_mul_le hfinite hfinite ?_)
    rw [Binary32.units_of_pattern_eq_zero hdifference, Nat.zero_mul]
    exact Nat.zero_le _
  have hsum : (sum (Array.zipWith (fun x y => (x - y) * (x - y)) a a)).Between 0 0 :=
    between_sum (by decide) (by decide) (by decide) hsquares (Or.inl rfl)
  exact hsum.sqrt (by decide) (by decide) (by decide)

/-- Each component is a count that can be told from the next. -/
def Counted (a : DenseVector) : Prop := ∀ x ∈ a, ∃ n ≤ Binary32.countLimit, x.IsCount n

theorem Counted.counts (ha : a.Counted) : a.Counts := by
  intro i hi
  obtain ⟨n, hn, hcount⟩ := ha a[i] (Array.getElem_mem hi)
  exact (hcount.between hn).mono (Nat.zero_le _) (Nat.le_refl _)

/-- Vectors of counts that differ have a distance of one at least. -/
theorem Counted.atLeast_distance (ha : a.Counted) (hb : b.Counted) (hsize : a.size = b.size)
    (hne : a ≠ b) : (distance a b).AtLeast (powerOfTwo 0) := by
  obtain ⟨i, hia, hib, hdiffer⟩ : ∃ i, ∃ (hia : i < a.size) (hib : i < b.size), a[i] ≠ b[i] := by
    by_contra hsame
    refine hne (Array.ext hsize fun i hia hib => ?_)
    by_contra hdiffer
    exact hsame ⟨i, hia, hib, hdiffer⟩
  obtain ⟨m, -, hm⟩ := ha a[i] (Array.getElem_mem hia)
  obtain ⟨n, -, hn⟩ := hb b[i] (Array.getElem_mem hib)
  have hcounts : m ≠ n := by
    rintro rfl
    exact hdiffer (hm.eq hn)
  have hafinite := ha.counts.moderate.allFinite
  have hbfinite := hb.counts.moderate.allFinite
  have hfinite : (a[i] - b[i]).isNaN = false := by
    rw [Bool.eq_false_iff, ne_eq, Binary32.isNaN_sub_iff]
    simp [hm.isNaN, hn.isNaN, hm.isInfinite]
  have hsquare : ((a[i] - b[i]) * (a[i] - b[i])).AtLeast (powerOfTwo 0) :=
    .mul_self hfinite (hm.one_le_sub hn hcounts) (by decide) (by decide +kernel)
  refine (atLeast_sum (by decide) (hafinite.atLeast_squared_differences hbfinite)
    (Or.inr ⟨_, Array.mem_iff_getElem.mpr ⟨i, ?_, Array.getElem_zipWith _⟩,
      hsquare.low_le⟩)).sqrt (by decide) (by decide +kernel)
  rw [Array.size_zipWith]
  omega

/-- A vector of counts that is not zero has a length. -/
theorem Counted.meet_self (ha : a.Counted) (h : ∃ x ∈ a, x ≠ .zero) : Meet a a := by
  obtain ⟨x, hx, hne⟩ := h
  obtain ⟨n, hn, hcount⟩ := ha x hx
  obtain ⟨i, hi, rfl⟩ := Array.mem_iff_getElem.mp hx
  have hpos : n ≠ 0 := by
    rintro rfl
    exact hne (hcount.eq Binary32.isCount_zero)
  have hlow := (hcount.between hn).low_le
  rw [if_neg hpos] at hlow
  exact ⟨i, hi, hi, hlow, hlow⟩

end DenseVector

namespace Metric

open DenseVector (norm dot distance)

variable {a b : DenseVector}

/-! ## Similarities -/

/-- **A vector is similar to itself with exactly one**, by its distance. -/
theorem inverseSimilarity_self (ha : a.AllFinite) : inverseSimilarity a a = .one := by
  have hplus : (Binary32.one + distance a a).Between Binary32.one.pattern Binary32.one.pattern :=
    (Binary32.Between.between_one.add ha.between_distance_self (by decide +kernel)
      (by decide)).mono (Nat.le_max_left _ _) (Nat.le_refl _)
  have hquotient : (inverseSimilarity a a).Between Binary32.one.pattern Binary32.one.pattern :=
    Binary32.Between.between_one.div hplus (by decide) (by decide +kernel) (by decide +kernel)
      (by decide)
  exact hquotient.eq_one

/-- **Vectors of counts that differ are at most half as similar**, by their distance. -/
theorem between_inverseSimilarity_of_ne (ha : a.Counted) (hb : b.Counted)
    (hsize : a.size = b.size) (hne : a ≠ b) :
    (inverseSimilarity a b).Between 1 Binary32.half.pattern :=
  (ha.atLeast_distance hb hsize hne).between_inverse
    (ha.counts.moderate.isFinite_distance hb.counts.moderate)
    (show single.units (powerOfTwo 1) ≤ _ by decide +kernel) (by decide) (by decide)
    (by decide +kernel) (by decide)

/-- **A vector of counts is almost one by angle to itself**, if it has counted anything. -/
theorem between_cosine_self (ha : a.Counts) (hmeet : DenseVector.Meet a a) :
    (cosineSimilarity a a).Between almostOne Binary32.one.pattern := by
  have hquotient : (dot a a / (norm a * norm a)).Between almostOne (powerOfTwo 73) := by
    rw [DenseVector.norm_eq]
    exact (DenseVector.between_dot ha ha hmeet).div_square_sqrt
  rw [cosineSimilarity, similarity, DenseVector.isSame_norm_eq_false ha hmeet, Bool.or_self,
    if_neg Bool.false_ne_true]
  exact hquotient.clamp (by decide)

end Metric

end Gazetteer
