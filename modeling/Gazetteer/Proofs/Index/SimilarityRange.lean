import Gazetteer.Proofs.Index.CountVectors

/-!
# The range of similarities

A cosine is meant to lie between minus one and one, and the similarity of a distance above zero and
not above one. For vectors of finite numbers this can fail in one way only: something overflows. A
square of a component, or a sum of squares, may be infinite although no component is. Then a cosine
may be no number and the similarity of a distance may be zero, and `similarityRange` says exactly
when.

It is never too small numbers that do harm, although squares and sums of squares may vanish. A
length that has not vanished is so far from zero that a product of two lengths does not vanish
either (`atLeast_mul_norm`). And a product of components overflows only if a square does
(`isInfinite_norm_of_isNaN_dot`), so where a product of vectors is no number, a length is infinite.

Vectors whose components are at most `2 ^ 50` are far from all that (`Moderate`), however many
components they have.
-/

set_option autoImplicit false

namespace Gazetteer

open BinaryFormat (single)
open Binary32 (powerOfTwo)

/-! ## One over one plus a distance -/

namespace Binary32

variable {d : Binary32} {low : Nat}

/-- Bounds for a finite distance, and for it plus one, bound the similarity from above. -/
theorem AtLeast.between_inverse (hd : d.AtLeast low) (hfinite : d.isFinite = true)
    {plusOne bound : Nat} (hplusOne : single.units plusOne ≤ single.units one.pattern +
      single.units low) (hpos : 0 < plusOne) (hinfinity : plusOne ≤ single.infinity)
    (hbound : single.units one.pattern * unitsOfOne ≤ single.units bound * single.units plusOne)
    (hboundFinite : bound < single.infinity) : (one / (one + d)).Between 1 bound := by
  have hgreatest : d.pattern ≤ single.infinity - 1 := by
    have hlt := isFinite_iff.mp hfinite
    omega
  -- one is nothing against the greatest distances, so the sum is finite
  have hsum : (one + d).pattern ≤ single.infinity - 1 := by
    refine pattern_add_le (by decide) hfinite ?_
    calc 2 * (one.units + d.units)
        ≤ 2 * (one.units + single.units (single.infinity - 1)) :=
          Nat.mul_le_mul_left 2 (Nat.add_le_add_left (units_le_units hgreatest) _)
      _ < single.twiceMiddle (single.infinity - 1) := by decide +kernel
  have hplus : (one + d).Between plusOne (single.infinity - 1) :=
    .ofAtLeast (Between.between_one.atLeast.add hd hinfinity hplusOne) (by decide) hsum
  exact Between.between_one.div hplus hpos (by decide +kernel) hbound hboundFinite

/-- An infinite distance leaves nothing of the similarity. -/
theorem AtLeast.between_inverse_zero (hd : d.AtLeast low) (hinfinite : d.isInfinite = true) :
    (one / (one + d)).Between 0 0 := by
  have hsign := hd.isNegative (pattern_ne_zero_of_isInfinite hinfinite)
  have hsum : one + d = d := by
    show Binary32.add one d = d
    unfold Binary32.add
    simp only [hd.isNaN, hinfinite, show one.isNaN = false by decide,
      show one.isInfinite = false by decide, Bool.false_eq_true, if_false, if_true]
  rw [hsum]
  show (Binary32.div one d).Between 0 0
  unfold Binary32.div
  simp only [hd.isNaN, hinfinite, hsign, show one.isNaN = false by decide,
    show one.isInfinite = false by decide, show one.isNegative = false by decide,
    bne_self_eq_false, Bool.false_eq_true, if_false, if_true]
  exact .ofPattern nofun (by decide) (Nat.le_refl 0) (Nat.le_refl 0)

end Binary32

namespace DenseVector

variable {a b : DenseVector}

/-! ## Sums of terms of any size -/

theorem forall_mem_zipWith {f : Binary32 → Binary32 → Binary32} {p : Binary32 → Prop}
    (h : ∀ x ∈ a, ∀ y ∈ b, p (f x y)) : ∀ z ∈ Array.zipWith f a b, p z := by
  intro z hz
  obtain ⟨i, hi, rfl⟩ := Array.mem_iff_getElem.mp hz
  rw [Array.getElem_zipWith]
  exact h _ (Array.getElem_mem _) _ (Array.getElem_mem _)

theorem atLeast_sum {terms : Array Binary32} {least : Nat} (hinfinity : least ≤ single.infinity)
    (hterms : ∀ x ∈ terms, x.AtLeast 0) (hleast : least = 0 ∨ ∃ x ∈ terms, least ≤ x.pattern) :
    (sum terms).AtLeast least := by
  rw [sum, ← Array.foldl_toList]
  refine Binary32.AtLeast.foldl_add hinfinity terms.toList ⟨fun _ => by decide, by decide,
    Nat.zero_le _⟩ (fun x hx => hterms x (Array.mem_toList_iff.mp hx)) (hleast.imp ?_ ?_)
  · rintro rfl
    exact Nat.zero_le _
  · rintro ⟨x, hx, hlow⟩
    exact ⟨x, Array.mem_toList_iff.mpr hx, hlow⟩

theorem pattern_sum_le {terms : Array Binary32} {term bound : Nat}
    (hfit : 2 * (single.units bound + single.units term) < single.twiceMiddle bound)
    (hfinite : bound < single.infinity) (hterm : term < single.infinity)
    (hterms : ∀ x ∈ terms, x.pattern ≤ term) : (sum terms).pattern ≤ bound := by
  rw [sum, ← Array.foldl_toList]
  exact Binary32.pattern_foldl_add_le hfit hfinite hterm terms.toList (Nat.zero_le _)
    fun x hx => hterms x (Array.mem_toList_iff.mp hx)

theorem isNaN_sum {terms : Array Binary32} (hterms : ∀ x ∈ terms, x.isFinite = true) :
    (sum terms).isNaN = false := by
  rw [sum, ← Array.foldl_toList]
  exact Binary32.isNaN_foldl_add terms.toList (by decide)
    fun x hx => hterms x (Array.mem_toList_iff.mp hx)

/-! ## Vectors of finite numbers -/

/-- All components are finite. -/
def AllFinite (a : DenseVector) : Prop := ∀ x ∈ a, x.isFinite = true

/-- The squares of finite components may be infinite, but they are not below zero. -/
theorem AllFinite.atLeast_squares (ha : a.AllFinite) :
    ∀ x ∈ a.map fun x => x * x, x.AtLeast 0 := by
  intro x hx
  obtain ⟨y, hy, rfl⟩ := Array.mem_map.mp hx
  exact .mul_self (Binary32.isNaN_of_isFinite (ha y hy)) (Nat.zero_le _) (Nat.zero_le _)
    (Nat.zero_le _)

theorem AllFinite.atLeast_norm (ha : a.AllFinite) : (norm a).AtLeast 0 :=
  (atLeast_sum (Nat.zero_le _) ha.atLeast_squares (Or.inl rfl)).sqrt (Nat.zero_le _)
    (Nat.zero_le _)

/-- The pattern of `1.25 * 2 ^ -75`, which is not above the root of the smallest magnitude. -/
def leastLength : Nat := 0x1A200000

/-- A length that is not zero is at least about the root of the smallest magnitude. -/
theorem AllFinite.leastLength_le (ha : a.AllFinite) (h : (norm a).isSame .zero = false) :
    (norm a).AtLeast leastLength := by
  have hsquares : (sum (a.map fun x => x * x)).AtLeast 0 :=
    atLeast_sum (Nat.zero_le _) ha.atLeast_squares (Or.inl rfl)
  refine Binary32.AtLeast.sqrt ⟨hsquares.sign, hsquares.isNaN, Nat.one_le_iff_ne_zero.mpr ?_⟩
    (by decide) (by decide +kernel)
  -- the root of zero is zero
  intro hzero
  have hroot : norm a = sum (a.map fun x => x * x) := by
    rw [norm, Binary32.sqrt, hsquares.isNaN, if_neg Bool.false_ne_true, if_pos hzero]
  rw [Bool.eq_false_iff, ne_eq, ha.atLeast_norm.isSame_zero_iff, hroot] at h
  exact h hzero

/-- **The product of two lengths does not vanish.** -/
theorem AllFinite.atLeast_mul_norm (ha : a.AllFinite) (hb : b.AllFinite)
    (hnorma : (norm a).isSame .zero = false) (hnormb : (norm b).isSame .zero = false) :
    (norm a * norm b).AtLeast 1 :=
  (ha.leastLength_le hnorma).mul (hb.leastLength_le hnormb) (by decide) (by decide) (by decide)
    (by decide +kernel)

theorem AllFinite.isInfinite_norm (ha : a.AllFinite) {x : Binary32} (hx : x ∈ a)
    (h : (x * x).isInfinite = true) : (norm a).isInfinite = true := by
  have hsum : (sum (a.map fun x => x * x)).AtLeast single.infinity :=
    atLeast_sum (Nat.le_refl _) ha.atLeast_squares
      (Or.inr ⟨x * x, Array.mem_map_of_mem hx, Nat.le_of_eq (Binary32.isInfinite_iff.mp h).symm⟩)
  have hinfinite := hsum.isInfinite_of_infinity
  have hpos := Binary32.pattern_ne_zero_of_isInfinite hinfinite
  rw [norm, Binary32.sqrt]
  simp only [hsum.isNaN, hpos, hsum.isNegative hpos, hinfinite, Bool.false_eq_true, if_false,
    if_true]

/-- **Where a product of vectors is no number, a length is infinite.** -/
theorem isInfinite_norm_of_isNaN_dot (ha : a.AllFinite) (hb : b.AllFinite)
    (h : (dot a b).isNaN = true) : (norm a).isInfinite = true ∨ (norm b).isInfinite = true := by
  by_contra hfinite
  have hproducts : ∀ z ∈ Array.zipWith (· * ·) a b, z.isFinite = true := by
    refine forall_mem_zipWith fun x hx y hy => ?_
    have hnumber : (x * y).isNaN = false := by
      rw [Bool.eq_false_iff, ne_eq, Binary32.isNaN_mul_iff]
      simp [Binary32.isNaN_of_isFinite (ha x hx), Binary32.isNaN_of_isFinite (hb y hy),
        Binary32.isInfinite_of_isFinite (ha x hx), Binary32.isInfinite_of_isFinite (hb y hy)]
    have hsmall : (x * y).isInfinite = false := by
      rw [Bool.eq_false_iff]
      intro hinfinite
      exact hfinite ((Binary32.isInfinite_mul_self (ha x hx) (hb y hy) hinfinite).imp
        (ha.isInfinite_norm hx) (hb.isInfinite_norm hy))
    rw [Binary32.isFinite_eq, hnumber, hsmall]
    rfl
  exact absurd h (Bool.eq_false_iff.mp (isNaN_sum hproducts))

theorem AllFinite.atLeast_squared_differences (ha : a.AllFinite) (hb : b.AllFinite) :
    ∀ z ∈ Array.zipWith (fun x y => (x - y) * (x - y)) a b, z.AtLeast 0 := by
  refine forall_mem_zipWith fun x hx y hy => ?_
  have hnumber : (x - y).isNaN = false := by
    rw [Bool.eq_false_iff, ne_eq, Binary32.isNaN_sub_iff]
    simp [Binary32.isNaN_of_isFinite (ha x hx), Binary32.isNaN_of_isFinite (hb y hy),
      Binary32.isInfinite_of_isFinite (ha x hx)]
  exact .mul_self hnumber (Nat.zero_le _) (Nat.zero_le _) (Nat.zero_le _)

theorem AllFinite.atLeast_distance (ha : a.AllFinite) (hb : b.AllFinite) :
    (distance a b).AtLeast 0 :=
  (atLeast_sum (Nat.zero_le _) (ha.atLeast_squared_differences hb) (Or.inl rfl)).sqrt
    (Nat.zero_le _) (Nat.zero_le _)

/-! ## Vectors of moderate numbers -/

/-- No component is greater than `2 ^ 50`, and none less than its negative. -/
def Moderate (a : DenseVector) : Prop := ∀ x ∈ a, x.pattern ≤ powerOfTwo 50

/-- Counts are moderate. -/
theorem Counts.moderate (ha : a.Counts) : a.Moderate := by
  intro x hx
  obtain ⟨i, hi, rfl⟩ := Array.mem_iff_getElem.mp hx
  exact Nat.le_trans (ha i hi).le_high (by decide)

theorem Moderate.allFinite (ha : a.Moderate) : a.AllFinite := fun x hx =>
  Binary32.isFinite_iff.mpr (Nat.lt_of_le_of_lt (ha x hx) (by decide))

theorem Moderate.pattern_dot_le (ha : a.Moderate) (hb : b.Moderate) :
    (dot a b).pattern ≤ powerOfTwo 125 := by
  have hproducts : ∀ z ∈ Array.zipWith (· * ·) a b, z.pattern ≤ powerOfTwo 100 := by
    refine forall_mem_zipWith fun x hx y hy => ?_
    refine Binary32.pattern_mul_le (ha.allFinite x hx) (hb.allFinite y hy) ?_
    calc x.units * y.units ≤ single.units (powerOfTwo 50) * single.units (powerOfTwo 50) :=
          Nat.mul_le_mul (Binary32.units_le_units (ha x hx)) (Binary32.units_le_units (hb y hy))
      _ ≤ single.units (powerOfTwo 100) * Binary32.unitsOfOne := by decide +kernel
  exact pattern_sum_le (by decide +kernel) (by decide) (by decide) hproducts

theorem Moderate.isFinite_norm (ha : a.Moderate) : (norm a).isFinite = true := by
  have hsquares : (sum (a.map fun x => x * x)).pattern ≤ powerOfTwo 125 := by
    rw [← Array.zipWith_self]
    exact ha.pattern_dot_le ha
  refine (atLeast_sum (Nat.zero_le _) ha.allFinite.atLeast_squares (Or.inl rfl)).isFinite_sqrt ?_
  exact Binary32.isFinite_iff.mpr (Nat.lt_of_le_of_lt hsquares (by decide))

theorem Moderate.isFinite_distance (ha : a.Moderate) (hb : b.Moderate) :
    (distance a b).isFinite = true := by
  have hdifference : ∀ x ∈ a, ∀ y ∈ b, (x - y).pattern ≤ powerOfTwo 51 := by
    intro x hx y hy
    refine Binary32.pattern_sub_le (ha.allFinite x hx) (hb.allFinite y hy) ?_
    calc 2 * (x.units + y.units)
        ≤ 2 * (single.units (powerOfTwo 50) + single.units (powerOfTwo 50)) :=
          Nat.mul_le_mul_left 2 (Nat.add_le_add (Binary32.units_le_units (ha x hx))
            (Binary32.units_le_units (hb y hy)))
      _ < single.twiceMiddle (powerOfTwo 51) := by decide +kernel
  have hsquares : ∀ z ∈ Array.zipWith (fun x y => (x - y) * (x - y)) a b,
      z.pattern ≤ powerOfTwo 102 := by
    refine forall_mem_zipWith fun x hx y hy => ?_
    have hle := Binary32.units_le_units (hdifference x hx y hy)
    have hfinite : (x - y).isFinite = true :=
      Binary32.isFinite_iff.mpr (Nat.lt_of_le_of_lt (hdifference x hx y hy) (by decide))
    refine Binary32.pattern_mul_le hfinite hfinite (Nat.le_trans (Nat.mul_le_mul hle hle) ?_)
    decide +kernel
  have hsum : (sum (Array.zipWith (fun x y => (x - y) * (x - y)) a b)).pattern ≤
      powerOfTwo 127 := pattern_sum_le (by decide +kernel) (by decide) (by decide) hsquares
  have hleast := atLeast_sum (Nat.zero_le _)
    (ha.allFinite.atLeast_squared_differences hb.allFinite) (Or.inl rfl)
  exact hleast.isFinite_sqrt
    (Binary32.isFinite_iff.mpr (Nat.lt_of_le_of_lt hsum (by decide)))

end DenseVector

namespace Metric

open DenseVector (norm dot distance leastLength isInfinite_norm_of_isNaN_dot)

variable {a b : DenseVector}

/-! ## Cosines -/

/--
**A cosine is no number exactly if the product of the lengths is infinite and that of the vectors
not finite.**
-/
theorem isNaN_cosineSimilarity_iff (ha : a.AllFinite) (hb : b.AllFinite) :
    (cosineSimilarity a b).isNaN = true ↔
      (norm a * norm b).isInfinite = true ∧ (dot a b).isFinite = false := by
  rw [cosineSimilarity, similarity]
  by_cases hzero : ((norm a).isSame .zero || (norm b).isSame .zero) = true
  · -- a length that is zero has no infinite product with anything
    rw [if_pos hzero]
    rw [Bool.or_eq_true, ha.atLeast_norm.isSame_zero_iff, hb.atLeast_norm.isSame_zero_iff] at hzero
    refine iff_of_false (by decide) fun h => ?_
    obtain ⟨hnorma, hnormb⟩ := Binary32.pattern_ne_zero_of_isInfinite_mul h.1
    exact hzero.elim hnorma hnormb
  · rw [if_neg hzero, Binary32.isNaN_clamp _ (by decide) (by decide), Binary32.isNaN_div_iff]
    rw [Bool.or_eq_true, not_or, Bool.not_eq_true, Bool.not_eq_true] at hzero
    have hproduct := ha.atLeast_mul_norm hb hzero.1 hzero.2
    have hpos : (norm a * norm b).pattern ≠ 0 := Nat.one_le_iff_ne_zero.mp hproduct.low_le
    have hoverflow : (dot a b).isNaN = true → (norm a * norm b).isInfinite = true := by
      intro hdot
      have hlong : ∀ {x : Binary32}, x.AtLeast leastLength → x.pattern ≠ 0 := fun hx =>
        Nat.ne_of_gt (Nat.lt_of_lt_of_le (by decide) hx.low_le)
      have hnorma := ha.leastLength_le hzero.1
      have hnormb := hb.leastLength_le hzero.2
      rcases isInfinite_norm_of_isNaN_dot ha hb hdot with h | h
      · exact Binary32.isInfinite_mul_of_left h hnormb.isNaN (hlong hnormb)
      · exact Binary32.isInfinite_mul_of_right hnorma.isNaN (hlong hnorma) h
    rw [Binary32.isFinite_eq, hproduct.isNaN]
    cases hdot : (dot a b).isNaN with
    | true => simp [hoverflow hdot]
    | false => simp [hpos, and_comm]

/-- A cosine that is a number lies in its range. -/
theorem isAtMost_cosineSimilarity (h : (cosineSimilarity a b).isNaN = false) :
    Binary32.negativeOne.isAtMost (cosineSimilarity a b) = true ∧
      (cosineSimilarity a b).isAtMost .one = true := by
  rw [cosineSimilarity, similarity] at h ⊢
  split
  · exact ⟨by decide, by decide⟩
  · rename_i hlengths
    rw [if_neg hlengths, Binary32.isNaN_clamp _ (by decide) (by decide)] at h
    exact Binary32.isAtMost_clamp h (by decide) (by decide) (by decide)

/-! ## The range -/

/-- The similarity of two vectors by their distance. -/
def inverseSimilarity (a b : DenseVector) : Binary32 :=
  inverseEuclidean.similarity a (norm a) b (norm b)

/-- What is computed of two vectors when nothing overflows. -/
structure InRange (a b : DenseVector) : Prop where
  norm_left : (norm a).isFinite = true
  norm_right : (norm b).isFinite = true
  dot : (dot a b).isFinite = true
  distance : (distance a b).isFinite = true
  cosine : Binary32.negativeOne.isAtMost (cosineSimilarity a b) = true ∧
    (cosineSimilarity a b).isAtMost .one = true
  inverse : Binary32.zero.isBelow (inverseSimilarity a b) = true ∧
    (inverseSimilarity a b).isAtMost .one = true

/-- What is known of the similarities of two vectors of finite numbers. -/
structure SimilarityRange (a b : DenseVector) : Prop where
  /-- A cosine is in its range or no number. -/
  cosine : (cosineSimilarity a b).isNaN = false →
    Binary32.negativeOne.isAtMost (cosineSimilarity a b) = true ∧
      (cosineSimilarity a b).isAtMost .one = true
  /-- It is no number if, and only if, the product of the lengths overflows and so does that of the
  vectors. -/
  cosine_isNaN : (cosineSimilarity a b).isNaN = true ↔
    (norm a * norm b).isInfinite = true ∧ (DenseVector.dot a b).isFinite = false
  /-- The similarity of a distance is a number from zero to one. -/
  inverse : Binary32.zero.isAtMost (inverseSimilarity a b) = true ∧
    (inverseSimilarity a b).isAtMost .one = true
  /-- It is zero if, and only if, the distance overflows. -/
  inverse_pos : Binary32.zero.isBelow (inverseSimilarity a b) = true ↔
    (DenseVector.distance a b).isFinite = true
  /-- Nothing overflows where all components are moderate. -/
  moderate : a.Moderate → b.Moderate → InRange a b

theorem between_inverseSimilarity (ha : a.AllFinite) (hb : b.AllFinite)
    (hfinite : (distance a b).isFinite = true) :
    (inverseSimilarity a b).Between 1 Binary32.one.pattern :=
  (ha.atLeast_distance hb).between_inverse hfinite (Nat.le_add_right _ _) (by decide) (by decide)
    (by decide +kernel) (by decide)

theorem between_inverseSimilarity_zero (ha : a.AllFinite) (hb : b.AllFinite)
    (hinfinite : (distance a b).isInfinite = true) : (inverseSimilarity a b).Between 0 0 :=
  (ha.atLeast_distance hb).between_inverse_zero hinfinite

/-- Moderate vectors have similarities in their range, and all that these are made of is finite. -/
theorem inRange_of_moderate (ha : a.Moderate) (hb : b.Moderate) : InRange a b := by
  have hdot : (DenseVector.dot a b).isFinite = true :=
    Binary32.isFinite_iff.mpr (Nat.lt_of_le_of_lt (ha.pattern_dot_le hb) (by decide))
  have hdistance := ha.isFinite_distance hb
  have hinverse := between_inverseSimilarity ha.allFinite hb.allFinite hdistance
  refine ⟨ha.isFinite_norm, hb.isFinite_norm, hdot, hdistance, isAtMost_cosineSimilarity ?_,
    ?_, (hinverse.isAtMost_one (Nat.le_refl _)).2⟩
  · rw [Bool.eq_false_iff, ne_eq, isNaN_cosineSimilarity_iff ha.allFinite hb.allFinite, hdot]
    simp
  · rw [Binary32.Between.between_zero.isBelow_iff hinverse]
    exact hinverse.low_le

/-- The similarity of a distance is zero only where the distance is infinite. -/
theorem inverseSimilarity_range (ha : a.AllFinite) (hb : b.AllFinite) :
    (Binary32.zero.isAtMost (inverseSimilarity a b) = true ∧
        (inverseSimilarity a b).isAtMost .one = true) ∧
      (Binary32.zero.isBelow (inverseSimilarity a b) = true ↔
        (distance a b).isFinite = true) := by
  cases hfinite : (distance a b).isFinite with
  | true =>
    have h := between_inverseSimilarity ha hb hfinite
    refine ⟨h.isAtMost_one (Nat.le_refl _), ?_⟩
    rw [Binary32.Between.between_zero.isBelow_iff h]
    exact iff_of_true h.low_le rfl
  | false =>
    have hinfinite : (distance a b).isInfinite = true := by
      rw [Binary32.isFinite_eq, (ha.atLeast_distance hb).isNaN] at hfinite
      simpa using hfinite
    have h := between_inverseSimilarity_zero ha hb hinfinite
    refine ⟨h.isAtMost_one (Nat.zero_le _), ?_⟩
    rw [Binary32.Between.between_zero.isBelow_iff h]
    exact iff_of_false (Nat.not_lt.mpr h.le_high) Bool.false_ne_true

/-- **The range of similarities** of vectors of finite numbers, and when they leave it. -/
theorem similarityRange (ha : a.AllFinite) (hb : b.AllFinite) : SimilarityRange a b where
  cosine := isAtMost_cosineSimilarity
  cosine_isNaN := isNaN_cosineSimilarity_iff ha hb
  inverse := (inverseSimilarity_range ha hb).1
  inverse_pos := (inverseSimilarity_range ha hb).2
  moderate := inRange_of_moderate

/-! ## Overflow -/

/-- The longest of all vectors with one component. -/
def longest : DenseVector := #[⟨0x7F7FFFFF⟩]

/-- The vector on the other side that is just as long. -/
def opposite : DenseVector := #[⟨0xFF7FFFFF⟩]

theorem allFinite_longest : longest.AllFinite ∧ opposite.AllFinite := by
  constructor <;> · show ∀ x ∈ (_ : Array Binary32), _; decide

/-- The cosine of the longest vector with itself is no number, and the similarity of the longest
distance is zero. -/
theorem similarityRange_longest :
    longest.AllFinite ∧ opposite.AllFinite ∧ (cosineSimilarity longest longest).isNaN = true ∧
      Binary32.zero.isBelow (inverseSimilarity longest opposite) = false := by
  obtain ⟨hlongest, hopposite⟩ := allFinite_longest
  have hself := similarityRange hlongest hlongest
  have hother := similarityRange hlongest hopposite
  refine ⟨hlongest, hopposite, hself.cosine_isNaN.mpr ⟨by decide +kernel, by decide +kernel⟩, ?_⟩
  rw [Bool.eq_false_iff, ne_eq, hother.inverse_pos]
  decide +kernel

/-- **Finite components are not enough** for a cosine in its range, or for a similarity of a distance
in its. -/
theorem not_forall_inRange :
    (¬ ∀ a b : DenseVector, a.size = b.size → 1 ≤ a.size → a.AllFinite → b.AllFinite →
        Binary32.negativeOne.isAtMost (cosineSimilarity a b) = true ∧
          (cosineSimilarity a b).isAtMost .one = true) ∧
      ¬ ∀ a b : DenseVector, a.size = b.size → 1 ≤ a.size → a.AllFinite → b.AllFinite →
        Binary32.zero.isBelow (inverseSimilarity a b) = true ∧
          (inverseSimilarity a b).isAtMost .one = true := by
  obtain ⟨hlongest, hopposite⟩ := allFinite_longest
  constructor
  · intro h
    exact absurd (h longest longest rfl (by decide) hlongest hlongest).1 (by decide +kernel)
  · intro h
    exact absurd (h longest opposite rfl (by decide) hlongest hopposite).1 (by decide +kernel)

end Metric

end Gazetteer
