import Gazetteer.Proofs.Number.NotANumber

/-!
# Magnitudes, and what overflows

What a rounded result is, is known by bounds of its magnitude: a pattern that it is not above, or one
that it is not below. Rounding does not cross a magnitude, so bounds of the exact result are bounds of
the rounded one.

**Bounds from above** are kept by operations on numbers of either sign (`pattern_add_le` and its
kin), also by a sum of any number of terms, if these are small enough against the bound: where a term
is less than half the way to the next magnitude, a sum stops growing (`pattern_foldl_add_le`).

**Bounds from below** are those of numbers that are not below zero (`AtLeast`). Such a number may be
infinite, and infinity is a bound from below like any other: what has become infinite stays so under
sums and roots. This is how an overflow is followed through a computation. If a product overflows,
then so does the square of one of its operands (`isInfinite_mul_self`), so where a sum of products
overflows, a sum of squares does.
-/

set_option autoImplicit false

namespace Gazetteer

namespace Binary32

open BinaryFormat (single)

variable {x y : Binary32} {low low' high least bound : Nat}

/-! ## Worth -/

theorem units_eq_zero_iff {pattern : Nat} : single.units pattern = 0 ↔ pattern = 0 :=
  single.strictMono_units.injective.eq_iff (b := 0)

theorem le_zero_of_units_mul_le {pattern factor : Nat} (h : single.units pattern * factor ≤ 0)
    (hfactor : 0 < factor) : pattern ≤ 0 := by
  have hunits := (Nat.mul_eq_zero.mp (Nat.le_zero.mp h)).resolve_right (Nat.ne_of_gt hfactor)
  exact Nat.le_zero.mpr (units_eq_zero_iff.mp hunits)

theorem units_le_units (h : x.pattern ≤ high) : x.units ≤ single.units high :=
  single.strictMono_units.monotone h

theorem units_of_pattern_eq_zero (h : x.pattern = 0) : x.units = 0 := units_eq_zero_iff.mpr h

theorem natAbs_signedUnits (x : Binary32) : x.signedUnits.natAbs = x.units := by
  rw [signedUnits]
  split
  · rw [Int.natAbs_neg, Int.natAbs_natCast]
  · exact Int.natAbs_natCast _

/-! ## Bounds from above -/

theorem pattern_round (negative : Bool) (num den : Nat) :
    (round negative num den).pattern = single.ofRatio num den :=
  pattern_ofPattern negative (Nat.lt_of_le_of_lt (Nat.min_le_right _ _) (by decide))

/-- What is less than half the way past a magnitude is rounded to it at most. -/
theorem pattern_add_le (hx : x.isFinite = true) (hy : y.isFinite = true)
    (hbound : 2 * (x.units + y.units) < single.twiceMiddle bound) : (x + y).pattern ≤ bound := by
  show (Binary32.add x y).pattern ≤ bound
  unfold Binary32.add
  simp only [isNaN_of_isFinite hx, isNaN_of_isFinite hy, isInfinite_of_isFinite hx,
    isInfinite_of_isFinite hy, Bool.false_eq_true, if_false]
  split
  · rw [pattern_ofPattern _ (by decide)]
    exact Nat.zero_le _
  · have hsum := Int.natAbs_add_le x.signedUnits y.signedUnits
    rw [natAbs_signedUnits, natAbs_signedUnits] at hsum
    rw [pattern_round]
    exact BinaryFormat.ofRatio_le (by omega)

theorem sub_eq_add_neg (hx : x.isFinite = true) (hy : y.isFinite = true) : x - y = x + y.neg := by
  show Binary32.sub x y = Binary32.add x y.neg
  rw [sub, isNaN_of_isFinite hx, isNaN_of_isFinite hy, if_neg Bool.false_ne_true,
    if_neg Bool.false_ne_true]

theorem pattern_sub_le (hx : x.isFinite = true) (hy : y.isFinite = true)
    (hbound : 2 * (x.units + y.units) < single.twiceMiddle bound) : (x - y).pattern ≤ bound := by
  rw [sub_eq_add_neg hx hy]
  exact pattern_add_le hx ((isFinite_neg y).trans hy) (y.units_neg.symm ▸ hbound)

/-- The product of two finite numbers, and which sign it has. -/
theorem mul_eq_of_isFinite (hx : x.isFinite = true) (hy : y.isFinite = true) :
    x * y = if x.pattern = 0 ∨ y.pattern = 0 then ofPattern (x.isNegative != y.isNegative) 0
      else round (x.isNegative != y.isNegative) (x.units * y.units) unitsOfOne := by
  show Binary32.mul x y = _
  unfold Binary32.mul
  simp only [isNaN_of_isFinite hx, isNaN_of_isFinite hy, isInfinite_of_isFinite hx,
    isInfinite_of_isFinite hy, Bool.or_self, Bool.false_eq_true, if_false]

theorem pattern_mul (hx : x.isFinite = true) (hy : y.isFinite = true) :
    (x * y).pattern = single.ofRatio (x.units * y.units) unitsOfOne := by
  rw [mul_eq_of_isFinite hx hy]
  split
  · rename_i hzero
    have hnothing : x.units * y.units = 0 :=
      Nat.mul_eq_zero.mpr (hzero.imp units_of_pattern_eq_zero units_of_pattern_eq_zero)
    rw [pattern_ofPattern _ (by decide), hnothing]
    exact (Nat.le_zero.mp (BinaryFormat.ofRatio_le_of_le_units (by decide) (Nat.zero_le _))).symm
  · exact pattern_round _ _ _

theorem pattern_mul_le (hx : x.isFinite = true) (hy : y.isFinite = true)
    (hbound : x.units * y.units ≤ single.units bound * unitsOfOne) : (x * y).pattern ≤ bound := by
  rw [pattern_mul hx hy]
  exact BinaryFormat.ofRatio_le_of_le_units (by decide) hbound

theorem pattern_div (hx : x.isFinite = true) (hy : y.isFinite = true) (hy0 : y.pattern ≠ 0) :
    (x / y).pattern = single.ofRatio (x.units * unitsOfOne) y.units := by
  show (Binary32.div x y).pattern = _
  unfold Binary32.div
  simp only [isNaN_of_isFinite hx, isNaN_of_isFinite hy, isInfinite_of_isFinite hx,
    isInfinite_of_isFinite hy, hy0, Bool.false_eq_true, if_false]
  exact pattern_round _ _ _

/-- A sum does not grow past a magnitude for which each term is too small, whatever the signs. -/
theorem pattern_foldl_add_le {term : Nat}
    (hfit : 2 * (single.units bound + single.units term) < single.twiceMiddle bound)
    (hfinite : bound < single.infinity) (hterm : term < single.infinity) (xs : List Binary32) :
    ∀ {sum : Binary32}, sum.pattern ≤ bound → (∀ x ∈ xs, x.pattern ≤ term) →
      (xs.foldl (· + ·) sum).pattern ≤ bound := by
  induction xs with
  | nil => exact fun hsum _ => hsum
  | cons x xs ih =>
    intro sum hsum hxs
    have hx := hxs x List.mem_cons_self
    refine ih (pattern_add_le (isFinite_iff.mpr (Nat.lt_of_le_of_lt hsum hfinite))
      (isFinite_iff.mpr (Nat.lt_of_le_of_lt hx hterm)) (Nat.lt_of_le_of_lt ?_ hfit))
      fun x' hx' => hxs x' (List.mem_cons_of_mem _ hx')
    exact Nat.mul_le_mul_left 2 (Nat.add_le_add (units_le_units hsum) (units_le_units hx))

/-- A sum of finite terms is a number. It may be infinite, but then it stays so. -/
theorem isNaN_foldl_add (xs : List Binary32) :
    ∀ {sum : Binary32}, sum.isNaN = false → (∀ x ∈ xs, x.isFinite = true) →
      (xs.foldl (· + ·) sum).isNaN = false := by
  induction xs with
  | nil => exact fun hsum _ => hsum
  | cons x xs ih =>
    intro sum hsum hxs
    have hx := hxs x List.mem_cons_self
    refine ih ?_ fun x' hx' => hxs x' (List.mem_cons_of_mem _ hx')
    rw [Bool.eq_false_iff, ne_eq, isNaN_add_iff]
    simp [hsum, isNaN_of_isFinite hx, isInfinite_of_isFinite hx]

/-! ## Bounds from below -/

/--
The number is not below zero, and its magnitude is at or above a pattern. It may be infinite, and a
zero may have either sign.
-/
structure AtLeast (x : Binary32) (low : Nat) : Prop where
  sign : x.isNegative = true → x.pattern = 0
  isNaN : x.isNaN = false
  low_le : low ≤ x.pattern

namespace AtLeast

theorem mono (h : x.AtLeast low) (hle : low' ≤ low) : x.AtLeast low' :=
  ⟨h.sign, h.isNaN, Nat.le_trans hle h.low_le⟩

theorem isNegative (h : x.AtLeast low) (hpos : x.pattern ≠ 0) : x.isNegative = false :=
  Bool.eq_false_iff.mpr fun hneg => hpos (h.sign hneg)

theorem signedPattern (h : x.AtLeast low) : x.signedPattern = (x.pattern : Int) := by
  rw [Binary32.signedPattern]
  split
  · rename_i hneg
    rw [h.sign hneg]
    rfl
  · rfl

theorem isSame_zero_iff (h : x.AtLeast low) : x.isSame .zero = true ↔ x.pattern = 0 := by
  rw [isSame, h.isNaN, h.signedPattern]
  simp only [show zero.isNaN = false by decide, show zero.signedPattern = 0 by decide,
    Bool.not_false, Bool.true_and, beq_iff_eq]
  exact Int.natCast_eq_zero

theorem isInfinite_of_infinity (h : x.AtLeast single.infinity) : x.isInfinite = true := by
  have hnan := h.isNaN
  rw [Binary32.isNaN, decide_eq_false_iff_not, Nat.not_lt] at hnan
  exact isInfinite_iff.mpr (Nat.le_antisymm hnan h.low_le)

/-- Infinity is at least anything. -/
theorem of_isInfinite (hsign : x.isNegative = false) (hinf : x.isInfinite = true)
    (hlow : low ≤ single.infinity) : x.AtLeast low :=
  ⟨fun hneg => absurd hneg (by simp [hsign]), isNaN_of_isInfinite hinf,
    isInfinite_iff.mp hinf ▸ hlow⟩

theorem signedUnits (h : x.AtLeast low) : x.signedUnits = (x.units : Int) := by
  rw [Binary32.signedUnits]
  split
  · rename_i hneg
    rw [units_of_pattern_eq_zero (h.sign hneg)]
    rfl
  · rfl

theorem units_low_le (h : x.AtLeast low) : single.units low ≤ x.units :=
  single.strictMono_units.monotone h.low_le

/-! ### Making numbers -/

theorem ofPattern {negative : Bool} {pattern : Nat} (hsign : negative = true → pattern = 0)
    (hlow : low ≤ pattern) (hpattern : pattern ≤ single.infinity) :
    (ofPattern negative pattern).AtLeast low := by
  have hword : pattern < signWorth := Nat.lt_of_le_of_lt hpattern (by decide)
  refine ⟨fun hneg => ?_, isNaN_ofPattern negative hpattern, ?_⟩
  · rw [isNegative_ofPattern negative hword] at hneg
    rw [pattern_ofPattern negative hword, hsign hneg]
  · rwa [pattern_ofPattern negative hword]

theorem round {num den : Nat} (hlow : low ≤ single.ofRatio num den) :
    (Binary32.round false num den).AtLeast low := ofPattern nofun hlow (Nat.min_le_right _ _)

/-! ### Operations -/

theorem add (hx : x.AtLeast low) (hy : y.AtLeast low') (hfinite : least ≤ single.infinity)
    (hleast : single.units least ≤ single.units low + single.units low') :
    (x + y).AtLeast least := by
  show (Binary32.add x y).AtLeast least
  unfold Binary32.add
  simp only [hx.isNaN, hy.isNaN, Bool.false_eq_true, if_false]
  have hpositive : ∀ {z : Binary32} {bound : Nat}, z.AtLeast bound → z.isInfinite = true →
      z.isNegative = false := fun hz hinf => hz.isNegative (pattern_ne_zero_of_isInfinite hinf)
  cases hxinf : x.isInfinite with
  | true =>
    -- infinities of different signs do not meet here, because neither operand is below zero
    have hopposite : (y.isInfinite && x.isNegative != y.isNegative) = false := by
      cases hyinf : y.isInfinite with
      | true => rw [hpositive hx hxinf, hpositive hy hyinf]; rfl
      | false => rfl
    rw [if_pos rfl, hopposite, if_neg Bool.false_ne_true]
    exact of_isInfinite (hpositive hx hxinf) hxinf hfinite
  | false =>
    cases hyinf : y.isInfinite with
    | true => exact of_isInfinite (hpositive hy hyinf) hyinf hfinite
    | false =>
      have hsum : x.signedUnits + y.signedUnits = (x.units + y.units : Nat) := by
        rw [hx.signedUnits, hy.signedUnits, Int.natCast_add]
      have hlow : single.units least ≤ x.units + y.units :=
        Nat.le_trans hleast (Nat.add_le_add hx.units_low_le hy.units_low_le)
      simp only [Bool.false_eq_true, if_false, hsum]
      by_cases hzero : x.units + y.units = 0
      · rw [hzero] at hlow
        rw [if_pos (by rw [hzero]; rfl), units_eq_zero_iff.mp (Nat.le_zero.mp hlow)]
        exact ofPattern (fun _ => rfl) (Nat.le_refl 0) (Nat.zero_le _)
      · rw [if_neg (by omega), decide_eq_false (by omega), Int.natAbs_natCast]
        exact round (BinaryFormat.le_ofRatio Nat.one_pos hfinite (by omega))

theorem sqrt (hx : x.AtLeast low) (hfinite : least ≤ single.infinity)
    (hleast : single.units least * single.units least ≤ single.units low * unitsOfOne) :
    x.sqrt.AtLeast least := by
  have hlow := Nat.le_trans hleast (Nat.mul_le_mul_right unitsOfOne hx.units_low_le)
  unfold Binary32.sqrt
  simp only [hx.isNaN, Bool.false_eq_true, if_false]
  by_cases hzero : x.pattern = 0
  · rw [if_pos hzero]
    rw [units_of_pattern_eq_zero hzero, Nat.zero_mul] at hlow
    have hleast0 : least = 0 := units_eq_zero_iff.mp
      ((Nat.mul_eq_zero.mp (Nat.le_zero.mp hlow)).elim id id)
    exact hleast0 ▸ hx.mono (Nat.zero_le _)
  · simp only [hzero, hx.isNegative hzero, Bool.false_eq_true, if_false]
    cases hinf : x.isInfinite with
    | true => exact of_isInfinite (hx.isNegative hzero) hinf hfinite
    | false => exact ofPattern nofun (BinaryFormat.le_ofSqrt hfinite hlow) (Nat.min_le_right _ _)

theorem pattern_sqrt (hx : x.AtLeast low) (hfinite : x.isFinite = true) (hpos : x.pattern ≠ 0) :
    x.sqrt.pattern = single.ofSqrt (x.units * unitsOfOne) := by
  have hword : single.ofSqrt (x.units * unitsOfOne) < signWorth :=
    Nat.lt_of_le_of_lt (Nat.min_le_right _ _) (by decide)
  unfold Binary32.sqrt
  simp only [hx.isNaN, hpos, hx.isNegative hpos, isInfinite_of_isFinite hfinite,
    Bool.false_eq_true, if_false]
  exact pattern_ofPattern _ hword

theorem pattern_sqrt_le (hx : x.AtLeast low) (hfinite : x.isFinite = true)
    (hbound : x.units * unitsOfOne ≤ single.units bound * single.units bound) :
    x.sqrt.pattern ≤ bound := by
  by_cases hzero : x.pattern = 0
  · have hself : x.sqrt = x := by rw [Binary32.sqrt, hx.isNaN, if_neg Bool.false_ne_true, if_pos hzero]
    rw [hself, hzero]
    exact Nat.zero_le _
  · rw [hx.pattern_sqrt hfinite hzero]
    exact BinaryFormat.ofSqrt_le hbound

/-- The root of a finite number is finite. -/
theorem isFinite_sqrt (hx : x.AtLeast low) (hfinite : x.isFinite = true) :
    x.sqrt.isFinite = true := by
  have hgreatest : x.pattern ≤ single.infinity - 1 :=
    Nat.le_sub_one_of_lt (isFinite_iff.mp hfinite)
  have hroot : x.sqrt.pattern ≤ single.infinity - 1 := by
    refine hx.pattern_sqrt_le hfinite ?_
    calc x.units * unitsOfOne ≤ single.units (single.infinity - 1) * unitsOfOne :=
          Nat.mul_le_mul_right _ (units_le_units hgreatest)
      _ ≤ single.units (single.infinity - 1) * single.units (single.infinity - 1) := by
          decide +kernel
  exact isFinite_iff.mpr (Nat.lt_of_le_of_lt hroot (by decide))

/-- The square of any number is not below zero. -/
theorem mul_self (hnan : x.isNaN = false) (hlow : low ≤ x.pattern)
    (hfinite : least ≤ single.infinity)
    (hleast : single.units least * unitsOfOne ≤ single.units low * single.units low) :
    (x * x).AtLeast least := by
  cases hinf : x.isInfinite with
  | true =>
    have hself : x * x = Binary32.ofPattern false single.infinity := by
      show Binary32.mul x x = _
      unfold Binary32.mul
      simp only [hnan, hinf, pattern_ne_zero_of_isInfinite hinf, Bool.false_eq_true, if_false,
        Bool.or_self, if_true, or_self, bne_self_eq_false]
    rw [hself]
    exact ofPattern nofun hfinite (Nat.le_refl _)
  | false =>
    have hx : x.isFinite = true := by rw [Binary32.isFinite_eq, hnan, hinf]; rfl
    have hunits : single.units low ≤ x.units := single.strictMono_units.monotone hlow
    have hsquare := Nat.le_trans hleast (Nat.mul_le_mul hunits hunits)
    rw [mul_eq_of_isFinite hx hx, bne_self_eq_false]
    split
    · rename_i hzero
      rw [units_of_pattern_eq_zero (hzero.elim id id), Nat.zero_mul] at hsquare
      refine ofPattern nofun (le_zero_of_units_mul_le hsquare (by decide)) (Nat.zero_le _)
    · exact round (BinaryFormat.le_ofRatio (by decide) hfinite hsquare)

/-- A product that lies above the middle between two magnitudes is rounded to the greater. -/
theorem mul (hx : x.AtLeast low) (hy : y.AtLeast low') (hlow : 0 < low) (hlow' : 0 < low')
    (hfinite : least < single.infinity)
    (hleast : single.twiceMiddle least * unitsOfOne < 2 * (single.units low * single.units low')) :
    (x * y).AtLeast (least + 1) := by
  have hx0 : x.pattern ≠ 0 := Nat.ne_of_gt (Nat.lt_of_lt_of_le hlow hx.low_le)
  have hy0 : y.pattern ≠ 0 := Nat.ne_of_gt (Nat.lt_of_lt_of_le hlow' hy.low_le)
  show (Binary32.mul x y).AtLeast (least + 1)
  unfold Binary32.mul
  simp only [hx.isNaN, hy.isNaN, hx0, hy0, hx.isNegative hx0, hy.isNegative hy0, or_self,
    Bool.false_eq_true, if_false, bne_self_eq_false]
  split
  · exact ofPattern nofun hfinite (Nat.le_refl _)
  · refine round (BinaryFormat.lt_ofRatio (by decide) hfinite (Nat.lt_of_lt_of_le hleast ?_))
    exact Nat.mul_le_mul_left 2 (Nat.mul_le_mul hx.units_low_le hy.units_low_le)

/-! ### Sums of many terms -/

/-- A sum of terms that are not below zero does not fall below any of them. -/
theorem foldl_add (hfinite : least ≤ single.infinity) (xs : List Binary32) :
    ∀ {sum : Binary32}, sum.AtLeast 0 → (∀ x ∈ xs, x.AtLeast 0) →
      least ≤ sum.pattern ∨ (∃ x ∈ xs, least ≤ x.pattern) →
      (xs.foldl (· + ·) sum).AtLeast least := by
  induction xs with
  | nil =>
    intro sum hsum _ hleast
    exact ⟨hsum.sign, hsum.isNaN, hleast.resolve_right nofun⟩
  | cons x xs ih =>
    intro sum hsum hxs hleast
    have hx := hxs x List.mem_cons_self
    have hnext : (sum + x).AtLeast 0 := hsum.add hx (Nat.zero_le _) (Nat.zero_le _)
    refine ih hnext (fun x' hx' => hxs x' (List.mem_cons_of_mem _ hx')) ?_
    rcases hleast with hsumlow | ⟨x', hx', hlow⟩
    · have hkept : (sum + x).AtLeast least :=
        AtLeast.add ⟨hsum.sign, hsum.isNaN, hsumlow⟩ hx hfinite (Nat.le_add_right _ _)
      exact Or.inl hkept.low_le
    · rcases List.mem_cons.mp hx' with rfl | hx'
      · have hkept : (sum + x').AtLeast least :=
          AtLeast.add hsum ⟨hx.sign, hx.isNaN, hlow⟩ hfinite (Nat.le_add_left _ _)
        exact Or.inl hkept.low_le
      · exact Or.inr ⟨x', hx', hlow⟩

end AtLeast

/-! ## Overflow of products -/

/-- An infinity times anything but zero is infinite. -/
theorem isInfinite_mul_of_left (hx : x.isInfinite = true) (hy : y.isNaN = false)
    (hy0 : y.pattern ≠ 0) : (x * y).isInfinite = true := by
  show (Binary32.mul x y).isInfinite = true
  unfold Binary32.mul
  simp only [isNaN_of_isInfinite hx, hy, hx, pattern_ne_zero_of_isInfinite hx, hy0, Bool.true_or,
    or_self, Bool.false_eq_true, if_false, if_true]
  rw [isInfinite_iff, pattern_ofPattern _ (by decide)]

theorem isInfinite_mul_of_right (hx : x.isNaN = false) (hx0 : x.pattern ≠ 0)
    (hy : y.isInfinite = true) : (x * y).isInfinite = true := by
  show (Binary32.mul x y).isInfinite = true
  unfold Binary32.mul
  simp only [hx, isNaN_of_isInfinite hy, hy, pattern_ne_zero_of_isInfinite hy, hx0, Bool.or_true,
    or_self, Bool.false_eq_true, if_false, if_true]
  rw [isInfinite_iff, pattern_ofPattern _ (by decide)]

/-- A product is infinite only if neither operand is zero. -/
theorem pattern_ne_zero_of_isInfinite_mul (h : (x * y).isInfinite = true) :
    x.pattern ≠ 0 ∧ y.pattern ≠ 0 := by
  rw [← not_or]
  intro hzero
  have hnan := isNaN_of_isInfinite h
  rw [Bool.eq_false_iff, ne_eq, isNaN_mul_iff, not_or, not_or, Bool.not_eq_true, Bool.not_eq_true,
    not_and, imp_not_comm] at hnan
  obtain ⟨hx, hy, hfinite⟩ := hnan
  obtain ⟨hxinf, hyinf⟩ := not_or.mp (hfinite hzero)
  have hxfin : x.isFinite = true := by simp [isFinite_eq, hx, hxinf]
  have hyfin : y.isFinite = true := by simp [isFinite_eq, hy, hyinf]
  rw [mul_eq_of_isFinite hxfin hyfin, if_pos hzero, isInfinite_iff,
    pattern_ofPattern _ (by decide)] at h
  exact absurd h (by decide)

/-- If a product of finite numbers overflows, the square of one of them does. -/
theorem isInfinite_mul_self (hx : x.isFinite = true) (hy : y.isFinite = true)
    (h : (x * y).isInfinite = true) : (x * x).isInfinite = true ∨ (y * y).isInfinite = true := by
  have hgreater : ∀ {z : Binary32}, z.isFinite = true → x.units * y.units ≤ z.units * z.units →
      (z * z).isInfinite = true := by
    intro z hz hle
    rw [isInfinite_iff, pattern_mul hx hy] at h
    rw [isInfinite_iff, pattern_mul hz hz]
    exact Nat.le_antisymm (Nat.min_le_right _ _) (h ▸ single.ofRatio_mono hle _)
  rcases Nat.le_total x.units y.units with hle | hle
  · exact Or.inr (hgreater hy (Nat.mul_le_mul_right _ hle))
  · exact Or.inl (hgreater hx (Nat.mul_le_mul_left _ hle))

end Binary32

end Gazetteer
