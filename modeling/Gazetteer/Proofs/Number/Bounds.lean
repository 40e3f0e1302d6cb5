import Gazetteer.Proofs.Number.Magnitudes

/-!
# Bounds that arithmetic keeps

Most results of a computation with numbers of 32 bits are rounded, so they are known by bounds. That
a number lies `Between` two patterns is kept by each operation without loss: bounds for the exact
result hold for the rounded one, because rounding does not cross a magnitude. So a chain of
operations is followed by exact arithmetic on its bounds, and with it that nothing overflows and
nothing positive becomes zero.

A sum of many terms has no bound of this kind that would not depend on their number. But it stops
growing where a term is less than half the way to the next magnitude (`Between.foldl_add`), so a sum
over vectors of any width is finite.
-/

set_option autoImplicit false

namespace Gazetteer

namespace Binary32

open BinaryFormat (single)

/--
The number is finite, not below zero, and has a magnitude between two patterns. A zero may have
either sign.
-/
structure Between (x : Binary32) (low high : Nat) : Prop where
  sign : x.isNegative = true → x.pattern = 0
  finite : x.pattern < single.infinity
  low_le : low ≤ x.pattern
  le_high : x.pattern ≤ high

namespace Between

variable {x y : Binary32} {low high low' high' : Nat}

theorem mono (h : x.Between low high) (hlow : low' ≤ low) (hhigh : high ≤ high') :
    x.Between low' high' :=
  ⟨h.sign, h.finite, Nat.le_trans hlow h.low_le, Nat.le_trans h.le_high hhigh⟩

theorem isNaN (h : x.Between low high) : x.isNaN = false := by
  rw [Binary32.isNaN, decide_eq_false_iff_not]
  exact Nat.not_lt_of_lt h.finite

theorem isInfinite (h : x.Between low high) : x.isInfinite = false := by
  rw [Binary32.isInfinite, beq_eq_false_iff_ne]
  exact Nat.ne_of_lt h.finite

theorem isFinite (h : x.Between low high) : x.isFinite = true := isFinite_iff.mpr h.finite

theorem atLeast (h : x.Between low high) : x.AtLeast low := ⟨h.sign, h.isNaN, h.low_le⟩

/-- What is bounded from both sides, one by one. -/
theorem ofAtLeast (hlow : x.AtLeast low) (hfinite : high < single.infinity)
    (hhigh : x.pattern ≤ high) : x.Between low high :=
  ⟨hlow.sign, Nat.lt_of_le_of_lt hhigh hfinite, hlow.low_le, hhigh⟩

theorem isNegative (h : x.Between low high) (hpos : x.pattern ≠ 0) : x.isNegative = false :=
  h.atLeast.isNegative hpos

theorem units_low_le (h : x.Between low high) : single.units low ≤ x.units :=
  h.atLeast.units_low_le

theorem units_le_high (h : x.Between low high) : x.units ≤ single.units high :=
  units_le_units h.le_high

theorem signedPattern (h : x.Between low high) : x.signedPattern = (x.pattern : Int) :=
  h.atLeast.signedPattern

/-! ### Making numbers -/

theorem ofPattern {negative : Bool} {pattern : Nat} (hsign : negative = true → pattern = 0)
    (hfinite : pattern < single.infinity) (hlow : low ≤ pattern) (hhigh : pattern ≤ high) :
    (ofPattern negative pattern).Between low high := by
  have hword : pattern < signWorth := Nat.lt_trans hfinite (by decide)
  have hpattern := pattern_ofPattern negative hword
  refine ⟨fun hneg => ?_, ?_, ?_, ?_⟩
  · rw [isNegative_ofPattern negative hword] at hneg
    rw [hpattern, hsign hneg]
  · rwa [hpattern]
  · rwa [hpattern]
  · rwa [hpattern]

/-- Rounding keeps bounds, and from above it even forgives less than half the way to the next. -/
theorem round {negative : Bool} {num den : Nat} (hsign : negative = true → num = 0)
    (hden : 0 < den) (hlow : single.units low * den ≤ num)
    (hhigh : 2 * num < single.twiceMiddle high * den) (hfinite : high < single.infinity) :
    (round negative num den).Between low high := by
  have hle : single.ofRatio num den ≤ high := BinaryFormat.ofRatio_le hhigh
  have hordered : low ≤ high := by
    have htwice : 2 * single.units low * den < single.twiceMiddle high * den := by
      rw [Nat.mul_assoc]
      exact Nat.lt_of_le_of_lt (Nat.mul_le_mul_left 2 hlow) hhigh
    have hmiddle := Nat.lt_of_mul_lt_mul_right htwice
    have hnext : single.units high < single.units (high + 1) :=
      single.strictMono_units (Nat.lt_add_one high)
    rw [BinaryFormat.twiceMiddle] at hmiddle
    have hlt : single.units low < single.units (high + 1) := by omega
    exact Nat.le_of_lt_succ (single.strictMono_units.lt_iff_lt.mp hlt)
  refine ofPattern (fun hneg => ?_) (Nat.lt_of_le_of_lt hle hfinite) ?_ hle
  · rw [hsign hneg]
    exact Nat.le_zero.mp (BinaryFormat.ofRatio_le_of_le_units hden (Nat.zero_le _))
  · exact BinaryFormat.le_ofRatio hden (Nat.le_trans hordered (Nat.le_of_lt hfinite)) hlow

theorem round_of_le {negative : Bool} {num den : Nat} (hsign : negative = true → num = 0)
    (hden : 0 < den) (hlow : single.units low * den ≤ num) (hhigh : num ≤ single.units high * den)
    (hfinite : high < single.infinity) : (Binary32.round negative num den).Between low high := by
  refine round hsign hden hlow ?_ hfinite
  calc 2 * num ≤ 2 * single.units high * den := by
        rw [Nat.mul_assoc]
        exact Nat.mul_le_mul_left 2 hhigh
    _ < single.twiceMiddle high * den :=
        Nat.mul_lt_mul_of_pos_right (single.two_mul_units_lt_twiceMiddle high) hden

/-! ### Operations -/

/-- A sum is bounded by its greater term, and by what is less than half the way past a magnitude. -/
theorem add (hx : x.Between low high) (hy : y.Between low' high') {bound : Nat}
    (hbound : 2 * (single.units high + single.units high') < single.twiceMiddle bound)
    (hfinite : bound < single.infinity) : (x + y).Between (max low low') bound := by
  refine ofAtLeast (hx.atLeast.add hy.atLeast ?_ ?_) hfinite ?_
  · exact Nat.max_le.mpr ⟨Nat.le_of_lt (Nat.lt_of_le_of_lt hx.low_le hx.finite),
      Nat.le_of_lt (Nat.lt_of_le_of_lt hy.low_le hy.finite)⟩
  · rcases Nat.le_total low low' with h | h
    · rw [Nat.max_eq_right h]
      exact Nat.le_add_left _ _
    · rw [Nat.max_eq_left h]
      exact Nat.le_add_right _ _
  · refine pattern_add_le hx.isFinite hy.isFinite (Nat.lt_of_le_of_lt ?_ hbound)
    exact Nat.mul_le_mul_left 2 (Nat.add_le_add hx.units_le_high hy.units_le_high)

theorem mul (hx : x.Between low high) (hy : y.Between low' high') {least bound : Nat}
    (hleast : single.units least * unitsOfOne ≤ single.units low * single.units low')
    (hbound : single.units high * single.units high' ≤ single.units bound * unitsOfOne)
    (hfinite : bound < single.infinity) : (x * y).Between least bound := by
  have hlow := Nat.le_trans hleast (Nat.mul_le_mul hx.units_low_le hy.units_low_le)
  have hhigh := Nat.le_trans (Nat.mul_le_mul hx.units_le_high hy.units_le_high) hbound
  rw [mul_eq_of_isFinite hx.isFinite hy.isFinite]
  by_cases hzero : x.pattern = 0 ∨ y.pattern = 0
  · have hnothing : x.units * y.units = 0 :=
      Nat.mul_eq_zero.mpr (hzero.imp units_of_pattern_eq_zero units_of_pattern_eq_zero)
    rw [if_pos hzero]
    exact ofPattern (fun _ => rfl) (by decide)
      (le_zero_of_units_mul_le (hnothing ▸ hlow) (by decide)) (Nat.zero_le bound)
  · obtain ⟨hxpos, hypos⟩ := not_or.mp hzero
    rw [if_neg hzero, hx.isNegative hxpos, hy.isNegative hypos]
    exact round_of_le nofun (by decide) hlow hhigh hfinite

theorem div (hx : x.Between low high) (hy : y.Between low' high') {least bound : Nat}
    (hpos : 0 < low')
    (hleast : single.units least * single.units high' ≤ single.units low * unitsOfOne)
    (hbound : single.units high * unitsOfOne ≤ single.units bound * single.units low')
    (hfinite : bound < single.infinity) : (x / y).Between least bound := by
  show (Binary32.div x y).Between least bound
  have hy0 : y.pattern ≠ 0 := Nat.ne_of_gt (Nat.lt_of_lt_of_le hpos hy.low_le)
  have hlow : single.units least * y.units ≤ x.units * unitsOfOne :=
    calc single.units least * y.units ≤ single.units least * single.units high' :=
          Nat.mul_le_mul_left _ hy.units_le_high
      _ ≤ single.units low * unitsOfOne := hleast
      _ ≤ x.units * unitsOfOne := Nat.mul_le_mul_right _ hx.units_low_le
  have hhigh : x.units * unitsOfOne ≤ single.units bound * y.units :=
    calc x.units * unitsOfOne ≤ single.units high * unitsOfOne :=
          Nat.mul_le_mul_right _ hx.units_le_high
      _ ≤ single.units bound * single.units low' := hbound
      _ ≤ single.units bound * y.units := Nat.mul_le_mul_left _ hy.units_low_le
  unfold Binary32.div
  simp only [hx.isNaN, hy.isNaN, hx.isInfinite, hy.isInfinite, hy0, hy.isNegative hy0,
    Bool.false_eq_true, if_false]
  refine round_of_le (fun hneg => ?_) (Nat.pos_of_ne_zero (mt units_eq_zero_iff.mp hy0)) hlow hhigh
    hfinite
  rw [units, units_eq_zero_iff.mpr (hx.sign (by simpa using hneg)), Nat.zero_mul]

theorem sqrt (hx : x.Between low high) {least bound : Nat}
    (hleast : single.units least * single.units least ≤ single.units low * unitsOfOne)
    (hbound : single.units high * unitsOfOne ≤ single.units bound * single.units bound)
    (hfinite : bound < single.infinity) : x.sqrt.Between least bound := by
  have hlow := Nat.mul_le_mul_right unitsOfOne hx.units_low_le
  have hhigh := Nat.le_trans (Nat.mul_le_mul_right unitsOfOne hx.units_le_high) hbound
  have hordered : least ≤ bound := single.strictMono_units.le_iff_le.mp
    (Nat.mul_self_le_mul_self_iff.mp (Nat.le_trans (Nat.le_trans hleast hlow) hhigh))
  exact ofAtLeast (hx.atLeast.sqrt (Nat.le_trans hordered (Nat.le_of_lt hfinite)) hleast) hfinite
    (hx.atLeast.pattern_sqrt_le hx.isFinite hhigh)

/-! ### Sums of many terms -/

/--
A sum does not grow past a magnitude for which each term is too small, however many terms there are,
and it does not fall below any term.
-/
theorem foldl_add {least bound term : Nat}
    (hfit : 2 * (single.units bound + single.units term) < single.twiceMiddle bound)
    (hfinite : bound < single.infinity) (hterm : term < single.infinity) (xs : List Binary32)
    {sum : Binary32} (hsum : sum.Between 0 bound) (hxs : ∀ x ∈ xs, x.Between 0 term)
    (hleast : least ≤ sum.pattern ∨ (∃ x ∈ xs, least ≤ x.pattern)) :
    (xs.foldl (· + ·) sum).Between least bound := by
  refine ofAtLeast (AtLeast.foldl_add ?_ xs hsum.atLeast (fun x hx => (hxs x hx).atLeast) hleast)
    hfinite (pattern_foldl_add_le hfit hfinite hterm xs hsum.le_high fun x hx => (hxs x hx).le_high)
  rcases hleast with hlow | ⟨x, hx, hlow⟩
  · exact Nat.le_of_lt (Nat.lt_of_le_of_lt hlow hsum.finite)
  · exact Nat.le_of_lt (Nat.lt_of_le_of_lt hlow (hxs x hx).finite)

/-! ### Comparisons -/

theorem isBelow_iff (hx : x.Between low high) (hy : y.Between low' high') :
    x.isBelow y = true ↔ x.pattern < y.pattern := by
  rw [isBelow, hx.isNaN, hy.isNaN, hx.signedPattern, hy.signedPattern]
  simp only [Bool.not_false, Bool.true_and, decide_eq_true_eq]
  omega

theorem isSame_iff (hx : x.Between low high) (hy : y.Between low' high') :
    x.isSame y = true ↔ x.pattern = y.pattern := by
  rw [isSame, hx.isNaN, hy.isNaN, hx.signedPattern, hy.signedPattern]
  simp only [Bool.not_false, Bool.true_and, beq_iff_eq]
  omega

theorem precedes (hx : x.Between low high) (hy : y.Between low' high') (hpos : 0 < low')
    (hle : high ≤ low') : x.precedes y = true := by
  have hpattern : x.pattern ≤ y.pattern := Nat.le_trans hx.le_high (Nat.le_trans hle hy.low_le)
  have hy0 : y.pattern ≠ 0 := Nat.ne_of_gt (Nat.lt_of_lt_of_le hpos hy.low_le)
  rw [precedes_iff, place, place, hy.isNegative hy0, if_neg Bool.false_ne_true]
  split
  · omega
  · exact Int.ofNat_le.mpr hpattern

/-- Nothing that comes after a positive number stops at a bound that is the same as zero. -/
theorem isAtMost_eq_false_of_precedes (h : x.Between low high) (hpos : 0 < low)
    (hbefore : x.precedes y = true) {bound : Binary32} (hbound : bound.isSame .zero = true) :
    y.isAtMost bound = false := by
  have hx : 0 < x.pattern := Nat.lt_of_lt_of_le hpos h.low_le
  have hzero : bound.signedPattern = 0 := by
    simp only [isSame, Bool.and_eq_true, beq_iff_eq] at hbound
    exact hbound.2
  have hplace : x.place ≤ y.place := of_decide_eq_true hbefore
  simp only [place, h.isNegative (Nat.ne_of_gt hx), Bool.false_eq_true, if_false] at hplace
  cases hy : y.isNegative with
  | true =>
    rw [hy, if_pos rfl] at hplace
    omega
  | false =>
    rw [hy, if_neg Bool.false_ne_true] at hplace
    have habove : ¬ (y.pattern : Int) ≤ 0 := by omega
    rw [isAtMost, hzero, Binary32.signedPattern, hy, if_neg Bool.false_ne_true,
      decide_eq_false habove, Bool.and_false]

theorem between_zero : Binary32.zero.Between 0 0 :=
  ⟨by decide, by decide, Nat.le_refl _, Nat.le_refl _⟩

theorem between_one : Binary32.one.Between Binary32.one.pattern Binary32.one.pattern :=
  ⟨by decide, by decide, Nat.le_refl _, Nat.le_refl _⟩

/-- What is bounded by the pattern of one lies between zero and one. -/
theorem isAtMost_one (h : x.Between low high) (hhigh : high ≤ one.pattern) :
    zero.isAtMost x = true ∧ x.isAtMost .one = true := by
  rw [isAtMost_iff (by decide) h.isNaN, isAtMost_iff h.isNaN (by decide), h.signedPattern]
  exact ⟨Int.natCast_nonneg _, Int.ofNat_le.mpr (Nat.le_trans h.le_high hhigh)⟩

/-- Forced into the range of a cosine, a number keeps its lower bound. -/
theorem clamp (h : x.Between low high) (hlow : low ≤ one.pattern) :
    (x.clamp .negativeOne .one).Between low one.pattern := by
  have hnegative : x.isBelow .negativeOne = false := by
    have hone : negativeOne.signedPattern < 0 := by decide
    rw [isBelow, h.signedPattern, decide_eq_false (by omega), Bool.and_false]
  rw [Binary32.clamp, hnegative, if_neg Bool.false_ne_true]
  by_cases hgreat : one.isBelow x = true
  · rw [if_pos hgreat]
    exact between_one.mono hlow (Nat.le_refl _)
  · rw [if_neg hgreat]
    rw [between_one.isBelow_iff h] at hgreat
    exact ⟨h.sign, h.finite, h.low_le, Nat.not_lt.mp hgreat⟩

end Between

/-! ## Powers of two -/

/-- The pattern of a power of two. -/
def powerOfTwo (exponent : Nat) : Nat := (127 + exponent) <<< 23

/-- A count that can be told from the next lies below a power of two, and from one on above one. -/
theorem IsCount.between {x : Binary32} {n : Nat} (h : x.IsCount n) (hn : n ≤ countLimit) :
    x.Between (if n = 0 then 0 else powerOfTwo 0) (powerOfTwo 24) := by
  have hle : ∀ {pattern other}, single.units pattern ≤ single.units other → pattern ≤ other :=
    single.strictMono_units.le_iff_le.mp
  refine ⟨fun hneg => ?_, of_decide_eq_true h.finite, ?_, ?_⟩
  · rw [h.notNegative] at hneg
    cases hneg
  · split
    · exact Nat.zero_le _
    · rename_i hpos
      refine hle ?_
      rw [show single.units x.pattern = n * unitsOfOne from h.units]
      calc single.units (powerOfTwo 0) = 1 * unitsOfOne := by decide +kernel
        _ ≤ n * unitsOfOne := Nat.mul_le_mul_right _ (Nat.pos_of_ne_zero hpos)
  · refine hle ?_
    rw [show single.units x.pattern = n * unitsOfOne from h.units]
    calc n * unitsOfOne ≤ countLimit * unitsOfOne := Nat.mul_le_mul_right _ hn
      _ = single.units (powerOfTwo 24) := by decide +kernel

end Binary32

end Gazetteer
