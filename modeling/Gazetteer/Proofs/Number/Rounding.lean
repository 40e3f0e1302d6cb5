import Gazetteer.Number.BinaryFormat
import Mathlib.Algebra.Order.Group.Nat
import Mathlib.Data.Nat.Sqrt
import Mathlib.Order.Monotone.Basic

/-!
# Patterns and their worth

Rounding in a format rests on two facts about patterns. Their worth grows with them
(`strictMono_units`), by one unit of the exponent from each to the next (`units_succ`); and the
pattern found below a number is the only one between which and the next the number lies
(`units_patternBelow_bounds`, `patternBelow_eq`).

The first use of them is for results that need no rounding: **a magnitude of the format is rounded
to itself** (`ofRatio_units`), and every number that has no more bits than a magnitude holds is one
(`exists_units_eq`). The second is for results of which only bounds are known: **rounding does not
cross a magnitude** (`le_ofRatio`, `ofRatio_le`, and the same for roots). What is given up to the
magnitude from above may even exceed it, by less than half the way to the next.
-/

set_option autoImplicit false

namespace Gazetteer

namespace BinaryFormat

variable {f : BinaryFormat}

/-! ## Patterns apart -/

/-- The worth of the leading bit of a magnitude whose last bit is worth one unit. -/
def leading (f : BinaryFormat) : Nat := 1 <<< f.fractionBits

theorem leading_pos (f : BinaryFormat) : 0 < f.leading := by
  rw [leading, Nat.one_shiftLeft]
  exact Nat.two_pow_pos _

theorem exists_fields (f : BinaryFormat) (pattern : Nat) :
    ∃ exponent fraction, fraction < f.leading ∧ pattern = f.leading * exponent + fraction :=
  ⟨_, _, Nat.mod_lt _ f.leading_pos, (Nat.div_add_mod _ _).symm⟩

/-- The worth of a pattern with given fields. -/
theorem units_fields {exponent fraction : Nat} (h : fraction < f.leading) :
    f.units (f.leading * exponent + fraction) =
      if exponent = 0 then fraction else (f.leading + fraction) <<< (exponent - 1) := by
  have hexponent : (f.leading * exponent + fraction) / f.leading = exponent := by
    rw [Nat.mul_add_div f.leading_pos, Nat.div_eq_of_lt h, Nat.add_zero]
  have hfraction : (f.leading * exponent + fraction) % f.leading = fraction := by
    rw [Nat.mul_add_mod, Nat.mod_eq_of_lt h]
  unfold units
  rw [← leading]
  simp only [hexponent, hfraction]

theorem units_fields_succ {exponent fraction : Nat} (h : fraction < f.leading) :
    f.units (f.leading * (exponent + 1) + fraction) = (f.leading + fraction) <<< exponent := by
  rw [units_fields h, if_neg (Nat.succ_ne_zero _), Nat.add_sub_cancel]

/-- Small patterns are worth themselves. -/
theorem units_of_lt {pattern : Nat} (h : pattern < 2 * f.leading) : f.units pattern = pattern := by
  by_cases hsmall : pattern < f.leading
  · have hunits : f.units (f.leading * 0 + pattern) = pattern := units_fields hsmall
    rwa [Nat.mul_zero, Nat.zero_add] at hunits
  · have hunits : f.units (f.leading * (0 + 1) + (pattern - f.leading)) =
        (f.leading + (pattern - f.leading)) <<< 0 := units_fields_succ (by omega)
    rwa [Nat.zero_add, Nat.mul_one, Nat.add_sub_cancel' (Nat.not_lt.mp hsmall),
      Nat.shiftLeft_zero] at hunits

/-! ## The next pattern -/

/-- From a pattern to the next the worth grows by one unit of the exponent. -/
theorem units_succ {exponent fraction : Nat} (h : fraction < f.leading) :
    f.units (f.leading * exponent + fraction + 1) =
      f.units (f.leading * exponent + fraction) + 1 <<< (exponent - 1) := by
  by_cases hlast : fraction + 1 < f.leading
  · rw [Nat.add_assoc]
    cases exponent with
    | zero =>
      rw [units_fields h, units_fields hlast]
      rfl
    | succ e =>
      rw [units_fields_succ h, units_fields_succ hlast, Nat.add_sub_cancel]
      simp only [Nat.shiftLeft_eq, Nat.add_mul, Nat.add_assoc]
  · -- the fraction is full: the next pattern has the next exponent and no fraction
    have hfull : fraction + 1 = f.leading := by omega
    have hnext : f.leading * exponent + fraction + 1 = f.leading * (exponent + 1) + 0 := by
      rw [Nat.add_assoc, hfull, Nat.mul_succ, Nat.add_zero]
    rw [hnext, units_fields_succ f.leading_pos, Nat.add_zero]
    cases exponent with
    | zero =>
      rw [units_fields h, if_pos rfl]
      exact hfull.symm
    | succ e =>
      have hdouble : f.leading <<< (e + 1) = (f.leading + fraction + 1) <<< e := by
        rw [Nat.add_assoc, hfull, ← Nat.two_mul, Nat.shiftLeft_eq, Nat.shiftLeft_eq, Nat.pow_succ]
        ac_rfl
      rw [units_fields_succ h, Nat.add_sub_cancel, hdouble]
      simp only [Nat.shiftLeft_eq, Nat.add_mul]

theorem strictMono_units (f : BinaryFormat) : StrictMono f.units := by
  refine strictMono_nat_of_lt_succ fun pattern => ?_
  obtain ⟨exponent, fraction, h, rfl⟩ := f.exists_fields pattern
  rw [units_succ h, Nat.one_shiftLeft]
  exact Nat.lt_add_of_pos_right (Nat.two_pow_pos _)

/-! ## The greatest pattern below a number -/

/-- A pattern lies at or below every number of units, and the next one above it. -/
theorem units_patternBelow_bounds (f : BinaryFormat) (n : Nat) :
    f.units (f.patternBelow n) ≤ n ∧ n < f.units (f.patternBelow n + 1) := by
  by_cases hsmall : n.log2 ≤ f.fractionBits
  · -- nothing is cut off: the number is its own pattern
    have hlt : n < 2 * f.leading := by
      have hpow : 2 ^ (n.log2 + 1) ≤ 2 ^ (f.fractionBits + 1) :=
        Nat.pow_le_pow_right (by decide) (by omega)
      rw [leading, Nat.one_shiftLeft, ← Nat.pow_succ']
      exact Nat.lt_of_lt_of_le Nat.lt_log2_self hpow
    have hpattern : f.patternBelow n = n := by
      unfold patternBelow
      simp only [Nat.sub_eq_zero_of_le hsmall, Nat.zero_shiftLeft, Nat.shiftRight_zero,
        Nat.zero_add]
    have hunits : f.units n = n := units_of_lt hlt
    have hnext : f.units n < f.units (n + 1) := f.strictMono_units (Nat.lt_succ_self n)
    rw [hpattern]
    omega
  · -- the leading bits make up the pattern, and what is cut off is less than its last bit
    obtain ⟨shift, hshift⟩ : ∃ shift, n.log2 = f.fractionBits + shift :=
      ⟨n.log2 - f.fractionBits, by omega⟩
    have hpos : 0 < 2 ^ shift := Nat.two_pow_pos _
    have hlow : f.leading ≤ n >>> shift := by
      have hself : 2 ^ n.log2 ≤ n := Nat.log2_self_le (by rintro rfl; simp at hsmall)
      rw [leading, Nat.one_shiftLeft, Nat.shiftRight_eq_div_pow, Nat.le_div_iff_mul_le hpos,
        ← Nat.pow_add, ← hshift]
      exact hself
    have hhigh : n >>> shift < 2 * f.leading := by
      have hself : n < 2 ^ (n.log2 + 1) := Nat.lt_log2_self
      rw [leading, Nat.one_shiftLeft, Nat.shiftRight_eq_div_pow, Nat.div_lt_iff_lt_mul hpos,
        ← Nat.pow_succ', ← Nat.pow_add, Nat.succ_add, ← hshift]
      exact hself
    have hpattern : f.patternBelow n = f.leading * (shift + 1) + (n >>> shift - f.leading) := by
      unfold patternBelow
      simp only [hshift, Nat.add_sub_cancel_left]
      rw [Nat.mul_succ, Nat.add_assoc, Nat.add_sub_cancel' hlow, leading, Nat.one_shiftLeft,
        Nat.shiftLeft_eq, Nat.mul_comm]
    have hunits : f.units (f.patternBelow n) = (n >>> shift) <<< shift := by
      rw [hpattern, units_fields_succ (by omega), Nat.add_sub_cancel' hlow]
    have hnext : f.units (f.patternBelow n + 1) = (n >>> shift + 1) <<< shift := by
      rw [hpattern, units_succ (by omega), ← hpattern, hunits, Nat.add_sub_cancel]
      simp only [Nat.shiftLeft_eq, Nat.add_mul]
    rw [hunits, hnext, Nat.shiftRight_eq_div_pow, Nat.shiftLeft_eq, Nat.shiftLeft_eq]
    exact ⟨Nat.div_mul_le_self _ _, Nat.lt_mul_of_div_lt (Nat.lt_succ_self _) (Nat.two_pow_pos _)⟩

/-- That pattern is the only one between which and the next the number lies. -/
theorem patternBelow_eq {n pattern : Nat} (hle : f.units pattern ≤ n)
    (hlt : n < f.units (pattern + 1)) : f.patternBelow n = pattern := by
  obtain ⟨hle', hlt'⟩ := f.units_patternBelow_bounds n
  have h₁ := f.strictMono_units.lt_iff_lt.mp (Nat.lt_of_le_of_lt hle hlt')
  have h₂ := f.strictMono_units.lt_iff_lt.mp (Nat.lt_of_le_of_lt hle' hlt)
  omega

theorem patternBelow_units (f : BinaryFormat) (pattern : Nat) :
    f.patternBelow (f.units pattern) = pattern :=
  patternBelow_eq (Nat.le_refl _) (f.strictMono_units (Nat.lt_succ_self _))

/-! ## Rounding what needs none -/

/-- A magnitude of the format is rounded to itself. -/
theorem ofRatio_units {pattern : Nat} (h : pattern ≤ f.infinity) :
    f.ofRatio (f.units pattern) 1 = pattern := by
  have hmiddle : 2 * f.units pattern < f.twiceMiddle pattern * 1 := by
    have hnext : f.units pattern < f.units (pattern + 1) := f.strictMono_units (Nat.lt_succ_self _)
    unfold twiceMiddle
    omega
  unfold ofRatio
  simp only [Nat.div_one, patternBelow_units, Nat.compare_eq_lt.mpr hmiddle]
  exact Nat.min_eq_left h

/--
A number with no more bits than a fraction and its leading bit has a pattern, wherever it stands.
-/
theorem exists_units_eq {n : Nat} (h : n < 2 * f.leading) (place : Nat) :
    ∃ pattern, f.units pattern = n <<< place := by
  induction place with
  | zero => exact ⟨n, units_of_lt h⟩
  | succ place ih =>
    obtain ⟨pattern, hpattern⟩ := ih
    rw [Nat.shiftLeft_succ, ← hpattern]
    obtain ⟨exponent, fraction, hfraction, rfl⟩ := f.exists_fields pattern
    cases exponent with
    | zero =>
      refine ⟨2 * fraction, ?_⟩
      rw [units_of_lt (by omega), Nat.mul_zero, Nat.zero_add, units_of_lt (by omega)]
    | succ e =>
      refine ⟨f.leading * (e + 2) + fraction, ?_⟩
      rw [units_fields_succ hfraction, units_fields_succ hfraction, Nat.shiftLeft_succ]

/-! ## Rounding between magnitudes -/

theorem le_settle {below pattern : Nat} (h : pattern ≤ below) (hfinite : pattern ≤ f.infinity)
    (o : Ordering) : pattern ≤ f.settle below o := by
  refine Nat.le_min.mpr ⟨Nat.le_trans h ?_, hfinite⟩
  cases o
  · exact Nat.le_refl below
  · exact Nat.le_add_right _ _
  · exact Nat.le_succ below

/-- Rounding goes to the next pattern at most, and only if the result is not below the middle. -/
theorem settle_le {below pattern : Nat} {o : Ordering}
    (h : below < pattern ∨ below = pattern ∧ o = .lt) : f.settle below o ≤ pattern := by
  refine Nat.le_trans (Nat.min_le_left _ _) ?_
  rcases h with hlt | ⟨rfl, rfl⟩
  · cases o
    · exact Nat.le_of_lt hlt
    · show below + below % 2 ≤ pattern
      omega
    · exact hlt
  · exact Nat.le_refl below

/-- What is at least worth a pattern is not rounded below it. -/
theorem le_ofRatio {pattern num den : Nat} (hden : 0 < den) (hfinite : pattern ≤ f.infinity)
    (h : f.units pattern * den ≤ num) : pattern ≤ f.ofRatio num den := by
  have hquotient : f.units pattern ≤ num / den := (Nat.le_div_iff_mul_le hden).mpr h
  have hnext := Nat.lt_of_le_of_lt hquotient (f.units_patternBelow_bounds (num / den)).2
  exact le_settle (Nat.le_of_lt_succ (f.strictMono_units.lt_iff_lt.mp hnext)) hfinite _

/-- What lies below the middle between a pattern and the next is not rounded above the pattern. -/
theorem ofRatio_le {pattern num den : Nat} (h : 2 * num < f.twiceMiddle pattern * den) :
    f.ofRatio num den ≤ pattern := by
  have hbelow := (f.units_patternBelow_bounds (num / den)).1
  unfold ofRatio
  generalize f.patternBelow (num / den) = below at hbelow ⊢
  have hnum : f.units below * den ≤ num :=
    Nat.le_trans (Nat.mul_le_mul_right den hbelow) (Nat.div_mul_le_self num den)
  -- the pattern found is not above the given one, or the result would be past the middle
  have hle : below ≤ pattern := by
    by_contra hgreater
    have hstep : f.units (pattern + 1) ≤ f.units below :=
      f.strictMono_units.monotone (Nat.lt_of_not_le hgreater)
    have hself : f.units pattern ≤ f.units (pattern + 1) :=
      f.strictMono_units.monotone (Nat.le_succ pattern)
    have hmiddle : f.twiceMiddle pattern * den ≤ 2 * (f.units below * den) := by
      rw [← Nat.mul_assoc]
      refine Nat.mul_le_mul_right den ?_
      unfold twiceMiddle
      omega
    omega
  refine settle_le ?_
  rcases Nat.lt_or_eq_of_le hle with hlt | rfl
  · exact Or.inl hlt
  · exact Or.inr ⟨rfl, Nat.compare_eq_lt.mpr h⟩

/-- What lies above the middle between a pattern and the next is rounded above the pattern. -/
theorem lt_ofRatio {pattern num den : Nat} (hden : 0 < den) (hfinite : pattern < f.infinity)
    (h : f.twiceMiddle pattern * den < 2 * num) : pattern < f.ofRatio num den := by
  have hself : f.units pattern ≤ f.units (pattern + 1) :=
    f.strictMono_units.monotone (Nat.le_succ pattern)
  have hnum : f.units pattern ≤ num / den := by
    refine (Nat.le_div_iff_mul_le hden).mpr ?_
    have hdouble : 2 * (f.units pattern * den) ≤ f.twiceMiddle pattern * den := by
      rw [← Nat.mul_assoc]
      refine Nat.mul_le_mul_right den ?_
      unfold twiceMiddle
      omega
    omega
  have hbelow := Nat.lt_of_le_of_lt hnum (f.units_patternBelow_bounds (num / den)).2
  have hle := Nat.le_of_lt_succ (f.strictMono_units.lt_iff_lt.mp hbelow)
  unfold ofRatio
  dsimp only
  generalize f.patternBelow (num / den) = below at hle ⊢
  rcases Nat.lt_or_eq_of_le hle with hlt | rfl
  · exact le_settle hlt hfinite _
  · rw [Nat.compare_eq_gt.mpr h]
    exact Nat.lt_min.mpr ⟨Nat.lt_succ_self _, hfinite⟩

theorem patternBelow_mono (f : BinaryFormat) {n m : Nat} (h : n ≤ m) :
    f.patternBelow n ≤ f.patternBelow m := by
  have hlow := Nat.le_trans (f.units_patternBelow_bounds n).1 h
  have hhigh := (f.units_patternBelow_bounds m).2
  exact Nat.le_of_lt_succ (f.strictMono_units.lt_iff_lt.mp (Nat.lt_of_le_of_lt hlow hhigh))

/-- What is greater is not rounded to less. -/
theorem ofRatio_mono (f : BinaryFormat) {num num' : Nat} (h : num ≤ num') (den : Nat) :
    f.ofRatio num den ≤ f.ofRatio num' den := by
  have hbelow := f.patternBelow_mono (Nat.div_le_div_right (c := den) h)
  unfold ofRatio
  dsimp only
  generalize f.patternBelow (num / den) = below at hbelow ⊢
  generalize f.patternBelow (num' / den) = below' at hbelow ⊢
  have hfinite : ∀ o, f.settle below o ≤ f.infinity := fun _ => Nat.min_le_right _ _
  rcases Nat.lt_or_eq_of_le hbelow with hlt | rfl
  · exact le_settle (Nat.le_trans (settle_le (Or.inl (Nat.lt_succ_self _))) hlt) (hfinite _) _
  -- the two lie between the same patterns, so the greater is not farther from the upper one
  by_cases hmiddle : 2 * num < f.twiceMiddle below * den
  · exact le_settle (settle_le (Or.inr ⟨rfl, Nat.compare_eq_lt.mpr hmiddle⟩)) (hfinite _) _
  rcases Nat.lt_or_eq_of_le h with hless | rfl
  · have habove : f.twiceMiddle below * den < 2 * num' := by omega
    rw [Nat.compare_eq_gt.mpr habove]
    exact Nat.le_min.mpr ⟨settle_le (Or.inl (Nat.lt_succ_self _)), hfinite _⟩
  · exact Nat.le_refl _

theorem two_mul_units_lt_twiceMiddle (f : BinaryFormat) (pattern : Nat) :
    2 * f.units pattern < f.twiceMiddle pattern := by
  have hnext : f.units pattern < f.units (pattern + 1) := f.strictMono_units (Nat.lt_succ_self _)
  unfold twiceMiddle
  omega

/-- What is at most worth a pattern is not rounded above it. -/
theorem ofRatio_le_of_le_units {pattern num den : Nat} (hden : 0 < den)
    (h : num ≤ f.units pattern * den) : f.ofRatio num den ≤ pattern := by
  refine ofRatio_le (Nat.lt_of_le_of_lt (Nat.mul_le_mul_left 2 h) ?_)
  rw [← Nat.mul_assoc]
  exact Nat.mul_lt_mul_of_pos_right (f.two_mul_units_lt_twiceMiddle pattern) hden

/-- A root that is at least worth a pattern is not rounded below it. -/
theorem le_ofSqrt {pattern n : Nat} (hfinite : pattern ≤ f.infinity)
    (h : f.units pattern * f.units pattern ≤ n) : pattern ≤ f.ofSqrt n := by
  have hnext := Nat.lt_of_le_of_lt (Nat.le_sqrt.mpr h) (f.units_patternBelow_bounds n.sqrt).2
  exact le_settle (Nat.le_of_lt_succ (f.strictMono_units.lt_iff_lt.mp hnext)) hfinite _

/-- A root that is at most worth a pattern is not rounded above it. -/
theorem ofSqrt_le {pattern n : Nat} (h : n ≤ f.units pattern * f.units pattern) :
    f.ofSqrt n ≤ pattern := by
  have hbelow := (f.units_patternBelow_bounds n.sqrt).1
  unfold ofSqrt
  generalize f.patternBelow n.sqrt = below at hbelow ⊢
  have hroot : n.sqrt ≤ f.units pattern := by
    have hsquare := Nat.sqrt_le_sqrt h
    rwa [Nat.sqrt_eq] at hsquare
  have hle : below ≤ pattern :=
    f.strictMono_units.le_iff_le.mp (Nat.le_trans hbelow hroot)
  refine settle_le ?_
  rcases Nat.lt_or_eq_of_le hle with hlt | rfl
  · exact Or.inl hlt
  · refine Or.inr ⟨rfl, Nat.compare_eq_lt.mpr ?_⟩
    calc 4 * n ≤ 4 * (f.units below * f.units below) := Nat.mul_le_mul_left 4 h
      _ = 2 * f.units below * (2 * f.units below) := Nat.mul_mul_mul_comm 2 2 _ _
      _ < f.twiceMiddle below * f.twiceMiddle below :=
        Nat.mul_self_lt_mul_self (f.two_mul_units_lt_twiceMiddle below)

end BinaryFormat

end Gazetteer
