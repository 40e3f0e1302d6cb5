import Gazetteer.Number.Binary32
import Gazetteer.Proofs.Number.Rounding

/-!
# Counting in numbers of 32 bits

A component of a vector counts how often it was hit, by adding one. `IsCount` says that a number
stands for a count, and a count has only one number (`IsCount.eq`). Adding one counts exactly up to
`countLimit`; from there on it changes nothing, because the next count lies halfway between two
numbers and the tie falls back (`IsCount.add_one_min`).
-/

set_option autoImplicit false

namespace Gazetteer

namespace Binary32

/-! ## Numbers as counts -/

/--
The number stands for a count: it is neither negative nor anything special, and has its worth.
-/
structure IsCount (x : Binary32) (n : Nat) : Prop where
  notNegative : x.isNegative = false
  finite : x.isFinite = true
  units : x.units = n * unitsOfOne

theorem IsCount.signedUnits {x : Binary32} {n : Nat} (h : x.IsCount n) :
    x.signedUnits = (n * unitsOfOne : Nat) := by
  rw [Binary32.signedUnits, h.notNegative, if_neg Bool.false_ne_true, h.units]

theorem IsCount.isNaN {x : Binary32} {n : Nat} (h : x.IsCount n) : x.isNaN = false := by
  have hfinite := h.finite
  simp only [isFinite, decide_eq_true_eq] at hfinite
  simp only [Binary32.isNaN, decide_eq_false_iff_not]
  omega

theorem IsCount.isInfinite {x : Binary32} {n : Nat} (h : x.IsCount n) : x.isInfinite = false := by
  have hfinite := h.finite
  simp only [isFinite, decide_eq_true_eq] at hfinite
  simp only [Binary32.isInfinite, beq_eq_false_iff_ne]
  omega

theorem toNat_bits_ofPattern (negative : Bool) {pattern : Nat} (h : pattern < signWorth) :
    (ofPattern negative pattern).bits.toNat = (if negative then signWorth else 0) + pattern := by
  refine UInt32.toNat_ofNat_of_lt' ?_
  cases negative
  · exact Nat.lt_trans (Nat.zero_add pattern ▸ h) (by decide)
  · exact Nat.add_lt_add_left h signWorth

theorem pattern_ofPattern (negative : Bool) {pattern : Nat} (h : pattern < signWorth) :
    (ofPattern negative pattern).pattern = pattern := by
  rw [Binary32.pattern, toNat_bits_ofPattern negative h]
  cases negative
  · rw [if_neg Bool.false_ne_true, Nat.zero_add, Nat.mod_eq_of_lt h]
  · rw [if_pos rfl, Nat.add_mod_left, Nat.mod_eq_of_lt h]

theorem isNegative_ofPattern (negative : Bool) {pattern : Nat} (h : pattern < signWorth) :
    (ofPattern negative pattern).isNegative = negative := by
  rw [isNegative, toNat_bits_ofPattern negative h]
  cases negative
  · rw [if_neg Bool.false_ne_true, Nat.zero_add]
    exact decide_eq_false (Nat.not_le_of_lt h)
  · rw [if_pos rfl]
    exact decide_eq_true (Nat.le_add_right _ _)

/-- Two numbers that stand for one count are the same in every bit. -/
theorem IsCount.eq {x y : Binary32} {n : Nat} (hx : x.IsCount n) (hy : y.IsCount n) : x = y := by
  have hpattern : x.pattern = y.pattern :=
    BinaryFormat.single.strictMono_units.injective (hx.units.trans hy.units.symm)
  have hbits : ∀ z : Binary32, z.isNegative = false → z.bits.toNat = z.pattern := by
    intro z hz
    simp only [isNegative, decide_eq_false_iff_not, Nat.not_le] at hz
    exact (Nat.mod_eq_of_lt hz).symm
  obtain ⟨xbits⟩ := x
  obtain ⟨ybits⟩ := y
  rw [mk.injEq, ← UInt32.toNat_inj]
  rw [hbits _ hx.notNegative, hbits _ hy.notNegative, hpattern]

/-- The greatest count that the next one can still be told apart from. -/
def countLimit : Nat := 0x1000000

theorem isCount_zero : zero.IsCount 0 := ⟨by decide, by decide, by decide⟩
theorem isCount_one : one.IsCount 1 := ⟨by decide, by decide +kernel, by decide +kernel⟩

theorem exists_units_eq_count {n : Nat} (h : n ≤ countLimit) :
    ∃ pattern, BinaryFormat.single.units pattern = n * unitsOfOne := by
  rcases Nat.lt_or_eq_of_le h with hlt | rfl
  · obtain ⟨pattern, hpattern⟩ := BinaryFormat.exists_units_eq (f := .single) (n := n) hlt
      BinaryFormat.single.unitPlaces
    refine ⟨pattern, hpattern.trans ?_⟩
    rw [unitsOfOne, Nat.shiftLeft_eq, Nat.one_shiftLeft]
  · -- the limit has one bit too many, but its last bit is zero
    exact BinaryFormat.exists_units_eq (f := .single) (n := 0x800000) (by decide) 150

/-- A count up to the limit is a number of the format, so rounding leaves it alone. -/
theorem isCount_round {n : Nat} (h : n ≤ countLimit) :
    (round false (n * unitsOfOne) 1).IsCount n := by
  obtain ⟨pattern, hunits⟩ := exists_units_eq_count h
  have hfinite : pattern < BinaryFormat.single.infinity := by
    refine BinaryFormat.single.strictMono_units.lt_iff_lt.mp ?_
    rw [hunits]
    calc n * unitsOfOne ≤ countLimit * unitsOfOne := Nat.mul_le_mul_right _ h
      _ < BinaryFormat.single.units BinaryFormat.single.infinity := by decide +kernel
  have hword : pattern < signWorth := Nat.lt_trans hfinite (by decide)
  rw [round, ← hunits, BinaryFormat.ofRatio_units (Nat.le_of_lt hfinite)]
  refine ⟨isNegative_ofPattern false hword, ?_, ?_⟩
  · rw [isFinite, pattern_ofPattern false hword]
    exact decide_eq_true hfinite
  · rw [Binary32.units, pattern_ofPattern false hword, hunits]

/-- Counts are added exactly, as far as their sum can be told from the next count. -/
theorem IsCount.add {x y : Binary32} {m n : Nat} (hx : x.IsCount m) (hy : y.IsCount n)
    (h : m + n ≤ countLimit) : (x + y).IsCount (m + n) := by
  show (Binary32.add x y).IsCount (m + n)
  have hsum : x.signedUnits + y.signedUnits = ((m + n) * unitsOfOne : Nat) := by
    rw [hx.signedUnits, hy.signedUnits, ← Int.natCast_add, ← Nat.add_mul]
  unfold Binary32.add
  simp only [hx.isNaN, hy.isNaN, hx.isInfinite, hy.isInfinite, Bool.false_eq_true, if_false, hsum]
  by_cases hzero : m + n = 0
  · rw [hzero, Nat.zero_mul, if_pos Int.natCast_zero, hx.notNegative]
    exact isCount_zero
  · have hpos : 0 < (m + n) * unitsOfOne := Nat.mul_pos (Nat.pos_of_ne_zero hzero) (by decide)
    rw [if_neg (by omega), decide_eq_false (by omega), Int.natAbs_natCast]
    exact isCount_round h

theorem IsCount.add_one {x : Binary32} {n : Nat} (hx : x.IsCount n) (h : n < countLimit) :
    (x + one).IsCount (n + 1) :=
  hx.add isCount_one h

/-- At the limit one more is lost: it lies halfway to the next number and the tie goes back. -/
theorem IsCount.add_one_of_limit {x : Binary32} (hx : x.IsCount countLimit) :
    (x + one).IsCount countLimit := by
  have hlimit : IsCount ⟨0x4B800000⟩ countLimit :=
    ⟨by decide, by decide +kernel, by decide +kernel⟩
  have htie : (⟨0x4B800000⟩ : Binary32) + one = ⟨0x4B800000⟩ := by decide +kernel
  rw [hx.eq hlimit, htie]
  exact hlimit

/-- One more, as far as it can be counted. -/
theorem IsCount.add_one_min {x : Binary32} {n : Nat} (hx : x.IsCount (min countLimit n)) :
    (x + one).IsCount (min countLimit (n + 1)) := by
  by_cases h : n < countLimit
  · rw [Nat.min_eq_right (Nat.le_of_lt h)] at hx
    rw [Nat.min_eq_right h]
    exact hx.add_one h
  · rw [Nat.min_eq_left (Nat.not_lt.mp h)] at hx
    rw [Nat.min_eq_left (by omega)]
    exact hx.add_one_of_limit

end Binary32

end Gazetteer
