import Gazetteer.Text.CodePoints

/-!
# Sets of code points as numbers

A property of characters is given by hundreds of ranges, and looking a character up goes through
all of them. To say something about all rows of a table it pays to write the set as one number, with
a bit for each code point that has the property (`CodePoints.bits`): testing a bit is one step of
arithmetic, and `testBit_bits` says that it is the same question. That one set lies in another, or
apart from it, is a single equation between numbers.
-/

set_option autoImplicit false

namespace Gazetteer.Text

/--
The bits of all entries of a table together. It is written with the recursor itself: what is compiled
from pattern matching would take the kernel several times as long, and tables are long.
-/
noncomputable def bitsBy {α : Type} (entryBits : α → Nat) (table : List α) : Nat :=
  List.rec (motive := fun _ => Nat) 0 (fun entry _ others => Nat.lor (entryBits entry) others) table

theorem testBit_bitsBy {α : Type} (entryBits : α → Nat) (table : List α) (n : Nat) :
    (bitsBy entryBits table).testBit n = table.any fun entry => (entryBits entry).testBit n := by
  induction table with
  | nil => exact Nat.zero_testBit n
  | cons entry rest ih =>
    rw [List.any_cons, ← ih, ← Nat.testBit_or]
    rfl

/-- The bits of the code points that have an entry in a table. -/
noncomputable def keyBits {α : Type} (table : List (Nat × α)) : Nat :=
  bitsBy (fun entry => Nat.shiftLeft 1 entry.1) table

theorem testBit_shiftLeft_one (n m : Nat) : (Nat.shiftLeft 1 n).testBit m = decide (n = m) := by
  show (1 <<< n).testBit m = _
  rw [Nat.one_shiftLeft, Nat.testBit_two_pow]

theorem testBit_keyBits {α : Type} {table : List (Nat × α)} {n : Nat} :
    (keyBits table).testBit n = true ↔ n ∈ table.map Prod.fst := by
  rw [keyBits, testBit_bitsBy, List.any_eq_true, List.mem_map]
  simp only [testBit_shiftLeft_one, decide_eq_true_iff]

/-- The bits from the first code point of a range to the last. -/
def rangeBits (range : Nat × Nat) : Nat := (1 <<< (range.2 + 1 - range.1) - 1) <<< range.1

theorem testBit_rangeBits (range : Nat × Nat) (n : Nat) :
    (rangeBits range).testBit n = (decide (range.1 ≤ n) && decide (n ≤ range.2)) := by
  rw [rangeBits, Nat.testBit_shiftLeft, Nat.one_shiftLeft, Nat.testBit_two_pow_sub_one]
  by_cases hfirst : range.1 ≤ n
  · simp only [ge_iff_le, hfirst, decide_true, Bool.true_and, decide_eq_decide]
    omega
  · simp [hfirst]

namespace CodePoints

/-- The code points of a set as the bits of one number. -/
noncomputable def bits (ranges : CodePoints) : Nat := bitsBy rangeBits ranges

theorem testBit_bits_eq_any (ranges : CodePoints) (n : Nat) :
    ranges.bits.testBit n =
      List.any ranges fun range => decide (range.1 ≤ n) && decide (n ≤ range.2) := by
  simp only [bits, testBit_bitsBy, testBit_rangeBits]

theorem testBit_bits (ranges : CodePoints) (c : Char) :
    ranges.bits.testBit c.toNat = ranges.has c :=
  testBit_bits_eq_any ranges c.toNat

end CodePoints

/-! ## Inclusion and disjointness -/

section Sets

variable {these those n : Nat}

theorem testBit_of_subset (h : these &&& those = these) (hn : these.testBit n = true) :
    those.testBit n = true := by
  rw [← h, Nat.testBit_and, Bool.and_eq_true] at hn
  exact hn.2

theorem testBit_of_disjoint (h : these &&& those = 0) (hn : these.testBit n = true) :
    those.testBit n = false := by
  have hboth : (these &&& those).testBit n = false := by rw [h, Nat.zero_testBit]
  rwa [Nat.testBit_and, hn, Bool.true_and] at hboth

end Sets

end Gazetteer.Text
