import Gazetteer.Bytes
import Mathlib.Data.String.Basic

/-!
# The order of texts is the order of their bytes

Texts are ordered by their code points, and bytes by their worth. **A text that comes before another
comes before it in bytes too** (`lex_ofText`). The encoding of a character sees to that: a longer
one begins with a greater byte, and in one of the same length the high bits come first. Where one
encoding ends need not be known, because no encoding begins another.
-/

set_option autoImplicit false

namespace Gazetteer.Bytes

/-! ## The bytes of a character -/

/-- How many bytes follow the first one of a code point. -/
def followers (n : Nat) : Nat :=
  if n ≤ 0x7F then 0 else if n ≤ 0x7FF then 1 else if n ≤ 0xFFFF then 2 else 3

/-- What the first byte holds besides the highest bits, given how many bytes follow. -/
def leadMark : Nat → Nat
  | 0 => 0
  | 1 => 0xC0
  | 2 => 0xE0
  | _ => 0xF0

/-- The bytes that follow: six bits each, the higher ones first. -/
def continuation : Nat → Nat → List UInt8
  | 0, _ => []
  | count + 1, n => UInt8.ofNat ((n >>> (6 * count)) % 64 + 0x80) :: continuation count n

/-- The first byte of a code point, as a number. -/
def leadByte (n : Nat) : Nat := n >>> (6 * followers n) + leadMark (followers n)

theorem codePoint_lt (c : Char) : c.toNat < 0x110000 := by
  have h := c.valid
  simp only [UInt32.isValidChar, Nat.isValidChar] at h
  show c.val.toNat < _
  omega

theorem shiftRight_succ_mul (n count : Nat) :
    n >>> (6 * (count + 1)) = (n >>> (6 * count)) / 64 := by
  rw [Nat.mul_succ, Nat.shiftRight_add, Nat.shiftRight_eq_div_pow _ 6]

theorem utf8EncodeChar_eq (c : Char) :
    String.utf8EncodeChar c =
      UInt8.ofNat (leadByte c.toNat) :: continuation (followers c.toNat) c.toNat := by
  have hvalid := codePoint_lt c
  unfold String.utf8EncodeChar leadByte followers
  rw [show c.val.toNat = c.toNat from rfl]
  generalize c.toNat = n at hvalid ⊢
  simp only []
  split
  · rfl
  split
  · have hlead : n / 64 % 32 = n / 64 := Nat.mod_eq_of_lt (by omega)
    simp [continuation, leadMark, Nat.shiftRight_eq_div_pow, hlead]
  split
  · have hlead : n / 4096 % 16 = n / 4096 := Nat.mod_eq_of_lt (by omega)
    simp [continuation, leadMark, Nat.shiftRight_eq_div_pow, hlead]
  · have hlead : n / 262144 % 8 = n / 262144 := Nat.mod_eq_of_lt (by omega)
    simp [continuation, leadMark, Nat.shiftRight_eq_div_pow, hlead]

/-! ## Comparing -/

section Comparing

variable {a b : Nat} {front back : List UInt8}

theorem lex_cons_of_lt (h : a < b) (hbyte : b < 256) :
    List.Lex (· < ·) (UInt8.ofNat a :: front) (UInt8.ofNat b :: back) := by
  refine List.Lex.rel ?_
  rw [UInt8.lt_iff_toNat_lt, UInt8.toNat_ofNat_of_lt' hbyte,
    UInt8.toNat_ofNat_of_lt' (Nat.lt_trans h hbyte)]
  exact h

theorem lex_cons_of_eq (h : a = b) (hrest : List.Lex (· < ·) front back) :
    List.Lex (· < ·) (UInt8.ofNat a :: front) (UInt8.ofNat b :: back) := by
  rw [h]
  exact List.Lex.cons hrest

theorem lex_continuation (h : a < b) {count : Nat}
    (hhigh : a >>> (6 * count) = b >>> (6 * count)) :
    List.Lex (· < ·) (continuation count a ++ front) (continuation count b ++ back) := by
  induction count with
  | zero => exact absurd hhigh (Nat.ne_of_lt h)
  | succ count ih =>
    rw [shiftRight_succ_mul, shiftRight_succ_mul] at hhigh
    have hle : a >>> (6 * count) ≤ b >>> (6 * count) := by
      rw [Nat.shiftRight_eq_div_pow, Nat.shiftRight_eq_div_pow]
      exact Nat.div_le_div_right (Nat.le_of_lt h)
    rw [continuation, continuation, List.cons_append, List.cons_append]
    rcases Nat.lt_or_ge (a >>> (6 * count)) (b >>> (6 * count)) with hlt | hge
    · exact lex_cons_of_lt (by omega) (by omega)
    · exact lex_cons_of_eq (by omega) (ih (Nat.le_antisymm hle hge))

end Comparing

theorem leadByte_lt {n : Nat} (h : n < 0x110000) : leadByte n < 256 := by
  unfold leadByte followers
  split_ifs <;> simp [leadMark, Nat.shiftRight_eq_div_pow] <;> omega

/-- A longer encoding has a greater first byte. -/
theorem leadByte_lt_leadByte {m n : Nat} (h : followers m < followers n) :
    leadByte m < leadByte n := by
  unfold leadByte
  unfold followers at h ⊢
  split_ifs at h ⊢ <;> simp [leadMark, Nat.shiftRight_eq_div_pow] <;> omega

theorem followers_mono {m n : Nat} (h : m ≤ n) : followers m ≤ followers n := by
  unfold followers
  split_ifs <;> omega

/-- The encodings of two characters differ in a byte, which is the less for the lesser character. -/
theorem lex_utf8EncodeChar {c d : Char} (h : c < d) (front back : List UInt8) :
    List.Lex (· < ·) (String.utf8EncodeChar c ++ front) (String.utf8EncodeChar d ++ back) := by
  have hlt : c.toNat < d.toNat := UInt32.lt_iff_toNat_lt.mp h
  have hbyte : leadByte d.toNat < 256 := leadByte_lt (codePoint_lt d)
  rw [utf8EncodeChar_eq, utf8EncodeChar_eq, List.cons_append, List.cons_append]
  rcases Nat.lt_or_eq_of_le (followers_mono (Nat.le_of_lt hlt)) with hmore | hsame
  · exact lex_cons_of_lt (leadByte_lt_leadByte hmore) hbyte
  · -- of the same length: the high bits decide, or else the bytes that follow
    have hle : c.toNat >>> (6 * followers c.toNat) ≤ d.toNat >>> (6 * followers d.toNat) := by
      rw [hsame, Nat.shiftRight_eq_div_pow, Nat.shiftRight_eq_div_pow]
      exact Nat.div_le_div_right (Nat.le_of_lt hlt)
    unfold leadByte at hbyte ⊢
    rw [hsame] at hle ⊢
    rcases Nat.lt_or_eq_of_le hle with hhigh | hhigh
    · exact lex_cons_of_lt (Nat.add_lt_add_right hhigh _) hbyte
    · exact lex_cons_of_eq (by rw [hhigh]) (lex_continuation hlt hhigh)

/-! ## Whole texts -/

theorem ofText_eq (s : String) : ofText s = s.toList.flatMap String.utf8EncodeChar := by
  conv_lhs => rw [← String.ofList_toList (s := s)]
  rw [ofText, String.toUTF8, String.toByteArray_ofList, List.utf8Encode]
  simp

/-- **A text that comes before another comes before it in bytes too.** -/
theorem lex_ofText {s t : String} (h : s < t) : List.Lex (· < ·) (ofText s) (ofText t) := by
  have hchars : List.Lex (· < ·) s.toList t.toList := String.lt_iff.mp h
  rw [ofText_eq, ofText_eq]
  generalize s.toList = front at hchars ⊢
  generalize t.toList = back at hchars ⊢
  induction hchars with
  | nil =>
    rw [List.flatMap_cons, utf8EncodeChar_eq]
    exact List.Lex.nil
  | rel hlt =>
    rw [List.flatMap_cons, List.flatMap_cons]
    exact lex_utf8EncodeChar hlt _ _
  | cons _ ih =>
    rw [List.flatMap_cons, List.flatMap_cons]
    exact List.Lex.append_left _ ih _

end Gazetteer.Bytes
