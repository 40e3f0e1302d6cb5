import Gazetteer.Proofs.Text.Blanks
import Gazetteer.Proofs.Text.CodePointBits

/-!
# How the tables of decompositions and compositions fit together

Two facts about the tables carry all that is proved of the composed compatibility form. Taking a
character apart leaves nothing that could be taken apart further (`decompose_of_mem_decompose`). And
a character that a pair composes to is taken apart into what the first of the pair is taken apart
into, and the second (`decompose_of_composePair`): so composing loses nothing.

Both are checked row by row, and for the Hangul syllables, which have no rows, by their arithmetic.
-/

set_option autoImplicit false

namespace Gazetteer.Text

/-! ## Rows -/

section Rows

variable {α : Type} {n : Nat}

theorem mem_of_lookup {rows : List (Nat × α)} {a : α} (h : rows.lookup n = some a) :
    (n, a) ∈ rows := by
  obtain ⟨before, after, rfl, -⟩ := List.lookup_eq_some_iff.mp h
  exact List.mem_append_right _ List.mem_cons_self

/--
Looking a row up by the recursors themselves. What is compiled from pattern matching would take the
kernel several times as long, and the tables are looked up thousands of times.
-/
noncomputable def rowOf? (n : Nat) (rows : List (Nat × α)) : Option α :=
  List.rec (motive := fun _ => Option α) none
    (fun row _ found => Bool.rec found (some row.2) (Nat.beq n row.1)) rows

theorem rowOf?_eq_lookup (rows : List (Nat × α)) : rowOf? n rows = rows.lookup n := by
  induction rows with
  | nil => rfl
  | cons row rest ih =>
    obtain ⟨k, a⟩ := row
    have hsame : (n == k) = Nat.beq n k := Bool.eq_iff_iff.mpr (by simp)
    rw [List.lookup_cons, ← ih, hsame]
    show Bool.rec (motive := fun _ => Option α) (rowOf? n rest) (some a) (Nat.beq n k) = _
    cases Nat.beq n k <;> rfl

end Rows

namespace Decomposition

/-- The code points that have a row. -/
noncomputable def codeBits : Nat := bitsBy (fun page => keyBits page.2) pages

theorem exists_page_of_row? {n : Nat} {row : List Nat} (h : row? n = some row) :
    ∃ page ∈ pages, (n, row) ∈ page.2 := by
  obtain ⟨rows, hpage, hrow⟩ := Option.bind_eq_some_iff.mp h
  exact ⟨_, mem_of_lookup hpage, mem_of_lookup hrow⟩

theorem row?_eq_none {n : Nat} (h : codeBits.testBit n = false) : row? n = none := by
  cases hrow : row? n with
  | none => rfl
  | some row =>
    obtain ⟨page, hpage, hmem⟩ := exists_page_of_row? hrow
    have hcode : codeBits.testBit n = true := by
      rw [codeBits, testBit_bitsBy, List.any_eq_true]
      exact ⟨page, hpage, testBit_keyBits.mpr (List.mem_map_of_mem hmem)⟩
    rw [h] at hcode
    cases hcode

/-- The row of a code point, in a form that is quick to evaluate. -/
noncomputable def rowFor? (n : Nat) : Option (List Nat) := (rowOf? (n / 256) pages).bind (rowOf? n)

theorem rowFor?_eq_row? (n : Nat) : rowFor? n = row? n := by
  have hpage : (rowOf? n : List (Nat × List Nat) → _) = List.lookup n := funext rowOf?_eq_lookup
  rw [rowFor?, rowOf?_eq_lookup, hpage]
  rfl

/-- A code point that is a character of its own and cannot be taken apart. -/
def Atomic (n : Nat) : Prop :=
  n.isValidChar ∧ Hangul.isSyllable n = false ∧ codeBits.testBit n = false

noncomputable instance (n : Nat) : Decidable (Atomic n) := inferInstanceAs (Decidable (_ ∧ _))

theorem atomic_of_mem_row : ∀ page ∈ pages, ∀ row ∈ page.2, ∀ n ∈ row.2, Atomic n := by
  decide +kernel

end Decomposition

open Decomposition

/-! ## Taking apart once is enough -/

theorem toNat_ofNat {n : Nat} (h : n.isValidChar) : (Char.ofNat n).toNat = n := by
  rw [Char.ofNat, dif_pos h]
  rfl

theorem eq_ofNat {c : Char} {n : Nat} (h : c.toNat = n) : c = Char.ofNat n := by
  rw [← h, Char.ofNat_toNat]

/-- What holds of the characters with certain code points can be checked one by one. -/
theorem forall_of_codes {codes : List Nat} {p : Char → Prop}
    (h : ∀ n ∈ codes, p (Char.ofNat n)) : ∀ c : Char, c.toNat ∈ codes → p c := by
  intro c hc
  have hp := h _ hc
  rwa [Char.ofNat_toNat] at hp

theorem isSyllable_iff {n : Nat} : Hangul.isSyllable n = true ↔ 0xAC00 ≤ n ∧ n < 0xD7A4 := by
  rw [Hangul.isSyllable, Bool.and_eq_true, decide_eq_true_iff, decide_eq_true_iff]
  exact Iff.rfl

theorem isSyllable_eq_false {n : Nat} (h : n < 0xAC00 ∨ 0xD7A4 ≤ n) :
    Hangul.isSyllable n = false := by
  rw [← Bool.not_eq_true, isSyllable_iff]
  omega

theorem decompose_eq_self {c : Char} (hsyllable : Hangul.isSyllable c.toNat = false)
    (hrow : row? c.toNat = none) : decompose c = [c] := by
  have hsplit : Hangul.split? c.toNat = none := by
    rw [Hangul.split?, hsyllable]
    rfl
  rw [decompose, hsplit, hrow]

/-- The row of a character lists characters, and so does a missing row. -/
theorem isValidChar_of_row (c : Char) : ∀ n ∈ (row? c.toNat).getD [c.toNat], n.isValidChar := by
  intro n hn
  cases hrow : row? c.toNat with
  | none =>
    rw [hrow, Option.getD_none, List.mem_singleton] at hn
    exact hn ▸ c.valid
  | some row =>
    rw [hrow, Option.getD_some] at hn
    obtain ⟨page, hpage, hmem⟩ := exists_page_of_row? hrow
    exact (atomic_of_mem_row page hpage _ hmem n hn).1

theorem decompose_of_atomic {n : Nat} (h : Atomic n) : decompose (Char.ofNat n) = [Char.ofNat n] := by
  obtain ⟨hvalid, hsyllable, hbit⟩ := h
  refine decompose_eq_self ?_ ?_ <;> rw [toNat_ofNat hvalid]
  · exact hsyllable
  · exact row?_eq_none hbit

/-- No jamo has a row, and none is a syllable. -/
theorem decompose_jamo {n : Nat} (hfirst : 0x1100 ≤ n) (hlast : n < 0x1200) :
    decompose (Char.ofNat n) = [Char.ofNat n] := by
  have hvalid : n.isValidChar := Or.inl (by omega)
  have hpage : pages.lookup 0x11 = none := by decide +kernel
  refine decompose_eq_self ?_ ?_ <;> rw [toNat_ofNat hvalid]
  · exact isSyllable_eq_false (Or.inl (by omega))
  · have hquotient : n / 256 = 0x11 := by omega
    rw [row?, hquotient, hpage]
    rfl

theorem split?_of_syllable {n : Nat} (h : Hangul.isSyllable n = true) :
    Hangul.split? n = some
      (if (n - 0xAC00) % 28 = 0 then [0x1100 + (n - 0xAC00) / 588, 0x1161 + (n - 0xAC00) % 588 / 28]
      else [0x1100 + (n - 0xAC00) / 588, 0x1161 + (n - 0xAC00) % 588 / 28,
        0x11A7 + (n - 0xAC00) % 28]) := by
  rw [Hangul.split?, if_pos h]
  rfl

theorem jamo_of_split? {n k : Nat} {jamo : List Nat} (h : Hangul.split? n = some jamo)
    (hk : k ∈ jamo) : 0x1100 ≤ k ∧ k < 0x1200 := by
  cases hsyllable : Hangul.isSyllable n with
  | false =>
    rw [Hangul.split?, hsyllable] at h
    cases h
  | true =>
    rw [split?_of_syllable hsyllable, Option.some.injEq] at h
    rw [isSyllable_iff] at hsyllable
    subst h
    split at hk <;> simp only [List.mem_cons, List.not_mem_nil, or_false] at hk <;> omega

/-- **What a character is taken apart into cannot be taken apart.** -/
theorem decompose_of_mem_decompose {c d : Char} (h : d ∈ decompose c) : decompose d = [d] := by
  unfold decompose at h
  split at h
  · rename_i jamo hsplit
    obtain ⟨k, hk, rfl⟩ := List.mem_map.mp h
    obtain ⟨hfirst, hlast⟩ := jamo_of_split? hsplit hk
    exact decompose_jamo hfirst hlast
  · rename_i hsplit
    split at h
    · rename_i row hrow
      obtain ⟨n, hn, rfl⟩ := List.mem_map.mp h
      obtain ⟨page, hpage, hmem⟩ := exists_page_of_row? hrow
      exact decompose_of_atomic (atomic_of_mem_row page hpage _ hmem n hn)
    · rename_i hrow
      rw [List.mem_singleton] at h
      subst h
      rw [decompose, hsplit, hrow]

/-! ## Composing loses nothing -/

theorem decompose_of_not_syllable {c : Char} (h : Hangul.isSyllable c.toNat = false) :
    decompose c = ((row? c.toNat).getD [c.toNat]).map Char.ofNat := by
  have hsplit : Hangul.split? c.toNat = none := by
    rw [Hangul.split?, h]
    rfl
  unfold decompose
  rw [hsplit]
  cases row? c.toNat with
  | none => simp
  | some row => rfl

/-- A row of compositions says of each pair what the row of decompositions says of its character. -/
theorem row_of_composition : ∀ row ∈ compositionRows, Hangul.isSyllable row.1 = false ∧
    ∀ pair ∈ row.2, Atomic pair.1 ∧ pair.2.isValidChar ∧ Hangul.isSyllable pair.2 = false ∧
      rowFor? pair.2 = some ((rowFor? row.1).getD [row.1] ++ [pair.1]) := by
  decide +kernel

/-- A pair composes by the rule for syllables or by a row of the table. -/
theorem composePair_cases {a m j : Char} (h : composePair a m = some j) :
    (∃ n, Hangul.join? a.toNat m.toNat = some n ∧ j = Char.ofNat n) ∨
      ∃ row ∈ compositionRows, row.1 = a.toNat ∧
        ∃ pair ∈ row.2, pair.1 = m.toNat ∧ j = Char.ofNat pair.2 := by
  unfold composePair at h
  split at h
  · rename_i n hjoin
    exact Or.inl ⟨n, hjoin, (Option.some.inj h).symm⟩
  · obtain ⟨n, hlookup, hj⟩ := Option.map_eq_some_iff.mp h
    obtain ⟨pairs, hrow, hpair⟩ := Option.bind_eq_some_iff.mp hlookup
    exact Or.inr ⟨_, mem_of_lookup hrow, rfl, _, mem_of_lookup hpair, rfl, hj.symm⟩

/-- The two ways to join jamo: a lead and a vowel, or a syllable that ends in its vowel and a trail. -/
theorem join?_cases {a b n : Nat} (h : Hangul.join? a b = some n) :
    (0x1100 ≤ a ∧ a < 0x1113 ∧ 0x1161 ≤ b ∧ b < 0x1176 ∧
        n = 0xAC00 + ((a - 0x1100) * 21 + (b - 0x1161)) * 28) ∨
      (0xAC00 ≤ a ∧ a < 0xD7A4 ∧ (a - 0xAC00) % 28 = 0 ∧ 0x11A7 < b ∧ b < 0x11C3 ∧
        n = a + (b - 0x11A7)) := by
  unfold Hangul.join? at h
  split at h
  · rename_i hlead
    simp only [Bool.and_eq_true, decide_eq_true_iff] at hlead
    obtain ⟨⟨⟨hfirst, hlast⟩, hvowel⟩, hvowelLast⟩ := hlead
    exact Or.inl ⟨hfirst, hlast, hvowel, hvowelLast, (Option.some.inj h).symm⟩
  · split at h
    · rename_i hopen
      simp only [Bool.and_eq_true, decide_eq_true_iff, beq_iff_eq, isSyllable_iff] at hopen
      obtain ⟨⟨⟨⟨hfirst, hlast⟩, hends⟩, htrail⟩, htrailLast⟩ := hopen
      exact Or.inr ⟨hfirst, hlast, hends, htrail, htrailLast, (Option.some.inj h).symm⟩
    · cases h

theorem isSyllable_of_join? {a b n : Nat} (h : Hangul.join? a b = some n) :
    Hangul.isSyllable n = true := by
  rw [isSyllable_iff]
  rcases join?_cases h with h | h <;> omega

theorem toNat_syllable {n : Nat} (h : Hangul.isSyllable n = true) : (Char.ofNat n).toNat = n := by
  rw [isSyllable_iff] at h
  exact toNat_ofNat (Or.inl (by omega))

/-- A syllable that was joined splits into what was joined. -/
theorem split?_of_join? {a b n : Nat} (h : Hangul.join? a b = some n) :
    Hangul.split? n = some ((Hangul.split? a).getD [a] ++ [b]) := by
  rw [split?_of_syllable (isSyllable_of_join? h)]
  rcases join?_cases h with ⟨_, _, _, _, hn⟩ | ⟨hfirst, hlast, hends, _, _, hn⟩
  · have hsplit : Hangul.split? a = none := by
      rw [Hangul.split?, isSyllable_eq_false (Or.inl (by omega))]
      rfl
    have hlead : 0x1100 + (n - 0xAC00) / 588 = a := by omega
    have hvowel : 0x1161 + (n - 0xAC00) % 588 / 28 = b := by omega
    rw [hsplit, if_pos (by omega), hlead, hvowel]
    rfl
  · have hlead : (n - 0xAC00) / 588 = (a - 0xAC00) / 588 := by omega
    have hvowel : (n - 0xAC00) % 588 / 28 = (a - 0xAC00) % 588 / 28 := by omega
    have htrail : 0x11A7 + (n - 0xAC00) % 28 = b := by omega
    rw [split?_of_syllable (isSyllable_iff.mpr ⟨hfirst, hlast⟩), if_neg (by omega), if_pos hends,
      hlead, hvowel, htrail]
    rfl

/-- **A composed character is taken apart into what it was composed of.** -/
theorem decompose_of_composePair {a m j : Char} (h : composePair a m = some j) :
    decompose j = decompose a ++ [m] ∧ decompose m = [m] := by
  rcases composePair_cases h with ⟨n, hjoin, rfl⟩ | ⟨row, hrow, hfirst, pair, hpair, hsecond, rfl⟩
  · have hbounds : 0x1100 ≤ m.toNat ∧ m.toNat < 0x1200 := by
      rcases join?_cases hjoin with h | h <;> omega
    have hm : decompose m = [m] := by
      have hjamo := decompose_jamo hbounds.1 hbounds.2
      rwa [Char.ofNat_toNat] at hjamo
    have hj : decompose (Char.ofNat n) =
        ((Hangul.split? a.toNat).getD [a.toNat]).map Char.ofNat ++ [m] := by
      rw [decompose, toNat_syllable (isSyllable_of_join? hjoin), split?_of_join? hjoin]
      simp
    refine ⟨?_, hm⟩
    rw [hj]
    congr 1
    -- the first of the pair is a syllable that ends in its vowel, or a lead
    cases ha : Hangul.split? a.toNat with
    | some jamo => rw [decompose, ha]; rfl
    | none =>
      have hlead : 0x1100 ≤ a.toNat ∧ a.toNat < 0x1200 := by
        rcases join?_cases hjoin with h | ⟨hfirst, hlast, -⟩
        · omega
        · rw [split?_of_syllable (isSyllable_iff.mpr ⟨hfirst, hlast⟩)] at ha
          cases ha
      have hself := decompose_jamo hlead.1 hlead.2
      rw [Char.ofNat_toNat] at hself
      rw [hself]
      simp
  · obtain ⟨hfirstSyllable, hpairs⟩ := row_of_composition row hrow
    obtain ⟨hatomic, hvalid, hsyllable, hrowEq⟩ := hpairs pair hpair
    have hm : decompose m = [m] := by
      have hself := decompose_of_atomic hatomic
      rwa [hsecond, Char.ofNat_toNat] at hself
    refine ⟨?_, hm⟩
    rw [rowFor?_eq_row?, rowFor?_eq_row?] at hrowEq
    rw [decompose_of_not_syllable (by rwa [toNat_ofNat hvalid]), toNat_ofNat hvalid, hrowEq,
      decompose_of_not_syllable (by rwa [← hfirst]), hfirst]
    simp [hsecond]

end Gazetteer.Text
