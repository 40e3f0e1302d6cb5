import Gazetteer.Proofs.Text.SmallLetters

/-!
# Capitals in the tables

The tables of decompositions and compositions treat a capital like its small letter, nearly. Taking a
capital apart and putting it in lower case can be done in either order (`decompose_lowerChar`), with
one exception, the lunate sigma. A capital composes with a mark where its small letter does, and
to the capital of the same letter (`composePair_lowerChar`), except for the pairs listed as
`unevenPairs`: most of them have a character only with the small letter.
-/

set_option autoImplicit false

namespace Gazetteer.Text

open Decomposition

/-! ## Taking letters apart -/

/-- The lower case of a code point, looked up for capitals only. -/
noncomputable def lowerCode? (n : Nat) : Nat := Bool.rec n (lowerCode n) (capitalBits.testBit n)

theorem lowerCode?_eq (n : Nat) : lowerCode? n = lowerCode n := by
  unfold lowerCode?
  cases hcapital : capitalBits.testBit n with
  | true => rfl
  | false => exact (lowerCode_eq_self hcapital).symm

/-- The row of a small letter is the row of its capital in lower case. -/
theorem rows_of_capitals : ∀ pair ∈ capitals,
    (codeBits.testBit pair.1 = false ∧ codeBits.testBit pair.2 = false) ∨ pair.1 = 0x3F9 ∨
      (rowFor? pair.2).getD [pair.2] = ((rowFor? pair.1).getD [pair.1]).map lowerCode? := by
  decide +kernel

theorem IsLetter.decompose_eq {c : Char} (h : IsLetter c) :
    decompose c = ((row? c.toNat).getD [c.toNat]).map Char.ofNat := by
  refine decompose_of_not_syllable (isSyllable_eq_false ?_)
  have hc := h.not_hangul
  omega

theorem map_lowerChar_ofNat {codes : List Nat} (h : ∀ n ∈ codes, n.isValidChar) :
    (codes.map Char.ofNat).map lowerChar = (codes.map lowerCode).map Char.ofNat := by
  rw [List.map_map, List.map_map]
  refine List.map_congr_left fun n hn => ?_
  rw [Function.comp_apply, Function.comp_apply, lowerChar_eq, toNat_ofNat (h n hn)]

/-- **A capital is taken apart into what its small letter is taken apart into, up to case.** -/
theorem decompose_lowerChar {c : Char} (hcapital : lowerChar c ≠ c) (hlunate : c.toNat ≠ 0x3F9) :
    decompose (lowerChar c) = (decompose c).map lowerChar := by
  obtain ⟨hc, hl⟩ := isLetter_of_ne hcapital
  rw [hc.decompose_eq, hl.decompose_eq, map_lowerChar_ofNat (isValidChar_of_row c), toNat_lowerChar]
  congr 1
  rcases lowerCode_cases c.toNat with hself | hpair
  · exact absurd (lowerChar_eq_self hself) hcapital
  have hlower : lowerCode? = lowerCode := funext lowerCode?_eq
  rcases rows_of_capitals _ hpair with ⟨hnone, hnone'⟩ | heq | hrows
  · rw [row?_eq_none hnone, row?_eq_none hnone']
    rfl
  · exact absurd heq hlunate
  · rwa [rowFor?_eq_row?, rowFor?_eq_row?, hlower] at hrows

/-! ## Signs -/

/-- Signs and variants that are capitals too. In composed texts other letters stand for them. -/
def letterSigns : List Nat := [0x3F9, 0x2126, 0x212A, 0x212B]

theorem not_sign_of_decompose {c : Char} (h : decompose c = [c]) : c.toNat ∉ letterSigns := by
  have hsigns : ∀ c : Char, c.toNat ∈ letterSigns → decompose c ≠ [c] :=
    forall_of_codes (by decide +kernel)
  exact fun hc => hsigns c hc h

/-! ## What is composed takes after its first part -/

noncomputable def markBits : Nat := markRanges.bits

noncomputable def alphanumericBits : Nat := alphanumericRanges.bits

/-- What a composed character takes over from the first of its pair. -/
structure TakesAfter (first composed : Nat) : Prop where
  sign : composed ∉ letterSigns
  starter : markBits.testBit composed = false
  alphanumeric : alphanumericBits.testBit first = true → alphanumericBits.testBit composed = true
  /-- A small letter is composed to a small letter; a capital to a capital, or the I with a dot. -/
  small : lowerCode? composed = composed ∧ composed ≠ 0x130 ↔ lowerCode? first = first

noncomputable instance (first composed : Nat) : Decidable (TakesAfter first composed) :=
  decidable_of_iff (composed ∉ letterSigns ∧ markBits.testBit composed = false ∧
      (alphanumericBits.testBit first = true → alphanumericBits.testBit composed = true) ∧
        (lowerCode? composed = composed ∧ composed ≠ 0x130 ↔ lowerCode? first = first))
    ⟨fun ⟨hsign, hstarter, hletter, hsmall⟩ => ⟨hsign, hstarter, hletter, hsmall⟩,
      fun ⟨hsign, hstarter, hletter, hsmall⟩ => ⟨hsign, hstarter, hletter, hsmall⟩⟩

theorem rows_takeAfter : ∀ row ∈ compositionRows, ∀ pair ∈ row.2, TakesAfter row.1 pair.2 := by
  decide +kernel

/-- Syllables are letters, and no marks. -/
theorem syllables_stand : (0xAC00, 0xD7A3) ∈ alphanumericRanges ∧
    hangulRanges.bits &&& markRanges.bits = 0 := by
  decide +kernel

theorem takesAfter_of_join? {a b n : Nat} (h : Hangul.join? a b = some n) : TakesAfter a n := by
  have hsyllable := isSyllable_iff.mp (isSyllable_of_join? h)
  have hhangul : hangulRanges.bits.testBit n = true := testBit_hangulRanges (by omega)
  have hsmall (k : Nat) (hk : hangulRanges.bits.testBit k = true) : lowerCode? k = k := by
    rw [lowerCode?_eq, lowerCode_eq_self (not_capital_of_hangul hk)]
  have hfirst : lowerCode? a = a := hsmall a (testBit_hangulRanges (by
    rcases join?_cases h with h | h <;> omega))
  refine ⟨?_, testBit_of_disjoint syllables_stand.2 hhangul, fun _ => ?_, ?_⟩
  · simp only [letterSigns, List.mem_cons, List.not_mem_nil, or_false]
    omega
  · rw [alphanumericBits, CodePoints.testBit_bits_eq_any, List.any_eq_true]
    refine ⟨_, syllables_stand.1, ?_⟩
    rw [Bool.and_eq_true, decide_eq_true_iff, decide_eq_true_iff]
    omega
  · exact iff_of_true ⟨hsmall n hhangul, by omega⟩ hfirst

section TakesAfter

variable {c d j : Char}

theorem takesAfter_of_composePair (h : composePair c d = some j) : TakesAfter c.toNat j.toNat := by
  rcases composePair_cases h with ⟨n, hjoin, rfl⟩ | ⟨row, hrow, hfirst, pair, hpair, -, rfl⟩
  · rw [toNat_syllable (isSyllable_of_join? hjoin)]
    exact takesAfter_of_join? hjoin
  · rw [← hfirst, toNat_ofNat ((row_of_composition row hrow).2 pair hpair).2.1]
    exact rows_takeAfter row hrow pair hpair

theorem not_sign_of_composePair (h : composePair c d = some j) : j.toNat ∉ letterSigns :=
  (takesAfter_of_composePair h).sign

/-- What is composed is no mark. -/
theorem starter_of_composePair (h : composePair c d = some j) : combiningClass j = 0 := by
  refine combiningClass_eq_zero ?_
  rw [← CodePoints.testBit_bits]
  exact (takesAfter_of_composePair h).starter

/-- What is joined to a letter or digit makes it another letter or digit. -/
theorem alphanumeric_of_composePair (hc : isAlphanumeric c = true) (h : composePair c d = some j) :
    isAlphanumeric j = true := by
  rw [isAlphanumeric, ← CodePoints.testBit_bits] at hc ⊢
  exact (takesAfter_of_composePair h).alphanumeric hc

theorem lowerChar_eq_self_iff : lowerChar c = c ↔ lowerCode? c.toNat = c.toNat := by
  rw [lowerCode?_eq]
  refine ⟨fun h => ?_, lowerChar_eq_self⟩
  rw [← toNat_lowerChar, h]

/-- Small letters are composed of what is no capital. -/
theorem isSmall_iff_of_composePair (h : composePair c d = some j) : IsSmall j ↔ lowerChar c = c := by
  rw [isSmall_iff, lowerChar_eq_self_iff, lowerChar_eq_self_iff]
  exact (takesAfter_of_composePair h).small

theorem IsSmall.of_composePair (hc : IsSmall c) (h : composePair c d = some j) : IsSmall j :=
  (isSmall_iff_of_composePair h).mpr (isSmall_iff.mp hc).1

end TakesAfter

/-! ## Joining letters with marks -/

/--
The pairs of a capital and a mark that compose differently in lower case. Almost all have a composed
character with the small letter only; for the capital I with a dot it is the other way round.
-/
def unevenPairs : List (Nat × Nat) := [
  (0x48, 0x331), (0x49, 0x307), (0x4A, 0x30C), (0x54, 0x308), (0x57, 0x30A), (0x59, 0x30A),
  (0x386, 0x345), (0x389, 0x345), (0x38F, 0x345), (0x391, 0x342), (0x397, 0x342), (0x399, 0x342),
  (0x3A1, 0x313), (0x3A5, 0x313), (0x3A5, 0x342), (0x3A9, 0x342), (0x3AA, 0x300), (0x3AA, 0x301),
  (0x3AA, 0x342), (0x3AB, 0x300), (0x3AB, 0x301), (0x3AB, 0x342), (0x1FBA, 0x345),
  (0x1FCA, 0x345), (0x1FFA, 0x345)]

/-- A capital and a mark that compose as the small letter and the mark do. -/
def Even (c d : Char) : Prop := (c.toNat, d.toNat) ∉ unevenPairs

instance (c d : Char) : Decidable (Even c d) := inferInstanceAs (Decidable (¬_))

/-- What a character composes with, in a form that is quick to evaluate. -/
noncomputable def pairsFrom (n : Nat) : List (Nat × Nat) := (rowOf? n compositionRows).getD []

noncomputable def firstBits : Nat := keyBits compositionRows

noncomputable def unevenBits : Nat := keyBits unevenPairs

/-- The compositions of a capital without those that are uneven. -/
noncomputable def evenPairs (n : Nat) (pairs : List (Nat × Nat)) : List (Nat × Nat) :=
  Bool.rec pairs (pairs.filter fun pair => !unevenPairs.contains (n, pair.1)) (unevenBits.testBit n)

theorem pairs_of_capitals : ∀ letter ∈ capitals,
    (firstBits.testBit letter.1 = false ∧ firstBits.testBit letter.2 = false) ∨
      letter.1 ∈ letterSigns ∨ evenPairs letter.1 (pairsFrom letter.2) =
        (evenPairs letter.1 (pairsFrom letter.1)).map fun pair => (pair.1, lowerCode? pair.2) := by
  decide +kernel

section Lookup

variable {α β : Type} {n : Nat}

theorem lookup_filter {p : Nat × α → Bool} (h : ∀ a, p (n, a) = true) (rows : List (Nat × α)) :
    (rows.filter p).lookup n = rows.lookup n := by
  induction rows with
  | nil => rfl
  | cons row rest ih =>
    obtain ⟨k, a⟩ := row
    by_cases hk : n = k
    · subst hk
      rw [List.filter_cons_of_pos (h a), List.lookup_cons_self, List.lookup_cons_self]
    · have hne : (n == k) = false := beq_false_of_ne hk
      rw [List.lookup_cons, hne, ← ih, List.filter_cons]
      split
      · rw [List.lookup_cons, hne]
      · rfl

theorem lookup_map_snd (f : α → β) (rows : List (Nat × α)) :
    (rows.map fun row => (row.1, f row.2)).lookup n = (rows.lookup n).map f := by
  induction rows with
  | nil => rfl
  | cons row rest ih =>
    rw [List.map_cons, List.lookup_cons, List.lookup_cons, ih]
    cases n == row.1 <;> rfl

end Lookup

theorem lookup_evenPairs {n m : Nat} (h : (n, m) ∉ unevenPairs) (pairs : List (Nat × Nat)) :
    (evenPairs n pairs).lookup m = pairs.lookup m := by
  unfold evenPairs
  cases unevenBits.testBit n with
  | true => exact lookup_filter (fun _ => by simpa using h) pairs
  | false => rfl

theorem lookup_pairsFrom (n m : Nat) :
    (pairsFrom n).lookup m = (compositionRows.lookup n).bind (List.lookup m) := by
  rw [pairsFrom, rowOf?_eq_lookup]
  cases compositionRows.lookup n <;> rfl

theorem pairsFrom_eq_nil {n : Nat} (h : firstBits.testBit n = false) : pairsFrom n = [] := by
  rw [pairsFrom, rowOf?_eq_lookup]
  cases hrow : compositionRows.lookup n with
  | none => rfl
  | some pairs =>
    have hcode : n ∈ compositionRows.map Prod.fst := List.mem_map_of_mem (mem_of_lookup hrow)
    rw [firstBits, testBit_keyBits.mpr hcode] at h
    cases h

theorem IsLetter.composePair_eq {c : Char} (h : IsLetter c) (d : Char) :
    composePair c d = ((pairsFrom c.toNat).lookup d.toNat).map Char.ofNat := by
  rw [composePair, h.join?_left, lookup_pairsFrom]

theorem isValidChar_of_pairsFrom {n m j : Nat} (h : (pairsFrom n).lookup m = some j) :
    j.isValidChar := by
  rw [lookup_pairsFrom] at h
  obtain ⟨pairs, hrow, hpair⟩ := Option.bind_eq_some_iff.mp h
  exact ((row_of_composition _ (mem_of_lookup hrow)).2 _ (mem_of_lookup hpair)).2.1

/-- **A capital composes as its small letter does, apart from the uneven pairs.** -/
theorem composePair_lowerChar {c d : Char} (hsign : c.toNat ∉ letterSigns)
    (heven : Even c d) : composePair (lowerChar c) d = (composePair c d).map lowerChar := by
  by_cases hcapital : lowerChar c = c
  · rw [hcapital]
    cases hpair : composePair c d with
    | none => rfl
    | some j =>
      have hsmall : IsSmall j := (isSmall_iff_of_composePair hpair).mpr hcapital
      rw [Option.map_some, (isSmall_iff.mp hsmall).1]
  · obtain ⟨hc, hl⟩ := isLetter_of_ne hcapital
    have hlower : lowerCode? = lowerCode := funext lowerCode?_eq
    have hpairs : (pairsFrom (lowerChar c).toNat).lookup d.toNat =
        ((pairsFrom c.toNat).lookup d.toNat).map lowerCode := by
      rw [toNat_lowerChar]
      rcases lowerCode_cases c.toNat with hself | hletter
      · exact absurd (lowerChar_eq_self hself) hcapital
      rcases pairs_of_capitals _ hletter with ⟨hnone, hnone'⟩ | hmem | hrows
      · rw [pairsFrom_eq_nil hnone, pairsFrom_eq_nil hnone']
        rfl
      · exact absurd hmem hsign
      · rw [← lookup_evenPairs heven, hrows, lookup_map_snd, lookup_evenPairs heven, hlower]
    rw [hc.composePair_eq, hl.composePair_eq, hpairs]
    cases hlookup : (pairsFrom c.toNat).lookup d.toNat with
    | none => rfl
    | some j =>
      rw [Option.map_some, Option.map_some, Option.map_some, Option.map_some, lowerChar_eq,
        toNat_ofNat (isValidChar_of_pairsFrom hlookup)]

/-- Of an uneven pair only one case is composed: that of the small letter, or the I with a dot. -/
theorem uneven_cases {c d : Char} (h : ¬Even c d) : combiningClass d ≠ 0 ∧
    (composePair c d = none ∧ (composePair (lowerChar c) d).isSome ∨
      c = 'I' ∧ d = Char.ofNat 0x307 ∧ composePair (lowerChar c) d = none) := by
  have hpairs : ∀ pair ∈ unevenPairs, combiningClass (Char.ofNat pair.2) ≠ 0 ∧
      (composePair (Char.ofNat pair.1) (Char.ofNat pair.2) = none ∧
          (composePair (lowerChar (Char.ofNat pair.1)) (Char.ofNat pair.2)).isSome ∨
        Char.ofNat pair.1 = 'I' ∧ Char.ofNat pair.2 = Char.ofNat 0x307 ∧
          composePair (lowerChar (Char.ofNat pair.1)) (Char.ofNat pair.2) = none) := by
    decide +kernel
  have hpair := hpairs _ (Decidable.not_not.mp h)
  rwa [Char.ofNat_toNat, Char.ofNat_toNat] at hpair

/-! ## Letters that stay as they are -/

/-- A character without a row in the table of compositions is joined to nothing behind it. -/
theorem joins_nothing {c : Char} (hfirst : firstBits.testBit c.toNat = false)
    (hhangul : c.toNat < 0x1100) (d : Char) : composePair c d = none := by
  have hjoin : Hangul.join? c.toNat d.toNat = none := by
    cases hjoin : Hangul.join? c.toNat d.toNat with
    | none => rfl
    | some n => rcases join?_cases hjoin with h | h <;> omega
  refine composePair_eq_none hjoin ?_
  rw [← lookup_pairsFrom, pairsFrom_eq_nil hfirst]
  rfl

/-- The capital I with a dot is composed, and then joined to nothing more. -/
theorem composePair_dotted : composePair 'I' (Char.ofNat 0x307) = some (Char.ofNat 0x130) ∧
    ∀ d, composePair (Char.ofNat 0x130) d = none :=
  ⟨by decide +kernel, joins_nothing (by decide +kernel) (by decide)⟩

end Gazetteer.Text
