import Gazetteer.Proofs.Text.Decompositions
import Gazetteer.Text.Words
import Mathlib.Data.List.Basic

/-!
# Capitals and small letters

Apart from the capital I with a dot, a character has one character for its lower case (`lowerChar`).
It is another one for the capitals only, which stand in a few runs of the table; and all that is
proved of them here follows from where capitals and small letters stand (`letters_stand`): they are
letters and no marks, and nothing is joined to a letter in front of them. So **putting a character in
lower case changes neither its combining class nor whether it belongs to a word**.
-/

set_option autoImplicit false

namespace Gazetteer.Text

open Decomposition

/-! ## The lower case of one character -/

/-- The lower case of a character, where that is one character. -/
def lowerChar (c : Char) : Char :=
  match lowerChars c with
  | [l] => l
  | _ => c

/-- The capital I with a dot is the only character whose lower case is not one character. -/
theorem lowerChars_eq {c : Char} (h : c.toNat ≠ 0x130) : lowerChars c = [lowerChar c] := by
  unfold lowerChar lowerChars
  rw [if_neg h]
  cases lowerRuns.findSome? (lowerByRun c.toNat) <;> rfl

theorem lowerChar_dotted {c : Char} (h : c.toNat = 0x130) : lowerChar c = c := by
  unfold lowerChar lowerChars
  rw [if_pos h]

/-- Whether a run covers a code point, in a form that is quick to evaluate. -/
noncomputable def inRun (n : Nat) (run : Nat × Nat × Nat × Nat) : Bool :=
  Bool.rec false (Bool.rec false (Nat.beq ((n - run.1) % run.2.2.1) 0) (Nat.ble run.1 n))
    (Nat.ble n run.2.1)

/-- The lower case of a code point by runs, in a form that is quick to evaluate. -/
noncomputable def lowerCodeBy (runs : List (Nat × Nat × Nat × Nat)) (n : Nat) : Nat :=
  List.rec (motive := fun _ => Nat) n
    (fun run _ other => Bool.rec other (run.2.2.2 + (n - run.1)) (inRun n run)) runs

noncomputable def lowerCode (n : Nat) : Nat := lowerCodeBy lowerRuns n

theorem inRun_iff {n first last step image : Nat} :
    inRun n (first, last, step, image) = true ↔
      first ≤ n ∧ n ≤ last ∧ (n - first) % step = 0 := by
  have hlast : Nat.ble n last = decide (n ≤ last) := Bool.eq_iff_iff.mpr (by simp)
  have hfirst : Nat.ble first n = decide (first ≤ n) := Bool.eq_iff_iff.mpr (by simp)
  show Bool.rec (motive := fun _ => Bool) false
      (Bool.rec false (Nat.beq ((n - first) % step) 0) (Nat.ble first n)) (Nat.ble n last) = true ↔ _
  rw [hlast, hfirst]
  by_cases hlast : n ≤ last <;> by_cases hfirst : first ≤ n <;> simp [hlast, hfirst]

theorem lowerCodeBy_eq (runs : List (Nat × Nat × Nat × Nat)) (n : Nat) :
    lowerCodeBy runs n = (runs.findSome? (lowerByRun n)).getD n := by
  induction runs with
  | nil => rfl
  | cons run rest ih =>
    obtain ⟨first, last, step, image⟩ := run
    show Bool.rec (motive := fun _ => Nat) (lowerCodeBy rest n) (image + (n - first))
      (inRun n (first, last, step, image)) = _
    rw [List.findSome?_cons, lowerByRun]
    cases hrun : inRun n (first, last, step, image) with
    | true => rw [if_pos (inRun_iff.mp hrun)]; rfl
    | false => rw [if_neg (by rw [← inRun_iff, hrun]; exact Bool.false_ne_true)]; exact ih

/-! ## Where capitals and small letters stand -/

/-- The capitals of a run, each with its small letter. -/
def runPairs : Nat × Nat × Nat × Nat → List (Nat × Nat)
  | (first, last, step, image) =>
    (List.range ((last - first) / step + 1)).map fun i => (first + i * step, image + i * step)

/-- All capitals, each with its small letter. -/
def capitals : List (Nat × Nat) := lowerRuns.flatMap runPairs

noncomputable def capitalBits : Nat := keyBits capitals

noncomputable def smallBits : Nat := bitsBy (fun pair => Nat.shiftLeft 1 pair.2) capitals

theorem testBit_of_mem_capitals {n m : Nat} (h : (n, m) ∈ capitals) :
    capitalBits.testBit n = true ∧ smallBits.testBit m = true := by
  refine ⟨testBit_keyBits.mpr (List.mem_map_of_mem h), ?_⟩
  rw [smallBits, testBit_bitsBy, List.any_eq_true]
  exact ⟨_, h, by rw [testBit_shiftLeft_one, decide_eq_true_iff]⟩

theorem mem_runPairs {n m : Nat} {run : Nat × Nat × Nat × Nat} (h : lowerByRun n run = some m) :
    (n, m) ∈ runPairs run := by
  obtain ⟨first, last, step, image⟩ := run
  rw [lowerByRun] at h
  split at h
  · rename_i hrun
    obtain ⟨hfirst, hlast, hstep⟩ := hrun
    have hdiff : (n - first) / step * step = n - first :=
      Nat.div_mul_cancel (Nat.dvd_of_mod_eq_zero hstep)
    have hindex : (n - first) / step < (last - first) / step + 1 :=
      Nat.lt_succ_of_le (Nat.div_le_div_right (by omega))
    refine List.mem_map.mpr ⟨(n - first) / step, List.mem_range.mpr hindex, ?_⟩
    rw [hdiff, Option.some.inj h]
    exact congrArg (·, m) (by omega)
  · cases h

theorem lowerCode_cases (n : Nat) : lowerCode n = n ∨ (n, lowerCode n) ∈ capitals := by
  rw [lowerCode, lowerCodeBy_eq]
  cases h : lowerRuns.findSome? (lowerByRun n) with
  | none => exact Or.inl rfl
  | some m =>
    obtain ⟨run, hrun, hm⟩ := List.exists_of_findSome?_eq_some h
    exact Or.inr (List.mem_flatMap.mpr ⟨run, hrun, mem_runPairs hm⟩)

/-- The capitals and their small letters. -/
noncomputable def letterBits : Nat := capitalBits ||| smallBits

/-- What may be joined to a character in front of it. -/
noncomputable def secondBits : Nat := bitsBy (fun row => keyBits row.2) compositionRows

def markRanges : CodePoints := combiningRuns.map fun run => (run.1, run.2.1)

def hangulRanges : CodePoints := [(0x1100, 0x11FF), (0xAC00, 0xD7A3)]

def characterRanges : CodePoints := [(0, 0xD7FF), (0xE000, 0x10FFFF)]

/-- Where the letters stand, and where they do not. -/
theorem letters_stand : letterBits &&& alphanumericRanges.bits = letterBits ∧
    letterBits &&& markRanges.bits = 0 ∧ letterBits &&& secondBits = 0 ∧
    letterBits &&& hangulRanges.bits = 0 ∧ smallBits &&& characterRanges.bits = smallBits ∧
    smallBits &&& capitalBits = 0 ∧ letterBits.testBit 0x130 = false := by
  decide +kernel

/-- A capital, or the small letter of one. -/
def IsLetter (c : Char) : Prop := letterBits.testBit c.toNat = true

theorem IsLetter.alphanumeric {c : Char} (h : IsLetter c) : isAlphanumeric c = true := by
  have hbit := testBit_of_subset letters_stand.1 h
  rwa [CodePoints.testBit_bits] at hbit

theorem combiningClass_eq_zero {c : Char} (h : markRanges.has c = false) : combiningClass c = 0 := by
  unfold combiningClass
  split
  · rename_i first last cls hfind
    have hcovers := List.find?_some hfind
    simp only [Bool.and_eq_true, decide_eq_true_iff] at hcovers
    have hhas : markRanges.has c = true := (CodePoints.has_iff _ c).mpr
      ⟨(first, last), List.mem_map_of_mem (List.mem_of_find?_eq_some hfind), hcovers⟩
    rw [h] at hhas
    cases hhas
  · rfl

theorem IsLetter.starter {c : Char} (h : IsLetter c) : combiningClass c = 0 := by
  have hbit := testBit_of_disjoint letters_stand.2.1 h
  rw [CodePoints.testBit_bits] at hbit
  exact combiningClass_eq_zero hbit

theorem IsLetter.not_hangul {c : Char} (h : IsLetter c) :
    (c.toNat < 0x1100 ∨ 0x11FF < c.toNat) ∧ (c.toNat < 0xAC00 ∨ 0xD7A3 < c.toNat) := by
  have hbit := testBit_of_disjoint letters_stand.2.2.2.1 h
  rw [CodePoints.testBit_bits_eq_any] at hbit
  simp only [hangulRanges, List.any_cons, List.any_nil, Bool.or_false, Bool.or_eq_false_iff,
    Bool.and_eq_false_iff, decide_eq_false_iff_not] at hbit
  omega

theorem testBit_hangulRanges {n : Nat}
    (h : 0x1100 ≤ n ∧ n ≤ 0x11FF ∨ 0xAC00 ≤ n ∧ n ≤ 0xD7A3) : hangulRanges.bits.testBit n = true := by
  rw [CodePoints.testBit_bits_eq_any]
  simp only [hangulRanges, List.any_cons, List.any_nil, Bool.or_false, Bool.or_eq_true,
    Bool.and_eq_true, decide_eq_true_iff]
  exact h

theorem not_capital_of_hangul {n : Nat} (h : hangulRanges.bits.testBit n = true) :
    capitalBits.testBit n = false := by
  cases hcapital : capitalBits.testBit n with
  | false => rfl
  | true =>
    have hletter : letterBits.testBit n = true := by
      rw [letterBits, Nat.testBit_or, hcapital, Bool.true_or]
    rw [testBit_of_disjoint letters_stand.2.2.2.1 hletter] at h
    cases h

theorem IsLetter.join?_left {c : Char} (h : IsLetter c) (n : Nat) :
    Hangul.join? c.toNat n = none := by
  cases hjoin : Hangul.join? c.toNat n with
  | none => rfl
  | some m =>
    have hc := h.not_hangul
    rcases join?_cases hjoin with h | h <;> omega

theorem IsLetter.not_dotted {c : Char} (h : IsLetter c) : c.toNat ≠ 0x130 := by
  intro hc
  rw [IsLetter, hc, letters_stand.2.2.2.2.2.2] at h
  cases h

theorem joined_to_nothing {c : Char} (hsecond : secondBits.testBit c.toNat = false)
    (hjamo : c.toNat < 0x1100 ∨ 0x11FF < c.toNat) (d : Char) : composePair d c = none := by
  cases hpair : composePair d c with
  | none => rfl
  | some j =>
    rcases composePair_cases hpair with ⟨n, hjoin, -⟩ | ⟨row, hrow, -, pair, hpair, heq, -⟩
    · rcases join?_cases hjoin with h | h <;> omega
    · have hcode : secondBits.testBit c.toNat = true := by
        rw [secondBits, testBit_bitsBy, List.any_eq_true]
        exact ⟨row, hrow, testBit_keyBits.mpr (heq ▸ List.mem_map_of_mem hpair)⟩
      rw [hsecond] at hcode
      cases hcode

theorem IsLetter.joined_to_nothing {c : Char} (h : IsLetter c) (d : Char) :
    composePair d c = none :=
  Text.joined_to_nothing (testBit_of_disjoint letters_stand.2.2.1 h) h.not_hangul.1 d

/-! ## Putting a character in lower case -/

theorem lowerCode_eq_self {n : Nat} (h : capitalBits.testBit n = false) : lowerCode n = n := by
  rcases lowerCode_cases n with hn | hn
  · exact hn
  · rw [(testBit_of_mem_capitals hn).1] at h
    cases h

theorem lowerCode_dotted : lowerCode 0x130 = 0x130 := lowerCode_eq_self (by decide +kernel)

theorem lowerChar_eq (c : Char) : lowerChar c = Char.ofNat (lowerCode c.toNat) := by
  by_cases hdotted : c.toNat = 0x130
  · rw [lowerChar_dotted hdotted, hdotted, lowerCode_dotted, ← hdotted, Char.ofNat_toNat]
  · rw [lowerCode, lowerCodeBy_eq]
    unfold lowerChar lowerChars
    rw [if_neg hdotted]
    cases lowerRuns.findSome? (lowerByRun c.toNat) with
    | none => exact (Char.ofNat_toNat c).symm
    | some n => rfl

/-- A code point is its own lower case, or a capital, and then its lower case is a small letter. -/
theorem lowerCode_eq_self_or (n : Nat) : lowerCode n = n ∨
    capitalBits.testBit n = true ∧ smallBits.testBit (lowerCode n) = true :=
  (lowerCode_cases n).imp_right testBit_of_mem_capitals

theorem isValidChar_lowerCode {n : Nat} (h : n.isValidChar) : (lowerCode n).isValidChar := by
  rcases lowerCode_eq_self_or n with hself | ⟨-, hsmall⟩
  · rwa [hself]
  · have hbit := testBit_of_subset letters_stand.2.2.2.2.1 hsmall
    rw [CodePoints.testBit_bits_eq_any] at hbit
    simp only [characterRanges, List.any_cons, List.any_nil, Bool.or_false, Bool.or_eq_true,
      Bool.and_eq_true, decide_eq_true_iff] at hbit
    unfold Nat.isValidChar
    omega

theorem toNat_lowerChar (c : Char) : (lowerChar c).toNat = lowerCode c.toNat := by
  have hvalid : (lowerCode c.toNat).isValidChar := isValidChar_lowerCode c.valid
  rw [lowerChar_eq, toNat_ofNat hvalid]

theorem lowerChar_eq_self {c : Char} (h : lowerCode c.toNat = c.toNat) : lowerChar c = c := by
  rw [lowerChar_eq, h, Char.ofNat_toNat]

theorem isLetter_of_ne {c : Char} (h : lowerChar c ≠ c) : IsLetter c ∧ IsLetter (lowerChar c) := by
  rcases lowerCode_eq_self_or c.toNat with hself | ⟨hcapital, hsmall⟩
  · exact absurd (lowerChar_eq_self hself) h
  · rw [← toNat_lowerChar] at hsmall
    simp only [IsLetter, letterBits, Nat.testBit_or, hcapital, hsmall, Bool.true_or, Bool.or_true,
      and_self]

@[simp]
theorem lowerChar_lowerChar (c : Char) : lowerChar (lowerChar c) = lowerChar c := by
  refine lowerChar_eq_self ?_
  rw [toNat_lowerChar]
  rcases lowerCode_eq_self_or c.toNat with hself | ⟨-, hsmall⟩
  · rw [hself, hself]
  · exact lowerCode_eq_self (testBit_of_disjoint letters_stand.2.2.2.2.2.1 hsmall)

@[simp]
theorem combiningClass_lowerChar (c : Char) : combiningClass (lowerChar c) = combiningClass c := by
  by_cases h : lowerChar c = c
  · rw [h]
  · obtain ⟨hc, hl⟩ := isLetter_of_ne h
    rw [hc.starter, hl.starter]

@[simp]
theorem isAlphanumeric_lowerChar (c : Char) : isAlphanumeric (lowerChar c) = isAlphanumeric c := by
  by_cases h : lowerChar c = c
  · rw [h]
  · obtain ⟨hc, hl⟩ := isLetter_of_ne h
    rw [hc.alphanumeric, hl.alphanumeric]

/-- Nothing is joined to a letter in front of it, in either case. -/
@[simp]
theorem composePair_lowerChar_right (c d : Char) : composePair c (lowerChar d) = composePair c d := by
  by_cases h : lowerChar d = d
  · rw [h]
  · obtain ⟨hd, hl⟩ := isLetter_of_ne h
    rw [hd.joined_to_nothing, hl.joined_to_nothing]

theorem lowerChar_mark {c : Char} (h : combiningClass c ≠ 0) : lowerChar c = c :=
  Decidable.byContradiction fun hne => h (isLetter_of_ne hne).1.starter

theorem lowerChar_second {c d j : Char} (h : composePair c d = some j) : lowerChar d = d :=
  Decidable.byContradiction fun hne => by
    rw [(isLetter_of_ne hne).1.joined_to_nothing] at h
    cases h

/-- A character that lower case leaves as it is. -/
def IsSmall (c : Char) : Prop := lowerChars c = [c]

instance (c : Char) : Decidable (IsSmall c) := inferInstanceAs (Decidable (_ = _))

theorem isSmall_iff {c : Char} : IsSmall c ↔ lowerChar c = c ∧ c.toNat ≠ 0x130 := by
  unfold IsSmall
  by_cases hdotted : c.toNat = 0x130
  · obtain rfl := eq_ofNat hdotted
    decide
  · rw [lowerChars_eq hdotted, List.cons.injEq, eq_self, and_true]
    exact (and_iff_left hdotted).symm

theorem isSmall_lowerChar {c : Char} (h : c.toNat ≠ 0x130) : IsSmall (lowerChar c) := by
  refine isSmall_iff.mpr ⟨lowerChar_lowerChar c, ?_⟩
  by_cases hself : lowerChar c = c
  · rwa [hself]
  · exact (isLetter_of_ne hself).2.not_dotted

theorem isSmall_mark {c : Char} (h : combiningClass c ≠ 0) : IsSmall c := by
  refine isSmall_iff.mpr ⟨lowerChar_mark h, fun hdotted => h ?_⟩
  rw [eq_ofNat hdotted]
  decide +kernel

/-! ## Putting a word in lower case -/

theorem ne_of_code_not_mem {cs : List Char} {n : Nat} (h : n ∉ cs.map Char.toNat) :
    ∀ c ∈ cs, c.toNat ≠ n := by
  rintro c hc rfl
  exact h (List.mem_map_of_mem hc)

section Words

variable {w : List Char}

theorem flatMap_lowerChars_small (h : ∀ c ∈ w, IsSmall c) : w.flatMap lowerChars = w := by
  rw [List.flatMap_congr h, List.flatMap_singleton']

theorem map_lowerChar_small (h : ∀ c ∈ w, IsSmall c) : w.map lowerChar = w :=
  (List.map_congr_left fun c hc => (isSmall_iff.mp (h c hc)).1).trans (List.map_id w)

theorem flatMap_lowerChars_of_not_dotted (h : ∀ c ∈ w, c.toNat ≠ 0x130) :
    w.flatMap lowerChars = w.map lowerChar := by
  rw [List.flatMap_congr fun c hc => lowerChars_eq (h c hc), List.map_eq_flatMap]

end Words

end Gazetteer.Text
