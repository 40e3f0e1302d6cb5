import Gazetteer.Proofs.Linking.AliasKeys
import Mathlib.Data.Nat.Digits.Defs

/-!
# Which texts are alias keys

Reading accepts more than writing produces: a place may have a plus sign before it and zeros in
front. This file says what a numeral is without saying how it is read (`Whole.Numeral`, after the
positional value of its digits), and what a key is (`AliasKey.Spells`): an identifier, the last
point of the text, and a numeral. Reading finds exactly that (`ofText_eq_ok_iff`); the cut falls at
the last point because a numeral has none.

With what is known of written keys this settles all texts and all keys (`AliasKey.textContract`).
-/

set_option autoImplicit false

namespace Gazetteer

/-! ## Numerals -/

namespace Whole

/-- The worth of a decimal digit. -/
def worth (c : Char) : Nat := c.toNat - '0'.toNat

/-- The number that decimal digits stand for, the last one being that of the units. -/
def value (digits : List Char) : Nat := Nat.ofDigits 10 (digits.map worth).reverse

/-- A number as it may be written: decimal digits, any zeros in front, and a plus sign or none. -/
inductive Numeral : List Char → Nat → Prop
  | plain {digits : List Char} (nonempty : digits ≠ [])
      (decimal : ∀ c ∈ digits, c.isDigit = true) : Numeral digits (value digits)
  | plus {digits : List Char} (nonempty : digits ≠ [])
      (decimal : ∀ c ∈ digits, c.isDigit = true) : Numeral ('+' :: digits) (value digits)

theorem value_cons (c : Char) (digits : List Char) :
    value (c :: digits) = 10 ^ digits.length * worth c + value digits := by
  simp [value, Nat.ofDigits_append, Nat.add_comm]

theorem isDigit_iff {c : Char} : c.isDigit = true ↔ '0' ≤ c ∧ c ≤ '9' := by
  simp only [Char.isDigit, Bool.and_eq_true, decide_eq_true_eq]
  rfl

/-- Letters have a worth too, but one that is too great for base ten. -/
theorem digit?_ten (c : Char) : digit? 10 c = if c.isDigit then some (worth c) else none := by
  unfold digit?
  by_cases hdigit : '0' ≤ c ∧ c ≤ '9'
  · have hworth : worth c < 10 := by
      have hle : c.toNat ≤ '9'.toNat := hdigit.2
      have hnine : '9'.toNat - '0'.toNat < 10 := by decide
      unfold worth
      omega
    rw [if_pos hdigit, if_pos (isDigit_iff.mpr hdigit)]
    exact Option.filter_eq_some_iff.mpr ⟨rfl, decide_eq_true hworth⟩
  · rw [if_neg hdigit, if_neg (mt isDigit_iff.mp hdigit)]
    split <;> try split
    all_goals simp [Option.filter]

/-- Reading goes by the value of the digits, and stops at anything else. -/
theorem readFrom_eq_some_iff : ∀ {digits : List Char} {sofar n : Nat},
    readFrom 10 sofar digits = some n ↔
      (∀ c ∈ digits, c.isDigit = true) ∧ 10 ^ digits.length * sofar + value digits = n := by
  intro digits
  induction digits with
  | nil => intro sofar n; simp [readFrom, value]
  | cons c rest ih =>
    intro sofar n
    rw [readFrom, digit?_ten]
    by_cases hc : c.isDigit = true
    · have hvalue : 10 ^ rest.length * (sofar * 10 + worth c) + value rest =
          10 ^ (c :: rest).length * sofar + value (c :: rest) := by
        rw [value_cons, List.length_cons, pow_succ, Nat.mul_add, Nat.add_assoc, Nat.mul_assoc,
          Nat.mul_comm 10 sofar]
      rw [if_pos hc]
      simp only [ih, hvalue, List.forall_mem_cons, hc, true_and]
    · simp [hc]

theorem wordOfDigits?_eq_some_iff {digits : List Char} {n : Nat} :
    wordOfDigits? 10 digits = some n ↔ digits ≠ [] ∧ (∀ c ∈ digits, c.isDigit = true) ∧
      value digits = n ∧ n < wordBound := by
  rw [wordOfDigits?, Option.filter_eq_some_iff, decide_eq_true_eq]
  cases digits with
  | nil => simp [ofDigits?]
  | cons c rest =>
    rw [ofDigits?, readFrom_eq_some_iff, Nat.mul_zero, Nat.zero_add]
    · simp [and_assoc]
    · exact List.cons_ne_nil c rest

/-- The words of 64 bits that can be read are the numerals of numbers that fit. -/
theorem ofChars?_eq_some_iff {cs : List Char} {n : Nat} :
    ofChars? cs = some n ↔ Numeral cs n ∧ n < wordBound := by
  unfold ofChars?
  split
  · rename_i digits
    rw [wordOfDigits?_eq_some_iff]
    constructor
    · rintro ⟨hne, hdecimal, rfl, hfits⟩
      exact ⟨.plus hne hdecimal, hfits⟩
    · rintro ⟨hnumeral, hfits⟩
      cases hnumeral with
      | plain _ hdecimal => exact absurd (hdecimal '+' List.mem_cons_self) (by decide)
      | plus hne hdecimal => exact ⟨hne, hdecimal, rfl, hfits⟩
  · rename_i hsign
    rw [wordOfDigits?_eq_some_iff]
    constructor
    · rintro ⟨hne, hdecimal, rfl, hfits⟩
      exact ⟨.plain hne hdecimal, hfits⟩
    · rintro ⟨hnumeral, hfits⟩
      cases hnumeral with
      | plain hne hdecimal => exact ⟨hne, hdecimal, rfl, hfits⟩
      | plus => exact absurd rfl (hsign _)

end Whole

namespace AliasKey

/-! ## Keys -/

theorem not_mem_of_cutAtLast_eq_none {c : Char} {cs : List Char} (h : cutAtLast c cs = none) :
    c ∉ cs := by
  induction cs with
  | nil => exact List.not_mem_nil
  | cons d rest ih =>
    rw [cutAtLast] at h
    cases hrest : cutAtLast c rest with
    | some parts => simp [hrest] at h
    | none =>
      have hne : d ≠ c := by simpa [hrest] using h
      intro hmem
      exact (List.mem_cons.mp hmem).elim (Ne.symm hne) (ih hrest)

/-- The cut is at the last occurrence of the character. -/
theorem cutAtLast_eq_some_iff {c : Char} {cs before after : List Char} :
    cutAtLast c cs = some (before, after) ↔ cs = before ++ c :: after ∧ c ∉ after := by
  constructor
  · induction cs generalizing before with
    | nil => nofun
    | cons d rest ih =>
      intro hcut
      rw [cutAtLast] at hcut
      cases hrest : cutAtLast c rest with
      | some parts =>
        obtain ⟨before', after'⟩ := parts
        simp only [hrest, Option.some.injEq, Prod.mk.injEq] at hcut
        obtain ⟨rfl, rfl⟩ := hcut
        obtain ⟨rfl, hnot⟩ := ih hrest
        exact ⟨rfl, hnot⟩
      | none =>
        simp only [hrest, Option.ite_none_right_eq_some, Option.some.injEq, Prod.mk.injEq] at hcut
        obtain ⟨rfl, rfl, rfl⟩ := hcut
        exact ⟨rfl, not_mem_of_cutAtLast_eq_none hrest⟩
  · rintro ⟨rfl, hnot⟩
    exact cutAtLast_append_cons hnot before

/-- A text that stands for an alias: before its last point the identifier, behind it the place. -/
structure Spells (text : String) (k : AliasKey) : Prop where
  parts : ∃ numeral, text.toList = k.entityId.toList ++ '.' :: numeral ∧ '.' ∉ numeral ∧
    Whole.Numeral numeral k.ordinal
  named : k.entityId ≠ ""
  fits : k.ordinal < Whole.wordBound

/-- **A text is read as an alias exactly if it stands for it.** -/
theorem ofText_eq_ok_iff {text : String} {k : AliasKey} :
    ofText text = .ok k ↔ Spells text k := by
  have hread : ofText text = .ok k ↔ ofChars? text.toList = some k := by
    unfold ofText
    cases ofChars? text.toList <;> simp
  rw [hread]
  constructor
  · intro hsome
    obtain ⟨⟨id, numeral⟩, hcut, hsome⟩ := Option.bind_eq_some_iff.mp hsome
    obtain ⟨htext, hnot⟩ := cutAtLast_eq_some_iff.mp hcut
    by_cases hid : id = []
    · simp [hid] at hsome
    · simp only [List.isEmpty_iff, hid, if_false] at hsome
      obtain ⟨ordinal, hordinal, hk⟩ := Option.bind_eq_some_iff.mp hsome
      obtain ⟨hnumeral, hfits⟩ := Whole.ofChars?_eq_some_iff.mp hordinal
      cases hk
      refine ⟨⟨numeral, ?_, hnot, hnumeral⟩, ?_, hfits⟩
      · rw [htext, String.toList_ofList]
      · intro hempty
        exact hid (by simpa using congrArg String.toList hempty)
  · rintro ⟨⟨numeral, htext, hnot, hnumeral⟩, hnamed, hfits⟩
    have hcut := cutAtLast_eq_some_iff.mpr ⟨htext, hnot⟩
    have hordinal := Whole.ofChars?_eq_some_iff.mpr ⟨hnumeral, hfits⟩
    simp [ofChars?, hcut, hordinal, hnamed]

/--
**The texts of alias keys.** Different aliases have different texts, whatever their identifiers;
a text is read back as the alias it was made for, if that has a name and its place fits a word;
and a text is read as an alias if it stands for it, while one that stands for none is refused.
-/
theorem textContract :
    Function.Injective toText ∧
      (∀ k : AliasKey, k.entityId ≠ "" → k.ordinal < Whole.wordBound → ofText k.toText = .ok k) ∧
        (∀ (text : String) (k : AliasKey), ofText text = .ok k ↔ Spells text k) ∧
          ∀ text : String, (∀ k, ¬ Spells text k) → ofText text = .error (.aliasKey text) := by
  refine ⟨toText_injective, fun k => ofText_toText, fun text k => ofText_eq_ok_iff, ?_⟩
  intro text hnone
  cases hread : ofText text with
  | ok k => exact absurd (ofText_eq_ok_iff.mp hread) (hnone k)
  | error e =>
    unfold ofText at hread
    split at hread
    · cases hread
    · rw [← hread]

/-- An identifier that looks like a key, the greatest place, and a numeral longer than need be. -/
theorem textContract_dotted :
    let k : AliasKey := ⟨"org..7.+5", Whole.wordBound - 1⟩
    k.entityId ≠ "" ∧ k.ordinal < Whole.wordBound ∧ ofText k.toText = .ok k ∧
      ofText "org..7.+007" = .ok ⟨"org..7", 7⟩ ∧ Spells "org..7.+007" ⟨"org..7", 7⟩ ∧
        (∀ key, ¬ Spells "org.7." key) ∧ ofText "org.7." = .error (.aliasKey "org.7.") := by
  intro k
  have hnamed : k.entityId ≠ "" := by decide
  have hfits : k.ordinal < Whole.wordBound := by decide
  have hread : ofText "org..7.+007" = .ok ⟨"org..7", 7⟩ := by decide +kernel
  have hnone : ∀ key, ¬ Spells "org.7." key := by
    intro key hspells
    have hok := (textContract.2.2.1 "org.7." key).mpr hspells
    have hrefused : ofText "org.7." = .error (.aliasKey "org.7.") := by decide +kernel
    rw [hrefused] at hok
    cases hok
  exact ⟨hnamed, hfits, textContract.2.1 k hnamed hfits, hread,
    (textContract.2.2.1 _ _).mp hread, hnone, textContract.2.2.2 _ hnone⟩

end AliasKey

end Gazetteer
