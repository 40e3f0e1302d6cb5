import Gazetteer.Proofs.Text.ComposedTexts
import Gazetteer.Proofs.Text.LetterTables
import Mathlib.Data.List.Forall2

/-!
# Texts in different case

A text and its lower case are taken apart into letters and marks that correspond one by one: each is
the one of the text or its lower case (`Variant`), apart from the sigmas (`Alike`). Combining classes
are the same, so both are put in order alike. What is left to compare is how they are composed, and
there they go on hand in hand as long as no uneven pair is looked up: **the lower case of a text that
composes evenly has the form of the text, up to case** (`ComposesEvenly.variants`).
-/

set_option autoImplicit false

namespace Gazetteer.Text

open List (Forall₂)

/-! ## Variants of characters -/

/-- `d` is `c`, or its lower case. -/
def Variant (c d : Char) : Prop := d = c ∨ d = lowerChar c

section Variant

variable {c d : Char}

theorem Variant.refl (c : Char) : Variant c c := Or.inl rfl

theorem variant_lowerChar (c : Char) : Variant c (lowerChar c) := Or.inr rfl

theorem Variant.lowerChar_eq (h : Variant c d) : lowerChar d = lowerChar c := by
  rcases h with rfl | rfl <;> simp

theorem Variant.combiningClass_eq (h : Variant c d) : combiningClass d = combiningClass c := by
  rcases h with rfl | rfl <;> simp

theorem Variant.foldChar_eq (h : Variant c d) : foldChar d = foldChar c := by
  rcases h with rfl | rfl
  · rfl
  · by_cases hself : lowerChar c = c
    · rw [hself]
    · obtain ⟨hc, hl⟩ := isLetter_of_ne hself
      simp [foldChar, lowerChars_eq hc.not_dotted, lowerChars_eq hl.not_dotted]

theorem forall₂_variant_refl (cs : List Char) : Forall₂ Variant cs cs :=
  List.forall₂_same.mpr fun c _ => Variant.refl c

theorem map_lowerChar_variants {cs ds : List Char} (h : Forall₂ Variant cs ds) :
    ds.map lowerChar = cs.map lowerChar := by
  induction h with
  | nil => rfl
  | cons hc _ ih => rw [List.map_cons, List.map_cons, ih, hc.lowerChar_eq]

theorem flatMap_foldChar_variants {cs ds : List Char} (h : Forall₂ Variant cs ds) :
    ds.flatMap foldChar = cs.flatMap foldChar := by
  induction h with
  | nil => rfl
  | cons hc _ ih => rw [List.flatMap_cons, List.flatMap_cons, ih, hc.foldChar_eq]

/-! ## Taking apart and putting in order -/

/-- A character and its lower case are taken apart alike. -/
theorem variants_decompose (h : c.toNat ≠ 0x3F9) :
    Forall₂ Variant (decompose c) ((lowerChars c).flatMap decompose) := by
  by_cases hdotted : c.toNat = 0x130
  · have hparts : decompose (Char.ofNat 0x130) = ['I', Char.ofNat 0x307] := by decide +kernel
    have hlower : (lowerChars (Char.ofNat 0x130)).flatMap decompose = ['i', Char.ofNat 0x307] := by
      decide +kernel
    have hi : lowerChar 'I' = 'i' := by decide +kernel
    rw [eq_ofNat hdotted, hparts, hlower, ← hi]
    exact .cons (variant_lowerChar _) (.cons (Variant.refl _) .nil)
  · rw [lowerChars_eq hdotted, List.flatMap_singleton]
    by_cases hself : lowerChar c = c
    · rw [hself]
      exact forall₂_variant_refl _
    · rw [decompose_lowerChar hself h, List.forall₂_map_right_iff]
      exact List.forall₂_same.mpr fun d _ => variant_lowerChar d

theorem variants_flatMap {cs : List Char} (h : ∀ c ∈ cs, c.toNat ≠ 0x3F9) :
    Forall₂ Variant (cs.flatMap decompose) ((cs.flatMap lowerChars).flatMap decompose) := by
  induction cs with
  | nil => exact .nil
  | cons c cs ih =>
    obtain ⟨hc, hcs⟩ := List.forall_mem_cons.mp h
    rw [List.flatMap_cons, List.flatMap_cons, List.flatMap_append]
    exact List.rel_append (variants_decompose hc) (ih hcs)

end Variant

/-! ## Aligned texts -/

section Aligned

variable {R : Char → Char → Prop} {c d : Char} {cs ds : List Char}

theorem reaches_congr (hR : ∀ {c d}, R c d → combiningClass d = combiningClass c)
    (hheld : Forall₂ R cs ds) (h : R c d) : Reaches ds d ↔ Reaches cs c := by
  unfold Reaches
  cases hheld with
  | nil => simp
  | cons he _ => simp [hR he, hR h]

theorem alike_insertMark (hR : ∀ {c d}, R c d → combiningClass d = combiningClass c) (h : R c d)
    (hrest : Forall₂ R cs ds) : Forall₂ R (insertMark c cs) (insertMark d ds) := by
  induction hrest with
  | nil => exact .cons h .nil
  | cons he hrest ih =>
    simp only [insertMark, hR he, hR h]
    split
    · exact .cons he ih
    · exact .cons h (.cons he hrest)

/-- Texts that correspond character by character, classes included, do so in canonical order. -/
theorem alike_canonicalOrder (hR : ∀ {c d}, R c d → combiningClass d = combiningClass c)
    (h : Forall₂ R cs ds) : Forall₂ R (canonicalOrder cs) (canonicalOrder ds) := by
  induction h with
  | nil => exact .nil
  | cons hc _ ih => exact alike_insertMark hR hc ih

end Aligned

/--
The second character is the first or its lower case, or the final form of the letter for a capital
sigma, which lower case in context may put for it.
-/
inductive Alike : Char → Char → Prop
  | variant {c d : Char} (h : Variant c d) : Alike c d
  | final : Alike (Char.ofNat 0x3A3) (Char.ofNat 0x3C2)

section Alike

variable {c d : Char}

/-- The capital sigma and its final form are starters, and nothing in front is joined to them. -/
theorem sigmas_stand : combiningClass (Char.ofNat 0x3A3) = 0 ∧ combiningClass (Char.ofNat 0x3C2) = 0 ∧
    secondBits.testBit (Char.ofNat 0x3A3).toNat = false ∧
      secondBits.testBit (Char.ofNat 0x3C2).toNat = false := by
  decide +kernel

theorem Alike.combiningClass_eq (h : Alike c d) : combiningClass d = combiningClass c := by
  cases h with
  | variant h => exact h.combiningClass_eq
  | final => rw [sigmas_stand.1, sigmas_stand.2.1]

/-- A character in front of them does not tell apart what is alike. -/
theorem Alike.composePair_eq (h : Alike c d) (a : Char) : composePair a d = composePair a c := by
  cases h with
  | variant h =>
    rcases h with rfl | rfl
    · rfl
    · exact composePair_lowerChar_right a c
  | final =>
    rw [joined_to_nothing sigmas_stand.2.2.1 (by decide) a,
      joined_to_nothing sigmas_stand.2.2.2 (by decide) a]

theorem Alike.reaches_iff (h : Alike c d) (held : List Char) : Reaches held d ↔ Reaches held c :=
  reaches_congr Alike.combiningClass_eq
    (List.forall₂_same.mpr fun e _ => .variant (Variant.refl e)) h

/-- Marks are alike only if they are the same. -/
theorem Alike.eq_of_mark (h : Alike c d) (hmark : combiningClass c ≠ 0) : d = c := by
  cases h with
  | variant h =>
    rcases h with rfl | rfl
    · rfl
    · exact lowerChar_mark hmark
  | final => exact absurd sigmas_stand.1 hmark

theorem alike_decompose (c : Char) :
    Forall₂ Alike (decompose c) ((lowerChars c).flatMap decompose) := by
  by_cases hlunate : c.toNat = 0x3F9
  · have hparts : decompose (Char.ofNat 0x3F9) = [Char.ofNat 0x3A3] := by decide +kernel
    have hlower : (lowerChars (Char.ofNat 0x3F9)).flatMap decompose = [Char.ofNat 0x3C2] := by
      decide +kernel
    rw [eq_ofNat hlunate, hparts, hlower]
    exact .cons .final .nil
  · exact (variants_decompose hlunate).imp fun _ _ => Alike.variant

/-- A text and its lower case are taken apart into what corresponds character by character. -/
theorem alike_lowerFrom : ∀ cs before : List Char,
    Forall₂ Alike (cs.flatMap decompose) ((lowerFrom before cs).flatMap decompose) := by
  intro cs
  induction cs with
  | nil => exact fun _ => .nil
  | cons c cs ih =>
    intro before
    rw [lowerFrom, List.flatMap_append, List.flatMap_cons]
    refine List.rel_append ?_ (ih (c :: before))
    split
    · rename_i hsigma
      have hc : c = Char.ofNat 0x3A3 := eq_ofNat hsigma
      have hparts : decompose (Char.ofNat 0x3A3) = [Char.ofNat 0x3A3] := by decide +kernel
      split
      · have hfinal : [Char.ofNat 0x3C2].flatMap decompose = [Char.ofNat 0x3C2] := by decide +kernel
        rw [hc, hparts, hfinal]
        exact .cons .final .nil
      · have hlower : [Char.ofNat 0x3C3] = lowerChars (Char.ofNat 0x3A3) := by decide +kernel
        rw [hc, hlower]
        exact alike_decompose _
    · exact alike_decompose c

end Alike

section Variant

variable {c d : Char}

/-! ## Composing -/

theorem composePair_variant {s s' m m' : Char} (hsign : s.toNat ∉ letterSigns) (heven : Even s m)
    (hs : Variant s s') (hm : Variant m m') :
    composePair s' m' = composePair s m ∨ composePair s' m' = (composePair s m).map lowerChar := by
  have hsecond : composePair s' m' = composePair s' m := by
    rcases hm with rfl | rfl
    · rfl
    · exact composePair_lowerChar_right s' m
  rw [hsecond]
  rcases hs with rfl | rfl
  · exact Or.inl rfl
  · exact Or.inr (composePair_lowerChar hsign heven)

/-- Composing variants of a text gives variants, as long as no uneven pair is looked up. -/
theorem ComposesAfter.variants {starter : Char} {held rest out : List Char}
    (h : ComposesAfter Even starter held rest out) :
    (∀ c ∈ rest, decompose c = [c]) → starter.toNat ∉ letterSigns →
      ∀ {starter' : Char} {held' rest' : List Char}, Variant starter starter' →
        Forall₂ Variant held held' → Forall₂ Variant rest rest' →
          ∃ out', ComposesAfter (fun _ _ => True) starter' held' rest' out' ∧
            Forall₂ Variant out out' := by
  induction h with
  | done =>
    intro _ _ starter' held' rest' hs hheld hrest
    cases hrest
    exact ⟨_, .done, .cons hs (List.rel_reverse hheld)⟩
  | @join starter joined c held rest out hreaches heven hpair _ ih =>
    intro hwhole hsign starter' held' rest' hs hheld hrest
    obtain ⟨d, ds, hc, hds, rfl⟩ := List.forall₂_cons_left_iff.mp hrest
    obtain ⟨joined', hpair', hjoined⟩ : ∃ joined', composePair starter' d = some joined' ∧
        Variant joined joined' := by
      rcases composePair_variant hsign heven hs hc with h | h <;> rw [h, hpair]
      · exact ⟨joined, rfl, Variant.refl joined⟩
      · exact ⟨lowerChar joined, rfl, variant_lowerChar joined⟩
    obtain ⟨out', hrun, hout⟩ := ih (List.forall_mem_cons.mp hwhole).2
      (not_sign_of_composePair hpair) hjoined hheld hds
    have hreaches' := (reaches_congr Variant.combiningClass_eq hheld hc).mpr hreaches
    exact ⟨out', .join hreaches' trivial hpair' hrun, hout⟩
  | @next starter c held rest out hapart hbegins _ ih =>
    intro hwhole hsign starter' held' rest' hs hheld hrest
    obtain ⟨d, ds, hc, hds, rfl⟩ := List.forall₂_cons_left_iff.mp hrest
    obtain ⟨hcWhole, hwhole⟩ := List.forall_mem_cons.mp hwhole
    obtain ⟨out', hrun, hout⟩ := ih hwhole (not_sign_of_decompose hcWhole) hc .nil hds
    refine ⟨_, .next (fun hreaches => ⟨trivial, ?_⟩) (hc.combiningClass_eq.trans hbegins) hrun,
      List.rel_append (.cons hs (List.rel_reverse hheld)) hout⟩
    obtain ⟨heven, hnone⟩ := hapart ((reaches_congr Variant.combiningClass_eq hheld hc).mp hreaches)
    rcases composePair_variant hsign heven hs hc with h | h <;> rw [h, hnone]
    rfl
  | @wait starter c held rest out hapart hmark _ ih =>
    intro hwhole hsign starter' held' rest' hs hheld hrest
    obtain ⟨d, ds, hc, hds, rfl⟩ := List.forall₂_cons_left_iff.mp hrest
    obtain ⟨out', hrun, hout⟩ := ih (List.forall_mem_cons.mp hwhole).2 hsign hs (.cons hc hheld)
      hds
    refine ⟨out', .wait (fun hreaches => ⟨trivial, ?_⟩) (hc.combiningClass_eq ▸ hmark) hrun, hout⟩
    obtain ⟨heven, hnone⟩ := hapart ((reaches_congr Variant.combiningClass_eq hheld hc).mp hreaches)
    rcases composePair_variant hsign heven hs hc with h | h <;> rw [h, hnone]
    rfl

theorem Composes.variants {cs out : List Char} (h : Composes Even cs out) :
    (∀ c ∈ cs, decompose c = [c]) → ∀ {ds : List Char}, Forall₂ Variant cs ds →
      ∃ out', Composes (fun _ _ => True) ds out' ∧ Forall₂ Variant out out' := by
  induction h with
  | nil =>
    intro _ ds hds
    cases hds
    exact ⟨[], .nil, .nil⟩
  | mark hmark _ ih =>
    intro hwhole ds hds
    obtain ⟨d, ds, hc, hrest, rfl⟩ := List.forall₂_cons_left_iff.mp hds
    obtain ⟨out', hrun, hout⟩ := ih (List.forall_mem_cons.mp hwhole).2 hrest
    exact ⟨d :: out', .mark (hc.combiningClass_eq ▸ hmark) hrun, .cons hc hout⟩
  | starter hbegins hblock =>
    intro hwhole ds hds
    obtain ⟨d, ds, hc, hrest, rfl⟩ := List.forall₂_cons_left_iff.mp hds
    obtain ⟨hcWhole, hwhole⟩ := List.forall_mem_cons.mp hwhole
    obtain ⟨out', hrun, hout⟩ :=
      hblock.variants hwhole (not_sign_of_decompose hcWhole) hc .nil hrest
    exact ⟨out', .starter (hc.combiningClass_eq.trans hbegins) hrun, hout⟩

end Variant

/-! ## Even texts -/

/-- No pair that is looked up in composing the form of the text is uneven. -/
def ComposesEvenly (cs : List Char) : Prop :=
  ∀ pair ∈ pairsMet (canonicalOrder (cs.flatMap decompose)), Even pair.1 pair.2

instance (cs : List Char) : Decidable (ComposesEvenly cs) :=
  List.decidableBAll (fun pair : Char × Char => Even pair.1 pair.2) (pairsMet _)

/-- **In lower case a text that composes evenly has the form of the text, up to case.** -/
theorem ComposesEvenly.variants {cs : List Char} (h : ComposesEvenly cs)
    (hlunate : ∀ c ∈ cs, c.toNat ≠ 0x3F9) :
    Forall₂ Variant (compatibilityForm cs) (compatibilityForm (cs.flatMap lowerChars)) := by
  have haligned := alike_canonicalOrder Variant.combiningClass_eq (variants_flatMap hlunate)
  obtain ⟨out, hrun, hout⟩ :=
    (composes_of_pairsMet h).variants (decomposed_canonicalOrder cs).whole haligned
  have hform : compatibilityForm (cs.flatMap lowerChars) = out := hrun.eq
  rwa [hform]

end Gazetteer.Text
