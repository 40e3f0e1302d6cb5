import Gazetteer.Proofs.Text.LoweredTexts

/-!
# The capital I with a dot

One character has two for its lower case, the capital I with a dot, and in composed texts it comes of
nothing but a capital I and a dot above. Lower case makes a small letter of a capital I, and has no
capital I where the text has none: what is left of them are letters of other shapes, which have no
lower case but are taken apart into a capital I. Such a letter is in the text as well, and as nothing
that lower case does to the marks behind it changes what is joined to it, **the form of a text in
lower case has a capital I with a dot only if the form of the text has one**
(`not_dotted_of_lowerFrom`).
-/

set_option autoImplicit false

namespace Gazetteer.Text

open List (Forall₂)

/-- The capital I with a dot. -/
def dotted : Char := Char.ofNat 0x130

/-! ## What it is composed of -/

theorem rows_of_dotted : ∀ row ∈ compositionRows, ∀ pair ∈ row.2,
    pair.2 ≠ 0x49 ∧ (pair.2 = 0x130 → row.1 = 0x49) := by
  decide +kernel

section Dotted

variable {a c d m j : Char}

/-- A capital I is composed of nothing, and a capital I with a dot of a capital I. -/
theorem capitalI_of_composePair (h : composePair a m = some j) :
    j ≠ 'I' ∧ (j = dotted → a = 'I') := by
  rcases composePair_cases h with ⟨n, hjoin, rfl⟩ | ⟨row, hrow, hfirst, pair, hpair, -, rfl⟩
  · have hsyllable := isSyllable_of_join? hjoin
    have hcode := toNat_syllable hsyllable
    have hbounds := isSyllable_iff.mp hsyllable
    have hother {e : Char} (he : e.toNat < 0xAC00) : Char.ofNat n ≠ e := by
      rintro rfl
      omega
    exact ⟨hother (by decide), fun h => absurd h (hother (by decide))⟩
  · have hcode := toNat_ofNat ((row_of_composition row hrow).2 pair hpair).2.1
    obtain ⟨hplain, hdotted⟩ := rows_of_dotted row hrow pair hpair
    refine ⟨fun h => hplain ?_, fun h => ?_⟩
    · rw [← hcode, h]
      rfl
    · have hrowI : row.1 = 0x49 := hdotted (by rw [← hcode, h]; rfl)
      exact eq_ofNat (hfirst.symm.trans hrowI)

/-- What lower case leaves a capital I was one before. -/
theorem Alike.eq_capitalI (h : Alike c 'I') : c = 'I' := by
  generalize hd : 'I' = d at h
  cases h with
  | variant h =>
    rcases h with rfl | rfl
    · rfl
    · have hcapital : lowerChar 'I' ≠ 'I' := by decide +kernel
      rw [hd, lowerChar_lowerChar] at hcapital
      exact absurd rfl hcapital
  | final => exact absurd hd (by decide)

/-- The capital I begins a block, whatever stands in front. -/
theorem capitalI_stands : combiningClass 'I' = 0 ∧ ∀ a, composePair a 'I' = none :=
  ⟨by decide +kernel, joined_to_nothing (by decide +kernel) (by decide)⟩

end Dotted

/-! ## Two runs side by side -/

section Runs

variable {P : Char → Char → Prop} {starter c : Char} {held rest out : List Char}

/-- Whatever is done with the next character, the rest of the run makes part of the outcome. -/
theorem ComposesAfter.exists_after (h : ComposesAfter P starter held (c :: rest) out) :
    ∃ starter₁ held₁ out₁, ComposesAfter P starter₁ held₁ rest out₁ ∧ out₁ ⊆ out ∧
      (c = 'I' → starter₁ = 'I' ∧ held₁ = []) := by
  cases h with
  | join _ _ hpair htail =>
    refine ⟨_, held, out, htail, List.Subset.refl out, ?_⟩
    rintro rfl
    rw [capitalI_stands.2] at hpair
    cases hpair
  | next _ _ htail => exact ⟨c, [], _, htail, List.subset_append_right _ _, fun hc => ⟨hc, rfl⟩⟩
  | wait _ hmark htail =>
    refine ⟨starter, c :: held, out, htail, List.Subset.refl out, ?_⟩
    rintro rfl
    exact absurd capitalI_stands.1 hmark

/-- A starter that nothing is joined to is still there in the outcome. -/
theorem ComposesAfter.mem_of_joins_nothing (hnone : ∀ d, composePair starter d = none)
    (h : ComposesAfter P starter held rest out) : starter ∈ out := by
  induction h with
  | done => exact List.mem_cons_self
  | join _ _ hpair _ _ =>
    rw [hnone] at hpair
    cases hpair
  | next => exact List.mem_append_left _ List.mem_cons_self
  | wait _ _ _ ih => exact ih hnone

/-- A capital I and a dot that reaches it make a capital I with a dot for good. -/
theorem ComposesAfter.dotted_mem_of_pair (h : ComposesAfter P starter held (c :: rest) out)
    (hreaches : Reaches held c) (hpair : composePair starter c = some dotted) : dotted ∈ out := by
  cases h with
  | join _ _ hjoined htail =>
    obtain rfl := Option.some.inj (hpair.symm.trans hjoined)
    exact htail.mem_of_joins_nothing composePair_dotted.2
  | next hapart _ _ =>
    rw [(hapart hreaches).2] at hpair
    cases hpair
  | wait hapart _ _ =>
    rw [(hapart hreaches).2] at hpair
    cases hpair

/-- A mark that is not joined waits. -/
theorem ComposesAfter.tail_of_mark (h : ComposesAfter P starter held (c :: rest) out)
    (hnone : Reaches held c → composePair starter c = none) (hmark : combiningClass c ≠ 0) :
    ComposesAfter P starter (c :: held) rest out := by
  cases h with
  | join hreaches _ hpair _ =>
    rw [hnone hreaches] at hpair
    cases hpair
  | next _ hbegins _ => exact absurd hbegins hmark
  | wait _ _ htail => exact htail

/--
Beside the run on a text, the run on its lower case makes no capital I with a dot that the first does
not make. The induction is on the second run. As long as that has a capital I in hand, so has the
first, and the same marks wait behind both; with anything else in hand it makes none.
-/
theorem ComposesAfter.dotted_mem {starter' : Char} {held' rest' out' : List Char}
    (h' : ComposesAfter P starter' held' rest' out') :
    ∀ {starter : Char} {held rest out : List Char}, ComposesAfter P starter held rest out →
      Forall₂ Alike rest rest' → dotted ∉ rest' → (starter' = 'I' → starter = 'I' ∧ held' = held) →
        dotted ∈ out' → dotted ∈ starter' :: held' ∨ dotted ∈ out := by
  induction h' with
  | done =>
    intro _ _ _ _ _ _ _ _ hmem
    exact Or.inl (by simpa using hmem)
  | @join starter' joined' d held' rest' out' hreaches _ hpair _ ih =>
    intro starter held rest out h hrest hwhole hhand hmem
    obtain ⟨c, rest, hc, hfollow, rfl⟩ := List.forall₂_cons_right_iff.mp hrest
    obtain ⟨hplain, hdotted⟩ := capitalI_of_composePair hpair
    obtain ⟨starter₁, held₁, out₁, hrun, hsubset, -⟩ := h.exists_after
    rcases ih hrun hfollow (List.not_mem_of_not_mem_cons hwhole) (fun h => absurd h hplain) hmem
      with hmem | hmem
    · rcases List.mem_cons.mp hmem with rfl | hmem
      · -- the pair is a capital I and a dot, which the run on the text meets too
        obtain rfl := hdotted rfl
        obtain ⟨rfl, rfl⟩ := hhand rfl
        rw [hc.composePair_eq] at hpair
        exact Or.inr (h.dotted_mem_of_pair ((hc.reaches_iff held').mp hreaches) hpair)
      · exact Or.inl (List.mem_cons_of_mem _ hmem)
    · exact Or.inr (hsubset hmem)
  | @next starter' d held' rest' out' _ _ _ ih =>
    intro starter held rest out h hrest hwhole _ hmem
    obtain ⟨c, rest, hc, hfollow, rfl⟩ := List.forall₂_cons_right_iff.mp hrest
    obtain ⟨starter₁, held₁, out₁, hrun, hsubset, hcapital⟩ := h.exists_after
    rcases List.mem_append.mp hmem with hfront | hmem
    · exact Or.inl (by simpa using hfront)
    have hhand (hd : d = 'I') : starter₁ = 'I' ∧ [] = held₁ := by
      subst hd
      exact (hcapital hc.eq_capitalI).imp_right Eq.symm
    rcases ih hrun hfollow (List.not_mem_of_not_mem_cons hwhole) hhand hmem with hmem | hmem
    · rw [List.mem_singleton.mp hmem] at hwhole
      exact absurd List.mem_cons_self hwhole
    · exact Or.inr (hsubset hmem)
  | @wait starter' d held' rest' out' hapart hmark _ ih =>
    intro starter held rest out h hrest hwhole hhand hmem
    obtain ⟨c, rest, hc, hfollow, rfl⟩ := List.forall₂_cons_right_iff.mp hrest
    have hmarkC : combiningClass c ≠ 0 := hc.combiningClass_eq ▸ hmark
    obtain rfl := hc.eq_of_mark hmarkC
    -- with a capital I in hand, the run on the text waits as well
    obtain ⟨starter₁, held₁, out₁, hrun, hsubset, hhand₁⟩ : ∃ starter₁ held₁ out₁,
        ComposesAfter P starter₁ held₁ rest out₁ ∧ out₁ ⊆ out ∧
          (starter' = 'I' → starter₁ = 'I' ∧ d :: held' = held₁) := by
      by_cases hI : starter' = 'I'
      · obtain ⟨rfl, rfl⟩ := hhand hI
        subst hI
        exact ⟨_, _, out, h.tail_of_mark (fun hreaches => (hapart hreaches).2) hmark,
          List.Subset.refl out, fun _ => ⟨rfl, rfl⟩⟩
      · obtain ⟨starter₁, held₁, out₁, hrun, hsubset, -⟩ := h.exists_after
        exact ⟨starter₁, held₁, out₁, hrun, hsubset, fun h => absurd h hI⟩
    rcases ih hrun hfollow (List.not_mem_of_not_mem_cons hwhole) hhand₁ hmem with hmem | hmem
    · rw [List.mem_cons, List.mem_cons] at hmem
      rcases hmem with heq | heq | hmem
      · exact Or.inl (heq ▸ List.mem_cons_self)
      · exact absurd (heq ▸ List.mem_cons_self) hwhole
      · exact Or.inl (List.mem_cons_of_mem _ hmem)
    · exact Or.inr (hsubset hmem)

theorem Composes.dotted_mem {ds out' : List Char} (h' : Composes P ds out') :
    ∀ {cs out : List Char}, Composes P cs out → Forall₂ Alike cs ds → dotted ∉ ds →
      dotted ∈ out' → dotted ∈ out := by
  induction h' with
  | nil => exact fun _ _ _ hmem => absurd hmem List.not_mem_nil
  | @mark d ds out' hmark _ ih =>
    intro cs out h hcs hwhole hmem
    obtain ⟨c, cs, hc, hfollow, rfl⟩ := List.forall₂_cons_right_iff.mp hcs
    cases h with
    | mark _ htail =>
      rcases List.mem_cons.mp hmem with rfl | hmem
      · exact absurd List.mem_cons_self hwhole
      · exact List.mem_cons_of_mem c (ih htail hfollow (List.not_mem_of_not_mem_cons hwhole) hmem)
    | starter hbegins _ => exact absurd (hc.combiningClass_eq.trans hbegins) hmark
  | @starter d ds out' hbegins hblock =>
    intro cs out h hcs hwhole hmem
    obtain ⟨c, cs, hc, hfollow, rfl⟩ := List.forall₂_cons_right_iff.mp hcs
    cases h with
    | mark hmark _ => exact absurd (hc.combiningClass_eq.symm.trans hbegins) hmark
    | starter _ hblock₁ =>
      have hhand (hd : d = 'I') : c = 'I' ∧ ([] : List Char) = [] := by
        subst hd
        exact ⟨hc.eq_capitalI, rfl⟩
      refine (hblock.dotted_mem hblock₁ hfollow (List.not_mem_of_not_mem_cons hwhole) hhand
        hmem).resolve_left fun hmem => ?_
      rw [List.mem_singleton.mp hmem] at hwhole
      exact hwhole List.mem_cons_self

end Runs

theorem dotted_mem_of_lowerFrom {before cs : List Char}
    (h : dotted ∈ compatibilityForm (lowerFrom before cs)) : dotted ∈ compatibilityForm cs := by
  have haligned := alike_canonicalOrder Alike.combiningClass_eq (alike_lowerFrom cs before)
  have hwhole : dotted ∉ canonicalOrder ((lowerFrom before cs).flatMap decompose) := fun hmem =>
    not_dotted_of_decompose ((decomposed_canonicalOrder _).whole _ hmem) rfl
  exact (composes_compose _).dotted_mem (composes_compose _) haligned hwhole h

/-- **A text whose form has no capital I with a dot has none in lower case either.** -/
theorem not_dotted_of_lowerFrom {before cs : List Char}
    (h : ∀ c ∈ compatibilityForm cs, c.toNat ≠ 0x130) :
    ∀ c ∈ compatibilityForm (lowerFrom before cs), c.toNat ≠ 0x130 := by
  intro c hc hcode
  rw [eq_ofNat hcode] at hc
  exact h dotted (dotted_mem_of_lowerFrom hc) rfl

end Gazetteer.Text
