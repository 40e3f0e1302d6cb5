import Gazetteer.Proofs.Text.CaseVariants
import Gazetteer.Proofs.Text.Words

/-!
# Where two forms differ, the words do

Words are made of the composed compatibility form, and keep little of it: case is lost, and so is
every character that is no letter. Still no difference between the forms of a text and of its lower
case is lost in this way, other than in case. Walking along both until they are composed differently
for the first time, one finds a mark joined on one side only, or another sigma; and whichever it is,
the word that is under way goes on differently (the three lemmas on `SplitAlike`). Hence **the words
are the same exactly if the forms are, up to case** (`wordsIn_eq_iff`).
-/

set_option autoImplicit false

namespace Gazetteer.Text

open List (Forall₂)

/-! ## Splitting alike -/

/-- Two pieces of composed text that make the same words, behind whatever word is under way. -/
def SplitAlike (cs ds : List Char) : Prop :=
  ∃ current, splitBlankFrom current (cs.flatMap foldChar) =
    splitBlankFrom current (ds.flatMap foldChar)

theorem SplitAlike.of_append {front front' cs ds : List Char}
    (hfront : front'.flatMap foldChar = front.flatMap foldChar)
    (h : SplitAlike (front ++ cs) (front' ++ ds)) : SplitAlike cs ds := by
  obtain ⟨current, h⟩ := h
  rw [List.flatMap_append, List.flatMap_append, hfront] at h
  exact splitBlankFrom_drop_front h

theorem foldChar_of_alphanumeric {c : Char} (h : isAlphanumeric c = true) :
    foldChar c = lowerChars c := by
  rw [foldChar, if_pos h]

theorem foldChar_of_small {c : Char} (h : isAlphanumeric c = true) (hsmall : IsSmall c) :
    foldChar c = [c] := by
  rw [foldChar_of_alphanumeric h, hsmall]

/-- A word goes on with the lower case of a letter; the capital I with a dot is an i and more. -/
theorem exists_foldChar {c : Char} (h : isAlphanumeric c = true) :
    ∃ a more, foldChar c = a :: more ∧ isBlank a = false ∧
      (a = lowerChar c ∨ c.toNat = 0x130 ∧ a = 'i') := by
  rw [foldChar_of_alphanumeric h]
  by_cases hdotted : c.toNat = 0x130
  · refine ⟨'i', [Char.ofNat 0x307], ?_, by decide, Or.inr ⟨hdotted, rfl⟩⟩
    rw [lowerChars, if_pos hdotted]
  · refine ⟨lowerChar c, [], lowerChars_eq hdotted, ?_, Or.inl rfl⟩
    exact not_blank_of_alphanumeric (by rwa [isAlphanumeric_lowerChar])

/-- Words that are the same go on the same. -/
theorem SplitAlike.head {c d : Char} {cs ds : List Char} (h : SplitAlike (c :: cs) (d :: ds))
    (hc : isAlphanumeric c = true) (hd : isAlphanumeric d = true) (hsmall : IsSmall d) :
    d = lowerChar c ∨ c.toNat = 0x130 ∧ d = 'i' := by
  obtain ⟨current, h⟩ := h
  obtain ⟨a, more, hfold, ha, hcase⟩ := exists_foldChar hc
  rw [List.flatMap_cons, List.flatMap_cons, hfold, foldChar_of_small hd hsmall] at h
  have heq : a = d := eq_of_splitBlankFrom ha (not_blank_of_alphanumeric hd) h
  rwa [heq] at hcase

/-! ## Three ways to differ -/

theorem map_combiningClass_decompose {c : Char} (h : c.toNat ≠ 0x3F9) :
    (decompose (lowerChar c)).map combiningClass = (decompose c).map combiningClass := by
  by_cases hself : lowerChar c = c
  · rw [hself]
  · rw [decompose_lowerChar hself h, List.map_map]
    exact List.map_congr_left fun d _ => combiningClass_lowerChar d

section Differ

variable {P : Char → Char → Prop} {held held' rest rest' out out' : List Char}

/-- A mark that is joined to the small letter but not to the capital shows in the letter. -/
theorem not_splitAlike_of_late {starter c joined : Char} (hsign : starter.toNat ∉ letterSigns)
    (hcapital : lowerChar starter ≠ starter) (hmark : combiningClass c ≠ 0)
    (hpair : composePair (lowerChar starter) c = some joined)
    (hwaiting : Waiting (c :: held) rest) (h : ComposesAfter P starter (c :: held) rest out)
    (hwaiting' : Waiting held' rest') (h' : ComposesAfter P joined held' rest' out') :
    ¬SplitAlike out out' := by
  intro hsplit
  have hletter := (isLetter_of_ne hcapital).1
  have hlower : IsSmall (lowerChar starter) := isSmall_lowerChar hletter.not_dotted
  have halnum : isAlphanumeric (lowerChar starter) = true := (isLetter_of_ne hcapital).2.alphanumeric
  obtain ⟨first, more, marks, rfl, ⟨hfirst, hfirstSign⟩, hparts, hlate, -⟩ :=
    h.exists_front (p := fun x => isAlphanumeric x = true ∧ x.toNat ∉ letterSigns)
      (fun ha hpair => ⟨alphanumeric_of_composePair ha.1 hpair, not_sign_of_composePair hpair⟩)
      hwaiting ⟨hletter.alphanumeric, hsign⟩
  obtain ⟨first', more', marks', rfl, ⟨hfirst', hsmall'⟩, hparts', -, -⟩ :=
    h'.exists_front (p := fun x => isAlphanumeric x = true ∧ IsSmall x)
      (fun ha hpair => ⟨alphanumeric_of_composePair ha.1 hpair, ha.2.of_composePair hpair⟩)
      hwaiting' ⟨alphanumeric_of_composePair halnum hpair, hlower.of_composePair hpair⟩
  rw [(decompose_of_composePair hpair).1, List.append_assoc, List.singleton_append] at hparts'
  have hlunate (x : Char) (hx : x.toNat ∉ letterSigns) : x.toNat ≠ 0x3F9 := fun h =>
    hx (h ▸ List.mem_cons_self)
  rcases hsplit.head hfirst hfirst' hsmall' with heq | ⟨-, heq⟩
  · -- the small letter has the mark in the first place behind it, the capital has none of its class
    have hclasses := map_combiningClass_decompose (hlunate first hfirstSign)
    rw [← heq, hparts, hparts', List.map_append, List.map_append,
      map_combiningClass_decompose (hlunate starter hsign)] at hclasses
    have hclass : combiningClass c ∈ marks.map combiningClass := by
      rw [← List.append_cancel_left hclasses]
      exact List.mem_cons_self
    obtain ⟨m, hm, hmc⟩ := List.mem_map.mp hclass
    exact absurd (hlate m hm c List.mem_cons_self) (by omega)
  · have hi : decompose 'i' = ['i'] := by decide +kernel
    have hmem : c ∈ decompose first' := by
      rw [hparts']
      exact List.mem_append_right _ List.mem_cons_self
    rw [heq, hi, List.mem_singleton] at hmem
    exact hmark (by rw [hmem]; decide +kernel)

/-- A word that goes on with a dot does not go on with a mark of a letter, nor end there. -/
theorem splitBlankFrom_dot_ne {d : Char} (hd : combiningClass d ≠ 0) {current rest rest' : List Char}
    (hne : current ≠ []) : splitBlankFrom current (Char.ofNat 0x307 :: rest) ≠
      splitBlankFrom current (foldChar d ++ rest') := by
  have hdot : isAlphanumeric (Char.ofNat 0x307) = false ∧ isBlank (Char.ofNat 0x307) = false := by
    decide +kernel
  intro h
  cases hletter : isAlphanumeric d with
  | true =>
    rw [foldChar_of_small hletter (isSmall_mark hd), List.singleton_append] at h
    rw [← eq_of_splitBlankFrom hdot.2 (not_blank_of_alphanumeric hletter) h, hdot.1] at hletter
    cases hletter
  | false =>
    rw [foldChar, hletter, if_neg (by simp), List.singleton_append] at h
    have hspace : isBlank ' ' = true := by decide
    exact splitBlankFrom_ne hdot.2 hspace hne h

/-- The capital I with a dot is one letter, its lower case an i and a mark that is no letter. -/
theorem not_splitAlike_of_dotted (hwaiting : Waiting held rest)
    (h : ComposesAfter P (Char.ofNat 0x130) held rest out)
    (hwaiting' : Waiting (Char.ofNat 0x307 :: held') rest')
    (h' : ComposesAfter P 'i' (Char.ofNat 0x307 :: held') rest' out') : ¬SplitAlike out out' := by
  intro hsplit
  obtain ⟨more, rfl⟩ := h.exists_front_of_joins_nothing composePair_dotted.2 hwaiting
  obtain ⟨first', more', -, rfl, ⟨hfirst', hsmall'⟩, -, -, -⟩ :=
    h'.exists_front (p := fun x => isAlphanumeric x = true ∧ IsSmall x)
      (fun ha hpair => ⟨alphanumeric_of_composePair ha.1 hpair, ha.2.of_composePair hpair⟩)
      hwaiting' ⟨by decide +kernel, by decide +kernel⟩
  have hfold : foldChar (Char.ofNat 0x130) = ['i', Char.ofNat 0x307] := by decide +kernel
  obtain ⟨current, hsplit⟩ := hsplit
  -- the first mark that waits stands right behind the i
  obtain ⟨d, marks, hmarks⟩ : ∃ d marks, (Char.ofNat 0x307 :: held').reverse = d :: marks :=
    List.exists_cons_of_ne_nil (by simp)
  have hd : combiningClass d ≠ 0 := hwaiting'.marks d (by
    rw [← List.mem_reverse, hmarks]
    exact List.mem_cons_self)
  rw [hmarks, List.flatMap_cons, List.flatMap_cons, hfold, foldChar_of_small hfirst' hsmall',
    List.cons_append, List.cons_append, List.cons_append, List.nil_append, List.nil_append] at hsplit
  obtain rfl : 'i' = first' :=
    eq_of_splitBlankFrom (by decide) (not_blank_of_alphanumeric hfirst') hsplit
  rw [splitBlankFrom_cons_of_unbroken (by decide), splitBlankFrom_cons_of_unbroken (by decide),
    List.cons_append, List.flatMap_cons] at hsplit
  exact splitBlankFrom_dot_ne hd (List.cons_ne_nil _ _) hsplit

/-- The two small sigmas are different letters. -/
theorem not_splitAlike_of_sigma (hwaiting : Waiting held rest)
    (h : ComposesAfter P (Char.ofNat 0x3A3) held rest out) (hwaiting' : Waiting held' rest')
    (h' : ComposesAfter P (Char.ofNat 0x3C2) held' rest' out') : ¬SplitAlike out out' := by
  intro hsplit
  obtain ⟨more, rfl⟩ := h.exists_front_of_joins_nothing
    (joins_nothing (by decide +kernel) (by decide)) hwaiting
  obtain ⟨more', rfl⟩ := h'.exists_front_of_joins_nothing
    (joins_nothing (by decide +kernel) (by decide)) hwaiting'
  have hcases := hsplit.head (by decide +kernel) (by decide +kernel) (by decide +kernel)
  revert hcases
  decide +kernel

end Differ

/-! ## The first difference -/

/-- A small letter composes as its capital does, or the pair is uneven. -/
theorem Variant.composePair_cases {s s' : Char} (hsign : s.toNat ∉ letterSigns) (hs : Variant s s')
    (c : Char) : composePair s' c = composePair s c ∨
      composePair s' c = (composePair s c).map lowerChar ∨
        s' = lowerChar s ∧ lowerChar s ≠ s ∧ ¬Even s c := by
  by_cases heven : Even s c
  · rcases composePair_variant hsign heven hs (Variant.refl c) with h | h
    · exact Or.inl h
    · exact Or.inr (Or.inl h)
  · rcases hs with rfl | rfl
    · exact Or.inl rfl
    · by_cases hself : lowerChar s = s
      · rw [hself]
        exact Or.inl rfl
      · exact Or.inr (Or.inr ⟨rfl, hself, heven⟩)

/-- Where both cases compose they compose to variants. -/
theorem Variant.of_composePair {s s' c j j' : Char} (hsign : s.toNat ∉ letterSigns)
    (hs : Variant s s') (h : composePair s c = some j) (h' : composePair s' c = some j') :
    Variant j j' := by
  rcases hs.composePair_cases hsign c with heq | heq | ⟨rfl, -, hodd⟩
  · rw [heq, h] at h'
    cases h'
    exact Variant.refl j
  · rw [heq, h] at h'
    cases h'
    exact variant_lowerChar j
  · rcases (uneven_cases hodd).2 with ⟨hnone, -⟩ | ⟨-, -, hnone⟩
    · rw [hnone] at h
      cases h
    · rw [hnone] at h'
      cases h'

/-- Where the two cases compose differently they form an uneven pair. -/
theorem Variant.uneven {s s' c : Char} (hsign : s.toNat ∉ letterSigns) (hs : Variant s s')
    (h : (composePair s c).isSome ≠ (composePair s' c).isSome) :
    s' = lowerChar s ∧ lowerChar s ≠ s ∧ ¬Even s c := by
  rcases hs.composePair_cases hsign c with heq | heq | hodd
  · rw [heq] at h
    exact absurd rfl h
  · rw [heq, Option.isSome_map] at h
    exact absurd rfl h
  · exact hodd

section Blocks

variable {P : Char → Char → Prop} {starter : Char} {held rest out cs : List Char}

/--
Two blocks that correspond make the same words only if they are the same up to case. The induction
is on the first run, and follows the second one as long as both decide alike.
-/
theorem ComposesAfter.map_lowerChar_eq (h : ComposesAfter P starter held rest out) :
    ∀ {starter' : Char} {rest' out' : List Char}, starter.toNat ∉ letterSigns →
      Variant starter starter' → Forall₂ Alike rest rest' → Waiting held rest →
      Waiting held rest' → ComposesAfter P starter' held rest' out' → SplitAlike out out' →
        out'.map lowerChar = out.map lowerChar := by
  induction h with
  | done =>
    intro starter' rest' out' _ hs hrest _ _ h' _
    cases hrest
    cases h'
    rw [List.map_cons, List.map_cons, hs.lowerChar_eq]
  | @join starter joined c held rest out hreaches _ hpair htail ih =>
    intro starter' rest' out' hsign hs hrest hw hw' h' hsplit
    obtain ⟨d, ds, hc, hds, rfl⟩ := List.forall₂_cons_left_iff.mp hrest
    have hreaches' : Reaches held d := (hc.reaches_iff held).mpr hreaches
    have hodd (hnone : composePair starter' d = none) :
        starter' = lowerChar starter ∧ lowerChar starter ≠ starter ∧ ¬Even starter c := by
      refine hs.uneven hsign ?_
      rw [← hc.composePair_eq starter', hnone, hpair]
      simp
    cases h' with
    | join _ _ hpair' htail' =>
      rw [hc.composePair_eq] at hpair'
      exact ih (not_sign_of_composePair hpair) (hs.of_composePair hsign hpair hpair') hds
        (hw.join hreaches) (hw'.join hreaches') htail' hsplit
    | next hapart hbegins _ =>
      obtain ⟨-, -, hodd⟩ := hodd (hapart hreaches').2
      exact absurd (hc.combiningClass_eq.symm.trans hbegins) (uneven_cases hodd).1
    | wait hapart hmark htail' =>
      obtain ⟨rfl, -, hodd⟩ := hodd (hapart hreaches').2
      obtain ⟨hmark', ⟨hnone, -⟩ | ⟨rfl, rfl, -⟩⟩ := uneven_cases hodd
      · rw [hpair] at hnone
        cases hnone
      · obtain rfl := hc.eq_of_mark hmark'
        have hi : lowerChar 'I' = 'i' := by decide +kernel
        obtain rfl := Option.some.inj (composePair_dotted.1.symm.trans hpair)
        rw [hi] at htail'
        exact absurd hsplit
          (not_splitAlike_of_dotted (hw.join hreaches) htail (hw'.wait hmark) htail')
  | @next starter c held rest out hapart hbegins htail ih =>
    intro starter' rest' out' hsign hs hrest hw hw' h' hsplit
    obtain ⟨d, ds, hc, hds, rfl⟩ := List.forall₂_cons_left_iff.mp hrest
    cases h' with
    | join hreaches' _ hpair' _ =>
      obtain ⟨-, -, hodd⟩ := hs.uneven (c := c) hsign (by
        rw [← hc.composePair_eq starter', hpair', (hapart ((hc.reaches_iff held).mp hreaches')).2]
        simp)
      exact absurd hbegins (uneven_cases hodd).1
    | next _ _ htail' =>
      have hfront : Forall₂ Variant (starter :: held.reverse) (starter' :: held.reverse) :=
        .cons hs (forall₂_variant_refl _)
      have htails := hsplit.of_append (flatMap_foldChar_variants hfront)
      have hsignC : c.toNat ∉ letterSigns :=
        not_sign_of_decompose (hw.decomposed.whole c (by simp))
      cases hc with
      | variant hc =>
        rw [List.map_append, List.map_append, map_lowerChar_variants hfront,
          ih hsignC hc hds hw.next hw'.next htail' htails]
      | final => exact absurd htails (not_splitAlike_of_sigma hw.next htail hw'.next htail')
    | wait _ hmark _ => exact absurd (hc.combiningClass_eq.trans hbegins) hmark
  | @wait starter c held rest out hapart hmark htail ih =>
    intro starter' rest' out' hsign hs hrest hw hw' h' hsplit
    obtain ⟨d, ds, hc, hds, rfl⟩ := List.forall₂_cons_left_iff.mp hrest
    obtain rfl := hc.eq_of_mark hmark
    cases h' with
    | join hreaches' _ hpair' htail' =>
      obtain ⟨rfl, hcapital, -⟩ := hs.uneven (c := d) hsign (by
        rw [hpair', (hapart hreaches').2]
        simp)
      exact absurd hsplit (not_splitAlike_of_late hsign hcapital hmark hpair' (hw.wait hmark) htail
        (hw'.join hreaches') htail')
    | next _ hbegins _ => exact absurd hbegins hmark
    | wait _ _ htail' => exact ih hsign hs hds (hw.wait hmark) (hw'.wait hmark) htail' hsplit

/-- Two texts that correspond make the same words only if their forms are the same up to case. -/
theorem Composes.map_lowerChar_eq (h : Composes P cs out) :
    ∀ {ds out' : List Char}, Forall₂ Alike cs ds → Decomposed cs → Decomposed ds →
      Composes P ds out' → SplitAlike out out' → out'.map lowerChar = out.map lowerChar := by
  induction h with
  | nil =>
    intro ds out' halike _ _ h' _
    cases halike
    cases h'
    rfl
  | @mark c rest out hmark _ ih =>
    intro ds out' halike hcs hds h' hsplit
    obtain ⟨d, ds, hc, hrest, rfl⟩ := List.forall₂_cons_left_iff.mp halike
    obtain rfl := hc.eq_of_mark hmark
    cases h' with
    | mark _ htail' =>
      have hsplit' : SplitAlike ([d] ++ out) ([d] ++ _) := hsplit
      rw [List.map_cons, List.map_cons, ih hrest hcs.tail hds.tail htail' (hsplit'.of_append rfl)]
    | starter hbegins _ => exact absurd hbegins hmark
  | @starter c rest out hbegins hblock =>
    intro ds out' halike hcs hds h' hsplit
    obtain ⟨d, ds, hc, hrest, rfl⟩ := List.forall₂_cons_left_iff.mp halike
    cases h' with
    | mark hmark _ => exact absurd (hc.combiningClass_eq.trans hbegins) hmark
    | starter _ hblock' =>
      cases hc with
      | variant hc =>
        have hsign : c.toNat ∉ letterSigns :=
          not_sign_of_decompose (hcs.whole c List.mem_cons_self)
        exact hblock.map_lowerChar_eq hsign hc hrest hcs.waiting hds.waiting hblock' hsplit
      | final => exact absurd hsplit (not_splitAlike_of_sigma hcs.waiting hblock hds.waiting hblock')

end Blocks

/-- Lower case is all that a word keeps of a character. -/
theorem flatMap_foldChar_congr {cs ds : List Char} (h : ds.map lowerChar = cs.map lowerChar) :
    ds.flatMap foldChar = cs.flatMap foldChar := by
  have hfold : ∀ cs : List Char, cs.flatMap foldChar = (cs.map lowerChar).flatMap foldChar := by
    intro cs
    rw [List.flatMap_map]
    exact List.flatMap_congr fun c _ => ((variant_lowerChar c).foldChar_eq).symm
  rw [hfold, h, ← hfold]

/--
**Texts that correspond have the same words exactly if their composed compatibility forms are the
same up to case.**
-/
theorem wordsIn_eq_iff {cs ds : List Char}
    (h : Forall₂ Alike (cs.flatMap decompose) (ds.flatMap decompose)) :
    wordsIn ds = wordsIn cs ↔
      (compatibilityForm ds).map lowerChar = (compatibilityForm cs).map lowerChar := by
  constructor
  · intro hwords
    exact (composes_compose _).map_lowerChar_eq (alike_canonicalOrder Alike.combiningClass_eq h)
      (decomposed_canonicalOrder cs) (decomposed_canonicalOrder ds) (composes_compose _)
      ⟨[], hwords.symm⟩
  · intro hforms
    rw [wordsIn, wordsIn, foldChars, foldChars, flatMap_foldChar_congr hforms]

end Gazetteer.Text
