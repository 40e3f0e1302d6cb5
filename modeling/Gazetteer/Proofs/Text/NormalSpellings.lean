import Gazetteer.Proofs.Text.FirstDifference
import Gazetteer.Proofs.Text.LoweredTexts

/-!
# Normal spellings of normal spellings

A normal spelling is meant to be a canonical form: words of letters and digits with one space between
them, which normalizing leaves as they are. The first part fails for the capital I with a dot alone.
The second has to do with the order of things: a text is composed first and put in lower case then,
so **a normal spelling stays as it is exactly if it is composed** (`normalize_normalize_iff_isComposed`),
and it is not where its text has a late iota. After a second time there is nothing left to compose
(`normalize_normalize_normalize`).
-/

set_option autoImplicit false

namespace Gazetteer.Text

open List (Forall₂)

/-! ## Settled words -/

/-- A word that normalizing leaves as it is. -/
structure Settled (w : List Char) : Prop where
  ne_nil : w ≠ []
  alphanumeric : ∀ c ∈ w, isAlphanumeric c = true
  small : ∀ c ∈ w, IsSmall c
  composed : IsComposed w

section Settled

variable {w : List Char} {words : List (List Char)}

/-- A composed word is one word, in lower case. -/
theorem IsComposed.wordsIn_eq (h : IsComposed w) (hne : w ≠ [])
    (halphanumeric : ∀ c ∈ w, isAlphanumeric c = true) : wordsIn w = [w.flatMap lowerChars] := by
  rw [wordsIn_eq_map, h, letterRuns_word hne halphanumeric, List.map_singleton]

theorem Settled.wordsIn_eq (h : Settled w) : wordsIn w = [w] := by
  rw [h.composed.wordsIn_eq h.ne_nil h.alphanumeric, flatMap_lowerChars_small h.small]

theorem flatMap_wordsIn_settled (h : ∀ w ∈ words, Settled w) : words.flatMap wordsIn = words := by
  rw [List.flatMap_congr fun w hw => (h w hw).wordsIn_eq, List.flatMap_singleton']

theorem normalize_of_settled {s : String} (h : ∀ w ∈ wordsIn s.toList, Settled w) :
    normalize (normalize s) = normalize s := by
  rw [normalize_eq_iff, wordsIn_normalize, flatMap_wordsIn_settled h]

end Settled

/-! ## What a second spelling comes from -/

section Spellings

variable {s : String}

theorem flatMap_lowerChars_intercalate (texts : List (List Char)) :
    ([' '].intercalate texts).flatMap lowerChars =
      [' '].intercalate (texts.map (List.flatMap lowerChars)) := by
  have hspace : lowerChars ' ' = [' '] := by decide +kernel
  refine apply_intercalate rfl (fun before after => ?_) texts
  rw [List.flatMap_append, List.flatMap_cons, hspace]
  rfl

theorem map_lowerChar_intercalate (texts : List (List Char)) :
    ([' '].intercalate texts).map lowerChar =
      [' '].intercalate (texts.map (List.map lowerChar)) := by
  have hspace : lowerChar ' ' = ' ' := by decide +kernel
  refine apply_intercalate rfl (fun before after => ?_) texts
  rw [List.map_append, List.map_cons, hspace]

/-- The runs of letters and digits in the form of a text, with a space between them. -/
def spacedRuns (s : String) : List Char := [' '].intercalate (letterRuns (compatibilityForm s.toList))

theorem isComposed_of_mem_letterRuns {run : List Char}
    (h : run ∈ letterRuns (compatibilityForm s.toList)) : IsComposed run :=
  (isComposed_compatibilityForm s.toList).piece (infix_of_mem_letterRuns h)

theorem isComposed_intercalate {texts : List (List Char)} (h : ∀ text ∈ texts, IsComposed text) :
    IsComposed ([' '].intercalate texts) := by
  have hforms : texts.map compatibilityForm = texts :=
    (List.map_congr_left h).trans (List.map_id texts)
  rw [IsComposed, compatibilityForm_intercalate, hforms]

theorem isComposed_spacedRuns (s : String) : IsComposed (spacedRuns s) :=
  isComposed_intercalate fun _ => isComposed_of_mem_letterRuns

theorem toList_normalize_eq (s : String) :
    (normalize s).toList = (spacedRuns s).flatMap lowerChars := by
  rw [toList_normalize, wordsIn_eq_map, spacedRuns, flatMap_lowerChars_intercalate]

/-- The words of the spaced runs are those of the text. -/
theorem wordsIn_spacedRuns (s : String) : wordsIn (spacedRuns s) = wordsIn s.toList := by
  rw [spacedRuns, wordsIn_intercalate, wordsIn_eq_map s.toList, List.map_eq_flatMap]
  exact List.flatMap_congr fun run hrun => (isComposed_of_mem_letterRuns hrun).wordsIn_eq
    (ne_nil_of_mem_letterRuns hrun) (alphanumeric_of_mem_letterRuns hrun)

theorem isSmall_form_normalize (s : String) :
    ∀ c ∈ compatibilityForm (normalize s).toList, IsSmall c := by
  rw [toList_normalize_eq]
  exact (isComposed_spacedRuns s).isSmall_form_lower

/-- The words of a normal spelling are pieces of its form, which has no capitals. -/
theorem settled_of_mem_wordsIn_normalize (s : String) :
    ∀ w ∈ wordsIn (normalize s).toList, Settled w := by
  intro w hw
  rw [wordsIn_eq_map] at hw
  obtain ⟨run, hrun, rfl⟩ := List.mem_map.mp hw
  have hsmall : ∀ c ∈ run, IsSmall c := fun c hc =>
    isSmall_form_normalize s c ((infix_of_mem_letterRuns hrun).subset hc)
  rw [flatMap_lowerChars_small hsmall]
  exact ⟨ne_nil_of_mem_letterRuns hrun, alphanumeric_of_mem_letterRuns hrun, hsmall,
    isComposed_of_mem_letterRuns hrun⟩

/-- **Normalizing more than twice changes nothing.** -/
theorem normalize_normalize_normalize (s : String) :
    normalize (normalize (normalize s)) = normalize (normalize s) :=
  normalize_of_settled (settled_of_mem_wordsIn_normalize s)

/-- Without a capital I with a dot, words are made of small letters and digits. -/
theorem of_mem_wordsIn (hdotted : ∀ c ∈ compatibilityForm s.toList, c.toNat ≠ 0x130) {w : List Char}
    (hw : w ∈ wordsIn s.toList) :
    w ≠ [] ∧ (∀ c ∈ w, isAlphanumeric c = true) ∧ ∀ c ∈ w, IsSmall c := by
  rw [wordsIn_eq_map] at hw
  obtain ⟨run, hrun, rfl⟩ := List.mem_map.mp hw
  have hrunDotted : ∀ c ∈ run, c.toNat ≠ 0x130 := fun c hc =>
    hdotted c ((infix_of_mem_letterRuns hrun).subset hc)
  rw [flatMap_lowerChars_of_not_dotted hrunDotted]
  refine ⟨by simpa using ne_nil_of_mem_letterRuns hrun, ?_, ?_⟩
  · intro c hc
    obtain ⟨d, hd, rfl⟩ := List.mem_map.mp hc
    rw [isAlphanumeric_lowerChar]
    exact alphanumeric_of_mem_letterRuns hrun d hd
  · intro c hc
    obtain ⟨d, hd, rfl⟩ := List.mem_map.mp hc
    exact isSmall_lowerChar (hrunDotted d hd)

theorem toList_normalize_eq_map (hdotted : ∀ c ∈ compatibilityForm s.toList, c.toNat ≠ 0x130) :
    (normalize s).toList = (spacedRuns s).map lowerChar := by
  rw [toList_normalize_eq, spacedRuns, flatMap_lowerChars_intercalate, map_lowerChar_intercalate]
  refine congrArg _ (List.map_congr_left fun run hrun => ?_)
  exact flatMap_lowerChars_of_not_dotted fun c hc =>
    hdotted c ((infix_of_mem_letterRuns hrun).subset hc)

/-- **A normal spelling is its own normal spelling exactly if it is composed.** -/
theorem normalize_normalize_iff_isComposed
    (hdotted : ∀ c ∈ compatibilityForm s.toList, c.toNat ≠ 0x130) :
    normalize (normalize s) = normalize s ↔ IsComposed (normalize s).toList := by
  constructor
  · intro h
    have hcomposed := isComposed_spacedRuns s
    have hvariants : Forall₂ Alike ((spacedRuns s).flatMap decompose)
        ((normalize s).toList.flatMap decompose) := by
      rw [toList_normalize_eq, hcomposed.flatMap_lowerChars_decompose, List.forall₂_map_right_iff]
      exact List.forall₂_same.mpr fun c _ => .variant (variant_lowerChar c)
    have hforms : (compatibilityForm (normalize s).toList).map lowerChar =
        (compatibilityForm (spacedRuns s)).map lowerChar :=
      (wordsIn_eq_iff hvariants).mp ((normalize_eq_iff.mp h).trans (wordsIn_spacedRuns s).symm)
    calc compatibilityForm (normalize s).toList
        = (compatibilityForm (normalize s).toList).map lowerChar :=
          (map_lowerChar_small (isSmall_form_normalize s)).symm
      _ = (compatibilityForm (spacedRuns s)).map lowerChar := hforms
      _ = (spacedRuns s).map lowerChar := congrArg _ hcomposed
      _ = (normalize s).toList := (toList_normalize_eq_map hdotted).symm
  · intro h
    refine normalize_of_settled fun w hw => ?_
    obtain ⟨hne, halphanumeric, hsmall⟩ := of_mem_wordsIn hdotted hw
    refine ⟨hne, halphanumeric, hsmall, h.piece ?_⟩
    rw [toList_normalize]
    exact infix_intercalate hw

/-- **A normal spelling is composed exactly if the text has no late iota.** -/
theorem isComposed_normalize_iff
    (hdotted : ∀ c ∈ compatibilityForm s.toList, c.toNat ≠ 0x130) :
    IsComposed (normalize s).toList ↔ ¬LateIota (compatibilityForm s.toList) := by
  constructor
  · rintro hcomposed ⟨capital, marks, hcapital, hmarks, hpiece⟩
    have hcapitals : ∀ c : Char, c.toNat ∈ iotaCapitals →
        isAlphanumeric c = true ∧ lowerChars c = [lowerChar c] :=
      forall_of_codes (by decide +kernel)
    obtain ⟨hletter, hlower⟩ := hcapitals capital hcapital
    have hall : ∀ m ∈ marks ++ [iotaBelow], IsLetterMark m :=
      List.forall_mem_append.mpr ⟨hmarks, List.forall_mem_singleton.mpr (by decide +kernel)⟩
    -- the iota and its capital are in one word
    obtain ⟨run, hrun, hwithin⟩ := exists_letterRun (List.cons_ne_nil _ _)
      (List.forall_mem_cons.mpr ⟨hletter, fun m hm => (hall m hm).letter⟩) hpiece
    have hpieceLower : (capital :: (marks ++ [iotaBelow])).flatMap lowerChars =
        lowerChar capital :: (marks ++ [iotaBelow]) := by
      rw [List.flatMap_cons, hlower,
        flatMap_lowerChars_small fun m hm => isSmall_mark (hall m hm).mark]
      rfl
    have hword : run.flatMap lowerChars ∈ wordsIn s.toList := by
      rw [wordsIn_eq_map]
      exact List.mem_map_of_mem hrun
    have hinfix : lowerChar capital :: (marks ++ [iotaBelow]) <:+: (normalize s).toList := by
      rw [← hpieceLower, toList_normalize]
      exact (hwithin.flatMap lowerChars).trans (infix_intercalate hword)
    exact not_isComposed_late hcapital hmarks (hcomposed.piece hinfix)
  · intro hlate
    rw [toList_normalize, wordsIn_eq_map]
    refine isComposed_intercalate (List.forall_mem_map.mpr fun run hrun => ?_)
    have hpiece := infix_of_mem_letterRuns hrun
    have hrunDotted : ∀ c ∈ run, c.toNat ≠ 0x130 := fun c hc => hdotted c (hpiece.subset hc)
    rw [flatMap_lowerChars_of_not_dotted hrunDotted]
    exact (isComposed_of_mem_letterRuns hrun).map_lowerChar
      (fun c hc => ⟨alphanumeric_of_mem_letterRuns hrun c hc, hrunDotted c hc⟩)
      fun h => hlate (h.mono hpiece)

end Spellings

/-! ## Canonical form -/

/-- Words of letters and digits with one space between them. -/
def IsSpelling (text : String) : Prop :=
  ∃ words : List (List Char), text.toList = [' '].intercalate words ∧
    ∀ w ∈ words, w ≠ [] ∧ ∀ c ∈ w, isAlphanumeric c = true

/--
**What normalizing comes to.** For a text without a capital I with a dot it makes words of letters
and digits with one space between them, and doing it again changes nothing exactly if the text has no
late iota. For every text, doing it more than twice changes nothing.
-/
theorem normalize_settles (s : String) :
    ((∀ c ∈ compatibilityForm s.toList, c.toNat ≠ 0x130) →
      IsSpelling (normalize s) ∧
        (normalize (normalize s) = normalize s ↔ ¬LateIota (compatibilityForm s.toList))) ∧
      normalize (normalize (normalize s)) = normalize (normalize s) := by
  refine ⟨fun hdotted => ⟨⟨wordsIn s.toList, toList_normalize s, fun w hw => ?_⟩, ?_⟩,
    normalize_normalize_normalize s⟩
  · obtain ⟨hne, halphanumeric, -⟩ := of_mem_wordsIn hdotted hw
    exact ⟨hne, halphanumeric⟩
  · exact (normalize_normalize_iff_isComposed hdotted).trans (isComposed_normalize_iff hdotted)

/-- An omega with a grave accent and an iota below, which was written with the capital. -/
theorem not_forall_normalize_normalize :
    ¬ ∀ s : String, normalize (normalize s) = normalize s ∧ IsSpelling (normalize s) := by
  intro h
  have honce : normalize "\u1FFA\u0345" = "\u1F7C\u0345" := by decide +kernel
  have htwice : normalize "\u1F7C\u0345" = "\u1FF2" := by decide +kernel
  have heq := (h "\u1FFA\u0345").1
  rw [honce, htwice] at heq
  exact absurd heq (by decide)

/-- Capitals with marks and ligatures, an iota that comes in time, and one that comes late. -/
theorem normalize_settles_odes :
    (IsSpelling (normalize "\u1FFCiDAI\u0308 (\uFB01n)") ∧
        normalize (normalize "\u1FFCiDAI\u0308 (\uFB01n)") =
          normalize "\u1FFCiDAI\u0308 (\uFB01n)") ∧
      normalize (normalize "\u1FFA\u0345") ≠ normalize "\u1FFA\u0345" := by
  have hnotDotted : ∀ c ∈ compatibilityForm "\u1FFCiDAI\u0308 (\uFB01n)".toList,
      c.toNat ≠ 0x130 := ne_of_code_not_mem (by decide +kernel)
  have hlateDotted : ∀ c ∈ compatibilityForm "\u1FFA\u0345".toList, c.toNat ≠ 0x130 :=
    ne_of_code_not_mem (by decide +kernel)
  obtain ⟨hspelling, hsame⟩ := (normalize_settles "\u1FFCiDAI\u0308 (\uFB01n)").1 hnotDotted
  have hlate := ((normalize_settles "\u1FFA\u0345").1 hlateDotted).2
  exact ⟨⟨hspelling, hsame.mpr (by decide +kernel)⟩, hlate.not.mpr (by decide +kernel)⟩

end Gazetteer.Text
