import Gazetteer.Proofs.Encoding.SpacedParts
import Gazetteer.Proofs.Text.DottedCapitals
import Gazetteer.Proofs.Text.FirstDifference
import Gazetteer.Proofs.Text.Splitting

/-!
# Encoding in any case

A text and its lower case are meant to be the same name. Words are put in lower case, but only after
the composed compatibility form was made, one character at a time: so a capital sigma never becomes
the final form of the letter, and a capital is not joined to a mark that only its small letter is
joined to. **The normal spelling of a text in lower case is that of the text exactly if the forms of
the two are the same up to case**, unless there is a capital I with a dot, whose lower case is two
characters; and that is so for every text without such letters (`EvenlyCased`). Encoders see nothing but normal spellings, apart from the separator of an encoder
for parts, which has to be one that case does not touch (`Caseless`).
-/

set_option autoImplicit false

namespace Gazetteer

open Text (normalize lower lowerFrom lowerChars compatibilityForm wordsIn)

/-! ## Encoders see normal spellings -/

theorem FeatureKind.features_congr {s t : String} (h : normalize s = normalize t)
    (kind : FeatureKind) (language : Language) (minTokenLength : UInt64) :
    kind.features s language minTokenLength = kind.features t language minTokenLength := by
  unfold features tokenize
  rw [h]

theorem BucketEncoder.addText_congr {s t : String} (h : normalize s = normalize t)
    (e : BucketEncoder) (v : Vocabulary) (vector : DenseVector) :
    e.addText v vector s = e.addText v vector t := by
  unfold addText knownFeatures
  rw [FeatureKind.features_congr h]

/-- **Parts with the same normal spellings have the same vector.** -/
theorem BucketEncoder.encodeParts_congr {parts others : List String}
    (h : parts.map normalize = others.map normalize) (e : BucketEncoder) :
    e.encodeParts parts = e.encodeParts others := by
  have hfold (v : Vocabulary) : ∀ vector : DenseVector,
      parts.foldl (e.addText v) vector = others.foldl (e.addText v) vector := by
    induction parts generalizing others with
    | nil =>
      intro vector
      rw [List.map_eq_nil_iff.mp h.symm]
    | cons part parts ih =>
      intro vector
      obtain ⟨other, others, rfl, hpart, hparts⟩ := List.map_eq_cons_iff.mp h.symm
      rw [List.foldl_cons, List.foldl_cons, e.addText_congr hpart.symm, ih hparts.symm]
  unfold encodeParts
  cases e.vocabulary with
  | none => rfl
  | some v => exact congrArg Except.ok (hfold v e.blank)

/-! ## The lower case of a text -/

/-- A text in whose lower case every letter is the small letter of the one that stood there. -/
structure EvenlyCased (s : String) : Prop where
  /-- No capital sigma ends a word. -/
  sigma : lowerFrom [] s.toList = s.toList.flatMap lowerChars
  /-- There is no lunate sigma, whose small letter is another character in composed texts. -/
  lunate : ∀ c ∈ s.toList, c.toNat ≠ 0x3F9
  even : Text.ComposesEvenly s.toList

/-- What has a text composed evenly keeps its words in lower case. -/
theorem wordsIn_flatMap_lowerChars {cs : List Char} (hlunate : ∀ c ∈ cs, c.toNat ≠ 0x3F9)
    (heven : Text.ComposesEvenly cs) : wordsIn (cs.flatMap lowerChars) = wordsIn cs := by
  rw [wordsIn, wordsIn, Text.foldChars, Text.foldChars,
    Text.flatMap_foldChar_variants (heven.variants hlunate)]

theorem toList_lower (s : String) : (lower s).toList = lowerFrom [] s.toList := by
  rw [lower, String.toList_ofList]

theorem EvenlyCased.normalize_lower {s : String} (h : EvenlyCased s) :
    normalize (lower s) = normalize s := by
  rw [Text.normalize_eq_iff, toList_lower, h.sigma]
  exact wordsIn_flatMap_lowerChars h.lunate h.even

theorem normalize_lower_iff {s : String}
    (hdotted : ∀ c ∈ compatibilityForm s.toList, c.toNat ≠ 0x130) :
    normalize (lower s) = normalize s ↔
      (compatibilityForm (lower s).toList).flatMap lowerChars =
        (compatibilityForm s.toList).flatMap lowerChars := by
  have hwords := Text.wordsIn_eq_iff (Text.alike_lowerFrom s.toList [])
  rw [Text.normalize_eq_iff, toList_lower, Text.flatMap_lowerChars_of_not_dotted hdotted,
    Text.flatMap_lowerChars_of_not_dotted (Text.not_dotted_of_lowerFrom hdotted)]
  exact hwords

/-! ## Separators without case -/

namespace Text

/-- A character that is its own lower case and is in that of no other. -/
structure Caseless (c : Char) : Prop where
  small : IsSmall c
  only : ∀ d, c ∈ lowerChars d → d = c

theorem caseless_of_not_letter {c : Char} (hletter : letterBits.testBit c.toNat = false)
    (hdot : c.toNat ≠ 0x307) (hdotted : c.toNat ≠ 0x130) : Caseless c := by
  have hnot : ¬IsLetter c := by
    rw [IsLetter, hletter]
    exact Bool.false_ne_true
  have hself : lowerChar c = c := Decidable.byContradiction fun hne => hnot (isLetter_of_ne hne).1
  refine ⟨isSmall_iff.mpr ⟨hself, hdotted⟩, fun d hd => ?_⟩
  by_cases hd' : d.toNat = 0x130
  · rw [lowerChars, if_pos hd', List.mem_cons, List.mem_singleton] at hd
    rcases hd with rfl | rfl
    · exact absurd hletter (by decide +kernel)
    · exact absurd (by decide) hdot
  · rw [lowerChars_eq hd', List.mem_singleton] at hd
    subst hd
    exact (Decidable.byContradiction fun hne => hnot (isLetter_of_ne fun h => hne h.symm).2)

section Caseless

variable {separator : List Char}

/-- A separator that a text in lower case begins with was there before. -/
theorem prefix_of_flatMap_lowerChars (h : ∀ c ∈ separator, Caseless c) :
    ∀ {text : List Char}, separator <+: text.flatMap lowerChars → separator <+: text := by
  induction separator with
  | nil => exact fun _ => List.nil_prefix
  | cons c separator ih =>
    intro text hfront
    obtain ⟨hc, hseparator⟩ := List.forall_mem_cons.mp h
    cases text with
    | nil => exact absurd (List.prefix_nil.mp hfront) (List.cons_ne_nil c separator)
    | cons d text =>
      obtain ⟨e, more, heq⟩ := List.exists_cons_of_ne_nil (lowerChars_ne_nil d)
      rw [List.flatMap_cons, heq, List.cons_append, List.cons_prefix_cons] at hfront
      obtain ⟨rfl, hrest⟩ := hfront
      obtain rfl := hc.only d (heq ▸ List.mem_cons_self)
      obtain ⟨-, rfl⟩ := List.cons.inj (heq.symm.trans hc.small)
      exact (List.cons_prefix_cons).mpr ⟨rfl, ih hseparator hrest⟩

/-- Wherever a separator stands in a text in lower case, it stood at that place of the text. -/
theorem exists_prefix_drop (hne : separator ≠ []) (h : ∀ c ∈ separator, Caseless c) :
    ∀ {text : List Char} {n : Nat}, separator <+: (text.flatMap lowerChars).drop n →
      ∃ m, separator <+: text.drop m ∧ n = ((text.take m).flatMap lowerChars).length := by
  intro text
  induction text with
  | nil =>
    intro n hfront
    rw [List.flatMap_nil, List.drop_nil] at hfront
    exact absurd (List.prefix_nil.mp hfront) hne
  | cons d text ih =>
    intro n hfront
    rcases Nat.eq_zero_or_pos n with rfl | hpos
    · exact ⟨0, prefix_of_flatMap_lowerChars h hfront, rfl⟩
    rw [List.flatMap_cons] at hfront
    rcases Nat.lt_or_ge n (lowerChars d).length with hinside | hbehind
    · -- the lower case of a single character has no separator in its midst
      obtain ⟨c, more, rfl⟩ := List.exists_cons_of_ne_nil hne
      rw [List.drop_append_of_le_length (Nat.le_of_lt hinside)] at hfront
      have hmem : c ∈ (lowerChars d).drop n := by
        obtain ⟨e, rest, heq⟩ := List.exists_cons_of_ne_nil
          (mt List.drop_eq_nil_iff.mp (Nat.not_le_of_lt hinside))
        rw [heq, List.cons_append, List.cons_prefix_cons] at hfront
        rw [heq, hfront.1]
        exact List.mem_cons_self
      have hc := h c List.mem_cons_self
      obtain rfl := hc.only d (List.mem_of_mem_drop hmem)
      rw [hc.small, List.length_singleton] at hinside
      omega
    · rw [List.drop_append, List.drop_eq_nil_of_le hbehind, List.nil_append] at hfront
      obtain ⟨m, hm, hn⟩ := ih hfront
      refine ⟨m + 1, hm, ?_⟩
      rw [List.take_succ_cons, List.flatMap_cons, List.length_append, ← hn]
      omega

/-- **A text is cut in lower case where it is cut as it stands.** -/
theorem LeftmostSplit.flatMap_lowerChars (hne : separator ≠ [])
    (hcaseless : ∀ c ∈ separator, Caseless c) {text : List Char} {parts : List (List Char)}
    (h : LeftmostSplit separator text parts) :
    LeftmostSplit separator (text.flatMap lowerChars) (parts.map (List.flatMap lowerChars)) := by
  induction h with
  | last absent =>
    refine .last fun n hfront => ?_
    obtain ⟨m, hm, -⟩ := exists_prefix_drop hne hcaseless hfront
    exact absent m hm
  | @next before after parts first rest ih =>
    have happend : (before ++ (separator ++ after)).flatMap lowerChars =
        before.flatMap lowerChars ++ (separator ++ after.flatMap lowerChars) := by
      rw [List.flatMap_append, List.flatMap_append,
        flatMap_lowerChars_small fun c hc => (hcaseless c hc).small]
    rw [happend, List.map_cons]
    refine .next (fun n hn hfront => ?_) ih
    rw [← happend] at hfront
    obtain ⟨m, hm, rfl⟩ := exists_prefix_drop hne hcaseless hfront
    have hlate : before.length ≤ m := not_prefix_drop_of_first first hm
    rw [List.take_append, List.take_of_length_le hlate, List.flatMap_append,
      List.length_append] at hn
    omega

theorem LeftmostSplit.subset {text : List Char} {parts : List (List Char)}
    (h : LeftmostSplit separator text parts) : ∀ part ∈ parts, part ⊆ text := by
  induction h with
  | last absent =>
    intro part hpart
    rw [List.mem_singleton.mp hpart]
    exact List.Subset.refl _
  | @next before after parts first rest ih =>
    intro part hpart
    rcases List.mem_cons.mp hpart with rfl | hpart
    · exact List.subset_append_left _ _
    · exact fun c hc => by simp [ih part hpart hc]

end Caseless

end Text

theorem PartsEncoder.split_lower (e : PartsEncoder)
    (hcaseless : ∀ c ∈ e.separator.toList, Text.Caseless c) {s : String}
    (hsigma : lowerFrom [] s.toList = s.toList.flatMap lowerChars) :
    (e.split (lower s)).map String.toList =
      (e.split s).map fun part => part.toList.flatMap lowerChars := by
  have hne : e.separator.toList ≠ [] := fun hnil => e.separates (String.toList_eq_nil_iff.mp hnil)
  have hlower := Text.leftmostSplit_splitAround e.separates (lower s)
  rw [toList_lower, hsigma] at hlower
  have hparts := (Text.leftmostSplit_splitAround e.separates s).flatMap_lowerChars hne hcaseless
  rw [List.map_map] at hparts
  exact hlower.unique hparts

theorem PartsEncoder.encode_lower (e : PartsEncoder)
    (hcaseless : ∀ c ∈ e.separator.toList, Text.Caseless c) {s : String} (h : EvenlyCased s)
    (hparts : ∀ part ∈ e.split s, Text.ComposesEvenly part.toList) :
    TextEncoder.encode e (lower s) = TextEncoder.encode e s := by
  refine BucketEncoder.encodeParts_congr ?_ e.base
  have hlunate : ∀ part ∈ e.split s, ∀ c ∈ part.toList, c.toNat ≠ 0x3F9 := fun part hpart c hc =>
    h.lunate c ((Text.leftmostSplit_splitAround e.separates s).subset _
      (List.mem_map_of_mem hpart) hc)
  calc (e.split (lower s)).map normalize
      = ((e.split (lower s)).map String.toList).map fun cs => normalize (String.ofList cs) := by
        simp only [List.map_map, Function.comp_def, String.ofList_toList]
    _ = (e.split s).map fun part => normalize (String.ofList (part.toList.flatMap lowerChars)) := by
        rw [e.split_lower hcaseless h.sigma, List.map_map, Function.comp_def]
    _ = (e.split s).map normalize := by
        refine List.map_congr_left fun part hpart => ?_
        rw [Text.normalize_eq_iff, String.toList_ofList]
        exact wordsIn_flatMap_lowerChars (hlunate part hpart) (hparts part hpart)

/-! ## Case variants -/

/--
**A text and its lower case have one normal spelling exactly if their composed compatibility forms
are the same in lower case**, as long as the form of the text has no capital I with a dot; and they
are the same for every evenly cased text. Then every encoder for words has one vector for both; and
so has an encoder for parts, if its separator has no case and the parts compose evenly too.
-/
theorem caseVariants_alike (s : String) :
    ((∀ c ∈ compatibilityForm s.toList, c.toNat ≠ 0x130) →
      (normalize (lower s) = normalize s ↔
        (compatibilityForm (lower s).toList).flatMap lowerChars =
          (compatibilityForm s.toList).flatMap lowerChars)) ∧
    (EvenlyCased s → normalize (lower s) = normalize s) ∧
    (normalize (lower s) = normalize s →
      ∀ e : BucketEncoder, TextEncoder.encode e (lower s) = TextEncoder.encode e s) ∧
    (EvenlyCased s → ∀ e : PartsEncoder, (∀ c ∈ e.separator.toList, Text.Caseless c) →
      (∀ part ∈ e.split s, Text.ComposesEvenly part.toList) →
        TextEncoder.encode e (lower s) = TextEncoder.encode e s) := by
  refine ⟨normalize_lower_iff, EvenlyCased.normalize_lower, fun h e => ?_,
    fun h e hcaseless hparts => e.encode_lower hcaseless h hparts⟩
  have hparts : [lower s].map normalize = [s].map normalize := by
    rw [List.map_singleton, List.map_singleton, h]
  exact BucketEncoder.encodeParts_congr hparts e

/-- An encoder for names of places and of parts of them. -/
def places : PartsEncoder :=
  (PartsEncoder.train PartsEncoder.headings ["Crète / Ida"] {}).state

/-- An H and a line below compose in lower case only; an E and a grave accent in both cases. -/
theorem caseVariants_alike_crete :
    normalize (lower "H\u0331") ≠ normalize "H\u0331" ∧
      EvenlyCased "CRE\u0300TE / Ida" ∧
      normalize (lower "CRE\u0300TE / Ida") = normalize "CRE\u0300TE / Ida" ∧
      TextEncoder.encode places.base (lower "CRE\u0300TE / Ida") =
        TextEncoder.encode places.base "CRE\u0300TE / Ida" ∧
      TextEncoder.encode places (lower "CRE\u0300TE / Ida") =
        TextEncoder.encode places "CRE\u0300TE / Ida" := by
  have hnotDotted : ∀ c ∈ compatibilityForm "H\u0331".toList, c.toNat ≠ 0x130 :=
    Text.ne_of_code_not_mem (by decide +kernel)
  have hlate := (caseVariants_alike "H\u0331").1 hnotDotted
  have hcased : EvenlyCased "CRE\u0300TE / Ida" :=
    ⟨by decide +kernel, Text.ne_of_code_not_mem (by decide +kernel), by decide +kernel⟩
  have hseparator : ∀ c ∈ defaultSeparator.toList, Text.Caseless c := by
    intro c hc
    have hplain : ∀ n ∈ defaultSeparator.toList.map Char.toNat,
        Text.letterBits.testBit n = false ∧ n ≠ 0x307 ∧ n ≠ 0x130 := by decide +kernel
    obtain ⟨hletter, hdot, hdotted⟩ := hplain _ (List.mem_map_of_mem hc)
    exact Text.caseless_of_not_letter hletter hdot hdotted
  have hparts : ∀ part ∈ Text.splitAround defaultSeparator "CRE\u0300TE / Ida",
      Text.ComposesEvenly part.toList := by decide +kernel
  obtain ⟨-, hspelling, hwords, hencode⟩ := caseVariants_alike "CRE\u0300TE / Ida"
  have hsame := hspelling hcased
  exact ⟨hlate.not.mpr (by decide +kernel), hcased, hsame, hwords hsame places.base,
    hencode hcased places hseparator hparts⟩

/-- An h and a line below are composed to one letter, an H and the line are not. -/
theorem not_forall_caseVariants : ¬ ∀ s : String, normalize s = normalize (lower s) ∧
    ∀ e : BucketEncoder, e.vocabulary.isSome →
      TextEncoder.encode e s = TextEncoder.encode e (lower s) := by
  intro h
  have hcapital : normalize "H\u0331" = "h" := by decide +kernel
  have hsmall : normalize (lower "H\u0331") = "\u1E96" := by decide +kernel
  have heq := (h "H\u0331").1
  rw [hcapital, hsmall] at heq
  exact absurd heq (by decide)

end Gazetteer
