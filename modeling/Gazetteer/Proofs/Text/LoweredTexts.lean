import Gazetteer.Proofs.Text.CaseVariants

/-!
# Composed texts in lower case

A composed text need not be composed any more when it is put in lower case: a mark that no capital is
joined to may be joined to the small letter. Among letters that concerns a few accented Greek
capitals and the iota below alone (`LateIota`), since all other marks of uneven pairs are no letters.
**A composed word stays composed in lower case exactly if no such iota follows such a capital**
(`IsComposed.map_lowerChar`, `not_isComposed_late`); and what has been made of it by composing once
more, has no capitals left and stays as it is.
-/

set_option autoImplicit false

namespace Gazetteer.Text

open List (Forall₂)

/-! ## Lower case before and after taking apart -/

/-- A character that can be put in lower case before it is taken apart or after. -/
def CaseCommutes (c : Char) : Prop := (lowerChars c).flatMap decompose = (decompose c).map lowerChar

section CaseCommutes

variable {a c m j : Char} {cs parts : List Char}

theorem not_dotted_of_decompose (h : decompose c = [c]) : c.toNat ≠ 0x130 := by
  intro hdotted
  have hparts : decompose (Char.ofNat 0x130) ≠ [Char.ofNat 0x130] := by decide +kernel
  rw [← hdotted, Char.ofNat_toNat] at hparts
  exact hparts h

theorem caseCommutes_of_lowerChar_eq (hdotted : c.toNat ≠ 0x130)
    (h : decompose (lowerChar c) = (decompose c).map lowerChar) : CaseCommutes c := by
  rw [CaseCommutes, lowerChars_eq hdotted, List.flatMap_singleton, h]

theorem caseCommutes_of_capital (hcapital : lowerChar c ≠ c) (hsign : c.toNat ∉ letterSigns) :
    CaseCommutes c :=
  caseCommutes_of_lowerChar_eq (isLetter_of_ne hcapital).1.not_dotted
    (decompose_lowerChar hcapital fun h => hsign (h ▸ List.mem_cons_self))

theorem caseCommutes_of_decompose (h : decompose c = [c]) : CaseCommutes c := by
  by_cases hself : lowerChar c = c
  · refine caseCommutes_of_lowerChar_eq (not_dotted_of_decompose h) ?_
    rw [hself, h, List.map_singleton, hself]
  · exact caseCommutes_of_capital hself (not_sign_of_decompose h)

/-- A small letter is composed of a small letter, so what it is taken apart into stays as it is. -/
theorem CaseCommutes.of_composePair (ha : CaseCommutes a) (h : composePair a m = some j) :
    CaseCommutes j := by
  by_cases hdotted : j.toNat = 0x130
  · rw [eq_ofNat hdotted, CaseCommutes]
    decide +kernel
  by_cases hself : lowerChar j = j
  · have hsmall : lowerChar a = a :=
      (isSmall_iff_of_composePair h).mp (isSmall_iff.mpr ⟨hself, hdotted⟩)
    have hnotDotted : a.toNat ≠ 0x130 := by
      intro hadotted
      rw [eq_ofNat hadotted, composePair_dotted.2] at h
      cases h
    rw [CaseCommutes, lowerChars_eq hnotDotted, hsmall, List.flatMap_singleton] at ha
    refine caseCommutes_of_lowerChar_eq hdotted ?_
    rw [hself, (decompose_of_composePair h).1, List.map_append, List.map_singleton,
      lowerChar_second h, ← ha]
  · exact caseCommutes_of_capital hself (not_sign_of_composePair h)

/-- **A composed text can be put in lower case before it is taken apart or after.** -/
theorem IsComposed.flatMap_lowerChars_decompose (h : IsComposed cs) :
    (cs.flatMap lowerChars).flatMap decompose = (cs.flatMap decompose).map lowerChar := by
  rw [List.flatMap_assoc, List.map_flatMap]
  exact List.flatMap_congr (h.forall_mem caseCommutes_of_decompose CaseCommutes.of_composePair)

theorem canonicalOrder_map_lowerChar (cs : List Char) :
    canonicalOrder (cs.map lowerChar) = (canonicalOrder cs).map lowerChar := by
  have haligned : Forall₂ (fun c d => lowerChar c = d) cs (cs.map lowerChar) :=
    List.forall₂_map_right_iff.mpr (List.forall₂_same.mpr fun _ _ => rfl)
  have hordered := alike_canonicalOrder (R := fun c d => lowerChar c = d)
    (fun h => h ▸ combiningClass_lowerChar _) haligned
  rw [← List.forall₂_map_left_iff (R := Eq), List.forall₂_eq_eq_eq] at hordered
  exact hordered.symm

theorem Decomposed.map_lowerChar (h : Decomposed parts) : Decomposed (parts.map lowerChar) where
  whole := by
    intro c hc
    obtain ⟨d, hd, rfl⟩ := List.mem_map.mp hc
    have hwhole := h.whole d hd
    have hcase := caseCommutes_of_decompose hwhole
    rwa [CaseCommutes, lowerChars_eq (not_dotted_of_decompose hwhole), List.flatMap_singleton,
      hwhole, List.map_singleton] at hcase
  ordered := by
    rw [← canonicalOrder_of_ordered h.ordered, ← canonicalOrder_map_lowerChar]
    exact ordered_canonicalOrder _

theorem Decomposed.isSmall_lowerChar (h : Decomposed parts) :
    ∀ c ∈ parts.map lowerChar, IsSmall c := by
  intro c hc
  obtain ⟨d, hd, rfl⟩ := List.mem_map.mp hc
  exact Text.isSmall_lowerChar (not_dotted_of_decompose (h.whole d hd))

/-- There are no capitals in the form of a composed text in lower case. -/
theorem IsComposed.isSmall_form_lower (h : IsComposed cs) :
    ∀ c ∈ compatibilityForm (cs.flatMap lowerChars), IsSmall c := by
  rw [compatibilityForm, h.flatMap_lowerChars_decompose, canonicalOrder_map_lowerChar]
  exact (composes_compose _).forall_mem IsSmall.of_composePair
    (decomposed_canonicalOrder cs).isSmall_lowerChar

end CaseCommutes

/-! ## Late iotas -/

/-- The iota that is written below a letter. -/
def iotaBelow : Char := Char.ofNat 0x345

/-- The accented capitals that an iota below is joined to in lower case only. -/
def iotaCapitals : List Nat := [0x386, 0x389, 0x38F, 0x1FBA, 0x1FCA, 0x1FFA]

/-- A mark that is a letter as well, as the iota below is. -/
structure IsLetterMark (c : Char) : Prop where
  mark : combiningClass c ≠ 0
  letter : isAlphanumeric c = true

instance (c : Char) : Decidable (IsLetterMark c) :=
  decidable_of_iff (combiningClass c ≠ 0 ∧ isAlphanumeric c = true)
    ⟨fun ⟨hmark, hletter⟩ => ⟨hmark, hletter⟩, fun ⟨hmark, hletter⟩ => ⟨hmark, hletter⟩⟩

/-- An iota below that follows one of these capitals, with nothing but such marks between. -/
def LateIota (cs : List Char) : Prop :=
  ∃ capital marks, capital.toNat ∈ iotaCapitals ∧ (∀ m ∈ marks, IsLetterMark m) ∧
    capital :: (marks ++ [iotaBelow]) <:+: cs

/-- Whether an iota below comes next, or after such marks. -/
def leadsToIota : List Char → Bool
  | [] => false
  | c :: rest => c == iotaBelow || decide (IsLetterMark c) && leadsToIota rest

def hasLateIota : List Char → Bool
  | [] => false
  | c :: rest => iotaCapitals.contains c.toNat && leadsToIota rest || hasLateIota rest

section LateIota

variable {c d starter first : Char} {cs ys w held rest out marks : List Char} {P : Char → Char → Prop}

theorem leadsToIota_iff : leadsToIota cs = true ↔
    ∃ marks, (∀ m ∈ marks, IsLetterMark m) ∧ marks ++ [iotaBelow] <+: cs := by
  induction cs with
  | nil => simp [leadsToIota]
  | cons c cs ih =>
    rw [leadsToIota, Bool.or_eq_true, Bool.and_eq_true, beq_iff_eq, decide_eq_true_iff, ih]
    constructor
    · rintro (rfl | ⟨hc, marks, hmarks, hfront⟩)
      · exact ⟨[], fun _ hm => absurd hm List.not_mem_nil, by simp⟩
      · exact ⟨c :: marks, List.forall_mem_cons.mpr ⟨hc, hmarks⟩,
          (List.prefix_cons_inj c).mpr hfront⟩
    · rintro ⟨marks, hmarks, hfront⟩
      cases marks with
      | nil => exact Or.inl (List.cons_prefix_cons.mp hfront).1.symm
      | cons m marks =>
        obtain ⟨rfl, hrest⟩ := List.cons_prefix_cons.mp hfront
        obtain ⟨hm, hmarks⟩ := List.forall_mem_cons.mp hmarks
        exact Or.inr ⟨hm, marks, hmarks, hrest⟩

theorem hasLateIota_iff : hasLateIota cs = true ↔ LateIota cs := by
  unfold LateIota
  induction cs with
  | nil => simp [hasLateIota]
  | cons c cs ih =>
    rw [hasLateIota, Bool.or_eq_true, Bool.and_eq_true, List.contains_iff_mem, leadsToIota_iff, ih]
    constructor
    · rintro (⟨hc, marks, hmarks, hfront⟩ | ⟨capital, marks, hcapital, hmarks, hpiece⟩)
      · exact ⟨c, marks, hc, hmarks, ((List.prefix_cons_inj c).mpr hfront).isInfix⟩
      · exact ⟨capital, marks, hcapital, hmarks, List.infix_cons_iff.mpr (Or.inr hpiece)⟩
    · rintro ⟨capital, marks, hcapital, hmarks, hpiece⟩
      rcases List.infix_cons_iff.mp hpiece with hfront | hpiece
      · obtain ⟨rfl, hrest⟩ := List.cons_prefix_cons.mp hfront
        exact Or.inl ⟨hcapital, marks, hmarks, hrest⟩
      · exact Or.inr ⟨capital, marks, hcapital, hmarks, hpiece⟩

instance (cs : List Char) : Decidable (LateIota cs) := decidable_of_iff _ hasLateIota_iff

theorem LateIota.mono (h : LateIota ys) (hpiece : ys <:+: cs) : LateIota cs := by
  obtain ⟨capital, marks, hcapital, hmarks, hlate⟩ := h
  exact ⟨capital, marks, hcapital, hmarks, hlate.trans hpiece⟩

/-- The iota below is the only letter among the marks of the uneven pairs. -/
theorem uneven_iff (hd : isAlphanumeric d = true) :
    ¬Even c d ↔ c.toNat ∈ iotaCapitals ∧ d = iotaBelow := by
  have hletters : ∀ pair ∈ unevenPairs, isAlphanumeric (Char.ofNat pair.2) = true →
      pair.1 ∈ iotaCapitals ∧ pair.2 = 0x345 := by
    decide +kernel
  have hcapitals : ∀ n ∈ iotaCapitals, (n, 0x345) ∈ unevenPairs := by decide
  unfold Even
  rw [Decidable.not_not]
  constructor
  · intro hpair
    obtain ⟨hc, hd⟩ := hletters _ hpair (by rwa [Char.ofNat_toNat])
    exact ⟨hc, eq_ofNat hd⟩
  · rintro ⟨hc, rfl⟩
    exact hcapitals _ hc

/-- The iota below is the mark that comes last: no other has a class as high. -/
theorem combiningClass_le_iotaBelow (c : Char) : combiningClass c ≤ combiningClass iotaBelow ∧
    (combiningClass c = combiningClass iotaBelow → c = iotaBelow) := by
  have hiota : combiningClass iotaBelow = 240 := by decide +kernel
  have hruns : ∀ run ∈ combiningRuns, run.2.2 ≤ 240 ∧
      (run.2.2 = 240 → run.1 = 0x345 ∧ run.2.1 = 0x345) := by
    decide +kernel
  rw [hiota]
  unfold combiningClass
  split
  · rename_i first last cls hfind
    obtain ⟨hle, hlast⟩ := hruns _ (List.mem_of_find?_eq_some hfind)
    refine ⟨hle, fun hcls => eq_ofNat ?_⟩
    have hcovers := List.find?_some hfind
    simp only [Bool.and_eq_true, decide_eq_true_iff] at hcovers
    obtain ⟨rfl, rfl⟩ := hlast hcls
    omega
  · exact ⟨Nat.zero_le _, nofun⟩

/-! ### Words without one stay composed -/

/--
A word without late iotas was composed evenly. A mark of an uneven pair that was looked up in vain
is an iota below, and stands behind the capital still, since no mark comes after it.
-/
theorem ComposesAfter.even (h : ComposesAfter P starter held rest out) : Waiting held rest →
    (∀ c ∈ out, isAlphanumeric c = true ∧ c.toNat ≠ 0x130) → ¬LateIota out →
      ComposesAfter Even starter held rest out := by
  induction h with
  | done => exact fun _ _ _ => .done
  | @join starter joined c held rest out hreaches _ hpair htail ih =>
    intro hwaiting hout hlate
    refine .join hreaches (Decidable.byContradiction fun hodd => ?_) hpair
      (ih (hwaiting.join hreaches) hout hlate)
    obtain ⟨-, ⟨hnone, -⟩ | ⟨rfl, rfl, -⟩⟩ := uneven_cases hodd
    · rw [hpair] at hnone
      cases hnone
    · obtain rfl := Option.some.inj (composePair_dotted.1.symm.trans hpair)
      obtain ⟨more, rfl⟩ :=
        htail.exists_front_of_joins_nothing composePair_dotted.2 (hwaiting.join hreaches)
      exact (hout _ List.mem_cons_self).2 rfl
  | @next starter c held rest out hapart hbegins htail ih =>
    intro hwaiting hout hlate
    have hrest := ih hwaiting.next (fun c hc => hout c (List.mem_append_right _ hc))
      fun h => hlate (h.mono (List.suffix_append _ _).isInfix)
    refine .next (fun hreaches => ⟨?_, (hapart hreaches).2⟩) hbegins hrest
    exact Decidable.byContradiction fun hodd => (uneven_cases hodd).1 hbegins
  | @wait starter c held rest out hapart hmark htail ih =>
    intro hwaiting hout hlate
    refine .wait (fun hreaches => ⟨?_, (hapart hreaches).2⟩) hmark
      (ih (hwaiting.wait hmark) hout hlate)
    refine Decidable.byContradiction fun hodd => hlate ?_
    obtain ⟨first, more, joined, rfl, -, -, hclasses, hsame⟩ :=
      htail.exists_front (p := fun _ => True) (fun _ _ => trivial) (hwaiting.wait hmark) trivial
    obtain ⟨hcapital, rfl⟩ := (uneven_iff (hout c (by simp)).1).mp hodd
    have hnone : joined = [] := List.eq_nil_iff_forall_not_mem.mpr fun m hm =>
      Nat.not_lt_of_le (combiningClass_le_iotaBelow m).1 (hclasses m hm _ List.mem_cons_self)
    obtain rfl := hsame hnone
    refine ⟨first, held.reverse, hcapital, fun m hm => ⟨?_, (hout m (by simp_all)).1⟩, [], more, ?_⟩
    · exact hwaiting.marks m (List.mem_reverse.mp hm)
    · simp

theorem Composes.even (h : Composes P cs out) : Decomposed cs →
    (∀ c ∈ out, isAlphanumeric c = true ∧ c.toNat ≠ 0x130) → ¬LateIota out →
      Composes Even cs out := by
  induction h with
  | nil => exact fun _ _ _ => .nil
  | @mark c rest out hmark _ ih =>
    intro hcs hout hlate
    exact .mark hmark (ih hcs.tail (List.forall_mem_cons.mp hout).2 fun h =>
      hlate (h.mono (List.suffix_cons c out).isInfix))
  | starter hbegins hblock =>
    exact fun hcs hout hlate => .starter hbegins (hblock.even hcs.waiting hout hlate)

/-- **A composed word without late iotas stays composed in lower case.** -/
theorem IsComposed.map_lowerChar (h : IsComposed w)
    (hw : ∀ c ∈ w, isAlphanumeric c = true ∧ c.toNat ≠ 0x130) (hlate : ¬LateIota w) :
    IsComposed (w.map lowerChar) := by
  obtain ⟨parts, hparts, hrun⟩ := h.exists_composes
  have hvariants : Forall₂ Variant parts (parts.map lowerChar) :=
    List.forall₂_map_right_iff.mpr (List.forall₂_same.mpr fun c _ => variant_lowerChar c)
  obtain ⟨out, hrun', hout⟩ := (hrun.even hparts hw hlate).variants hparts.whole hvariants
  have hsmall : ∀ c ∈ out, IsSmall c :=
    hrun'.forall_mem IsSmall.of_composePair hparts.isSmall_lowerChar
  have heq : out = w.map lowerChar := by
    rw [← map_lowerChar_variants hout, map_lowerChar_small hsmall]
  rw [← heq]
  exact hrun'.isComposed hparts.map_lowerChar

/-! ### Words with one do not -/

/--
Among the marks that wait behind a starter an iota below is only where it could not be joined. It
would have been joined whatever marks stand in between, for none of them is of its class.
-/
theorem ComposesAfter.composePair_iotaBelow (h : ComposesAfter P starter held rest out) :
    Waiting held rest → (iotaBelow ∈ held → composePair starter iotaBelow = none) →
      ∀ {first : Char} {marks : List Char}, out = first :: marks →
        (∀ m ∈ marks, combiningClass m ≠ 0) → iotaBelow ∈ marks →
          composePair first iotaBelow = none := by
  induction h with
  | done =>
    rintro - hheld first marks ⟨⟩ - hiota
    exact hheld (List.mem_reverse.mp hiota)
  | @join starter joined c held rest out hreaches _ hpair _ ih =>
    intro hwaiting _
    refine ih (hwaiting.join hreaches) fun hiota => ?_
    exact absurd (hwaiting.lt_of_reaches hreaches hiota)
      (Nat.not_lt_of_le (combiningClass_le_iotaBelow c).1)
  | @next starter c held rest out _ hbegins htail _ =>
    rintro hwaiting - first marks ⟨⟩ hmarks -
    -- another block begins with a starter
    obtain ⟨second, more, -, rfl, hsecond, -⟩ := htail.exists_front (p := (combiningClass · = 0))
      (fun _ hpair => starter_of_composePair hpair) hwaiting.next hbegins
    exact absurd hsecond (hmarks second (by simp))
  | @wait starter c held rest out hapart hmark _ ih =>
    intro hwaiting hheld
    refine ih (hwaiting.wait hmark) fun hiota => ?_
    rcases List.mem_cons.mp hiota with rfl | hiota
    · by_cases hreaches : Reaches held iotaBelow
      · exact (hapart hreaches).2
      · obtain ⟨d, hd, hle⟩ : ∃ d ∈ held.head?, ¬combiningClass d < combiningClass iotaBelow := by
          simpa [Reaches] using hreaches
        have hclass := Nat.le_antisymm (combiningClass_le_iotaBelow d).1 (Nat.not_lt.mp hle)
        obtain rfl := (combiningClass_le_iotaBelow d).2 hclass
        exact hheld (List.mem_of_mem_head? hd)
    · exact hheld hiota

theorem IsComposed.composePair_iotaBelow (h : IsComposed (first :: marks))
    (hfirst : combiningClass first = 0) (hmarks : ∀ m ∈ marks, combiningClass m ≠ 0)
    (hiota : iotaBelow ∈ marks) : composePair first iotaBelow = none := by
  obtain ⟨parts, hparts, hrun⟩ := h.exists_composes
  cases hrun with
  | mark hmark _ => exact absurd hfirst hmark
  | starter _ hblock =>
    exact hblock.composePair_iotaBelow hparts.waiting (fun h => absurd h List.not_mem_nil) rfl
      hmarks hiota

/-- **In lower case a late iota is not composed with its letter yet.** -/
theorem not_isComposed_late {capital : Char} (hcapital : capital.toNat ∈ iotaCapitals)
    (hmarks : ∀ m ∈ marks, IsLetterMark m) :
    ¬IsComposed (lowerChar capital :: (marks ++ [iotaBelow])) := by
  intro h
  have hiota : IsLetterMark iotaBelow := by decide +kernel
  have hcapitals : ∀ c : Char, c.toNat ∈ iotaCapitals →
      combiningClass c = 0 ∧ composePair (lowerChar c) iotaBelow ≠ none :=
    forall_of_codes (by decide +kernel)
  obtain ⟨hstarter, hjoined⟩ := hcapitals capital hcapital
  refine hjoined (h.composePair_iotaBelow (by rwa [combiningClass_lowerChar]) ?_ (by simp))
  intro m hm
  rcases List.mem_append.mp hm with hm | hm
  · exact (hmarks m hm).mark
  · rw [List.mem_singleton.mp hm]
    exact hiota.mark

end LateIota

end Gazetteer.Text
