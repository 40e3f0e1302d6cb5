import Gazetteer.Proofs.Text.Blanks
import Gazetteer.Proofs.Text.SmallLetters
import Mathlib.Data.List.Infix

/-!
# Words and the runs they come from

The words of a text are read back from its normal spelling, because no word has a blank in it; so
**two texts have the same normal spelling exactly if they have the same words**
(`normalize_eq_iff`). A word is made from a run of letters and digits in the composed compatibility
form (`letterRuns`), by putting it in lower case (`wordsIn_eq_map`).
-/

set_option autoImplicit false

namespace Gazetteer.Text

/-! ## Splitting at blanks -/

/-- Something that is not split, and not nothing. -/
structure IsWord (w : List Char) : Prop where
  ne_nil : w ≠ []
  unbroken : ∀ c ∈ w, isBlank c = false

section Splitting

variable {w : List Char}

theorem splitBlankFrom_append (h : ∀ c ∈ w, isBlank c = false) (rest : List Char) :
    ∀ current : List Char,
      splitBlankFrom current (w ++ rest) = splitBlankFrom (w.reverse ++ current) rest := by
  induction w with
  | nil => exact fun _ => rfl
  | cons c w ih =>
    intro current
    obtain ⟨hc, hw⟩ := List.forall_mem_cons.mp h
    rw [List.cons_append, splitBlankFrom, if_neg (by simp [hc]), ih hw, List.reverse_cons,
      List.append_assoc]
    rfl

theorem splitBlank_word (h : IsWord w) : splitBlank w = [w] := by
  have hsplit := splitBlankFrom_append h.unbroken [] []
  rw [List.append_nil, List.append_nil] at hsplit
  rw [splitBlank, hsplit, splitBlankFrom, List.reverse_reverse, if_neg]
  simpa using h.ne_nil

theorem splitBlank_append_space (before after : List Char) :
    splitBlank (before ++ ' ' :: after) = splitBlank before ++ splitBlank after :=
  splitBlankFrom_append_cons (by decide) after before []

/-- Words are read back from a text that has a space between them. -/
theorem splitBlank_intercalate {words : List (List Char)} (h : ∀ w ∈ words, IsWord w) :
    splitBlank ([' '].intercalate words) = words := by
  induction words with
  | nil => rfl
  | cons w words ih =>
    obtain ⟨hw, hwords⟩ := List.forall_mem_cons.mp h
    cases words with
    | nil => rw [List.intercalate_singleton, splitBlank_word hw]
    | cons v words =>
      rw [List.intercalate_cons_cons, List.append_assoc, List.singleton_append,
        splitBlank_append_space, splitBlank_word hw, ih hwords]
      rfl

theorem isWord_of_mem_splitBlankFrom {w : List Char} :
    ∀ {cs current : List Char}, (∀ c ∈ current, isBlank c = false) →
      w ∈ splitBlankFrom current cs → IsWord w := by
  intro cs
  induction cs with
  | nil =>
    intro current hcurrent hw
    rw [splitBlankFrom] at hw
    split at hw
    · cases hw
    · rename_i hne
      obtain rfl := List.mem_singleton.mp hw
      exact ⟨by simpa using hne, fun c hc => hcurrent c (List.mem_reverse.mp hc)⟩
  | cons c cs ih =>
    intro current hcurrent hw
    have hnone : ∀ c ∈ ([] : List Char), isBlank c = false := fun c hc => absurd hc List.not_mem_nil
    rw [splitBlankFrom] at hw
    split at hw
    · split at hw
      · exact ih hnone hw
      · rename_i hne
        rcases List.mem_cons.mp hw with rfl | hw
        · exact ⟨by simpa using hne, fun c hc => hcurrent c (List.mem_reverse.mp hc)⟩
        · exact ih hnone hw
    · rename_i hc
      exact ih (List.forall_mem_cons.mpr ⟨by simpa using hc, hcurrent⟩) hw

theorem isWord_of_mem_wordsIn {cs : List Char} (h : w ∈ wordsIn cs) : IsWord w :=
  isWord_of_mem_splitBlankFrom (fun _ hc => absurd hc List.not_mem_nil) h

end Splitting

/-! ## Comparing what is split -/

section Comparing

variable {a b : Char} {front current rest rest' : List Char}

/-- What is split alike is split alike behind a common front. -/
theorem splitBlankFrom_drop_front : ∀ {current : List Char},
    splitBlankFrom current (front ++ rest) = splitBlankFrom current (front ++ rest') →
      ∃ current', splitBlankFrom current' rest = splitBlankFrom current' rest' := by
  induction front with
  | nil => exact fun h => ⟨_, h⟩
  | cons c front ih =>
    intro current h
    rw [List.cons_append, List.cons_append, splitBlankFrom, splitBlankFrom] at h
    split at h
    · split at h
      · exact ih h
      · exact ih (List.cons.inj h).2
    · exact ih h

/-- A word under way is the beginning of the first word. -/
theorem exists_splitBlankFrom_eq : ∀ rest current : List Char, current ≠ [] →
    ∃ more words, splitBlankFrom current rest = (current.reverse ++ more) :: words := by
  intro rest
  induction rest with
  | nil =>
    intro current hne
    exact ⟨[], [], by rw [splitBlankFrom, if_neg (by simpa using hne), List.append_nil]⟩
  | cons c rest ih =>
    intro current hne
    by_cases hc : isBlank c = true
    · refine ⟨[], splitBlankFrom [] rest, ?_⟩
      rw [splitBlankFrom, if_pos hc, if_neg (by simpa using hne), List.append_nil]
    · obtain ⟨more, words, h⟩ := ih (c :: current) (List.cons_ne_nil c current)
      refine ⟨c :: more, words, ?_⟩
      rw [splitBlankFrom, if_neg hc, h, List.reverse_cons, List.append_assoc]
      rfl

theorem splitBlankFrom_cons_of_unbroken (ha : isBlank a = false) :
    splitBlankFrom current (a :: rest) = splitBlankFrom (a :: current) rest := by
  rw [splitBlankFrom, if_neg (by simp [ha])]

theorem eq_of_splitBlankFrom (ha : isBlank a = false) (hb : isBlank b = false)
    (h : splitBlankFrom current (a :: rest) = splitBlankFrom current (b :: rest')) : a = b := by
  rw [splitBlankFrom_cons_of_unbroken ha, splitBlankFrom_cons_of_unbroken hb] at h
  obtain ⟨more, words, heq⟩ := exists_splitBlankFrom_eq rest _ (List.cons_ne_nil a current)
  obtain ⟨more', words', heq'⟩ :=
    exists_splitBlankFrom_eq rest' _ (List.cons_ne_nil b current)
  rw [heq, heq', List.reverse_cons, List.reverse_cons, List.append_assoc, List.append_assoc] at h
  exact (List.cons.inj (List.append_cancel_left (List.cons.inj h).1)).1

/-- A word that goes on is not the word that ends. -/
theorem splitBlankFrom_ne (ha : isBlank a = false) (hb : isBlank b = true) (hne : current ≠ []) :
    splitBlankFrom current (a :: rest) ≠ splitBlankFrom current (b :: rest') := by
  intro h
  obtain ⟨more, words, heq⟩ := exists_splitBlankFrom_eq rest _ (List.cons_ne_nil a current)
  rw [splitBlankFrom_cons_of_unbroken ha, heq, splitBlankFrom, if_pos hb,
    if_neg (by simpa using hne)] at h
  have hlength := congrArg List.length (List.cons.inj h).1
  simp at hlength

end Comparing

/-! ## Normal spelling -/

theorem toList_normalize (s : String) :
    (normalize s).toList = [' '].intercalate (wordsIn s.toList) := by
  rw [normalize, String.toList_intercalate, wordsOf_eq, List.map_map]
  simp [Function.comp_def]

/-- The words of a text are what its normal spelling is split into. -/
theorem splitBlank_normalize (s : String) : splitBlank (normalize s).toList = wordsIn s.toList := by
  rw [toList_normalize]
  exact splitBlank_intercalate fun w => isWord_of_mem_wordsIn

/-- **Two texts have the same normal spelling exactly if they have the same words.** -/
theorem normalize_eq_iff {s t : String} :
    normalize s = normalize t ↔ wordsIn s.toList = wordsIn t.toList := by
  constructor
  · intro h
    rw [← splitBlank_normalize, h, splitBlank_normalize]
  · intro h
    rw [normalize, normalize, wordsOf_eq, wordsOf_eq, h]

/-- The words of words with a space between them are their words. -/
theorem wordsIn_intercalate (texts : List (List Char)) :
    wordsIn ([' '].intercalate texts) = texts.flatMap wordsIn := by
  induction texts with
  | nil => rfl
  | cons text texts ih =>
    cases texts with
    | nil => rw [List.intercalate_singleton, List.flatMap_singleton]
    | cons next texts =>
      rw [List.intercalate_cons_cons, List.append_assoc, List.singleton_append,
        wordsIn_append_space, ih]
      rfl

/-- What can be done on both sides of a space apart can be done to each text with spaces between. -/
theorem apply_intercalate {f : List Char → List Char} (hnil : f [] = [])
    (happend : ∀ before after, f (before ++ ' ' :: after) = f before ++ ' ' :: f after)
    (texts : List (List Char)) :
    f ([' '].intercalate texts) = [' '].intercalate (texts.map f) := by
  induction texts with
  | nil => exact hnil
  | cons text texts ih =>
    cases texts with
    | nil => rw [List.intercalate_singleton, List.map_singleton, List.intercalate_singleton]
    | cons next texts =>
      rw [List.intercalate_cons_cons, List.append_assoc, List.singleton_append, happend, ih]
      simp [List.intercalate_cons_cons]

theorem compatibilityForm_intercalate (texts : List (List Char)) :
    compatibilityForm ([' '].intercalate texts) =
      [' '].intercalate (texts.map compatibilityForm) :=
  apply_intercalate rfl (compatibilityForm_append_cons inert_space) texts

theorem infix_intercalate {w : List Char} {words : List (List Char)} (h : w ∈ words) :
    w <:+: [' '].intercalate words := by
  induction words with
  | nil => cases h
  | cons v words ih =>
    cases words with
    | nil =>
      rw [List.mem_singleton.mp h, List.intercalate_singleton]
    | cons u words =>
      rw [List.intercalate_cons_cons]
      rcases List.mem_cons.mp h with rfl | h
      · rw [List.append_assoc]
        exact (List.prefix_append w _).isInfix
      · exact (ih h).trans (List.suffix_append _ _).isInfix

theorem wordsIn_normalize (s : String) :
    wordsIn (normalize s).toList = (wordsIn s.toList).flatMap wordsIn := by
  rw [toList_normalize, wordsIn_intercalate]

/-! ## Runs of letters and digits -/

theorem not_blank_of_alphanumeric {c : Char} (h : isAlphanumeric c = true) : isBlank c = false := by
  have hapart : alphanumericRanges.bits &&& blankRanges.bits = 0 := by decide +kernel
  rw [isAlphanumeric, ← CodePoints.testBit_bits] at h
  rw [isBlank, ← CodePoints.testBit_bits]
  exact testBit_of_disjoint hapart h

/-- The characters of words, and a space for any other. -/
def keepAlphanumeric (c : Char) : Char := if isAlphanumeric c then c else ' '

theorem isBlank_keepAlphanumeric (c : Char) :
    isBlank (keepAlphanumeric c) = !isAlphanumeric c := by
  have hspace : isBlank ' ' = true := by decide
  unfold keepAlphanumeric
  cases hc : isAlphanumeric c with
  | true => exact not_blank_of_alphanumeric hc
  | false => exact hspace

/-- The maximal runs of letters and digits. -/
def letterRuns (cs : List Char) : List (List Char) := splitBlank (cs.map keepAlphanumeric)

theorem letterRuns_from {run : List Char} : ∀ {cs current : List Char},
    (∀ c ∈ current, isAlphanumeric c = true) →
      run ∈ splitBlankFrom current (cs.map keepAlphanumeric) →
        run <:+: current.reverse ++ cs ∧ ∀ c ∈ run, isAlphanumeric c = true := by
  intro cs
  induction cs with
  | nil =>
    intro current hcurrent hrun
    rw [List.map_nil, splitBlankFrom] at hrun
    split at hrun
    · cases hrun
    · obtain rfl := List.mem_singleton.mp hrun
      exact ⟨⟨[], [], by simp⟩, fun c hc => hcurrent c (List.mem_reverse.mp hc)⟩
  | cons c cs ih =>
    intro current hcurrent hrun
    have hbehind (h : run ∈ splitBlankFrom [] (cs.map keepAlphanumeric)) :
        run <:+: current.reverse ++ c :: cs ∧ ∀ c ∈ run, isAlphanumeric c = true := by
      obtain ⟨hpiece, hall⟩ := ih (fun _ hc => absurd hc List.not_mem_nil) h
      exact ⟨(hpiece.trans (List.infix_cons_iff.mpr (Or.inr (List.infix_refl cs)))).trans
        (List.suffix_append _ _).isInfix, hall⟩
    rw [List.map_cons, splitBlankFrom, isBlank_keepAlphanumeric] at hrun
    cases hc : isAlphanumeric c with
    | true =>
      have hkeep : keepAlphanumeric c = c := by rw [keepAlphanumeric, hc, if_pos rfl]
      simp only [hc, Bool.not_true, Bool.false_eq_true, if_false, hkeep] at hrun
      have hrest := ih (List.forall_mem_cons.mpr ⟨hc, hcurrent⟩) hrun
      rwa [List.reverse_cons, List.append_assoc] at hrest
    | false =>
      simp only [hc, Bool.not_false, if_true] at hrun
      split at hrun
      · exact hbehind hrun
      · rcases List.mem_cons.mp hrun with rfl | hrun
        · exact ⟨(List.prefix_append _ _).isInfix,
            fun c hc => hcurrent c (List.mem_reverse.mp hc)⟩
        · exact hbehind hrun

section Runs

variable {cs run : List Char}

theorem infix_of_mem_letterRuns (h : run ∈ letterRuns cs) : run <:+: cs :=
  (letterRuns_from (fun _ hc => absurd hc List.not_mem_nil) h).1

theorem alphanumeric_of_mem_letterRuns (h : run ∈ letterRuns cs) :
    ∀ c ∈ run, isAlphanumeric c = true :=
  (letterRuns_from (fun _ hc => absurd hc List.not_mem_nil) h).2

theorem ne_nil_of_mem_letterRuns (h : run ∈ letterRuns cs) : run ≠ [] :=
  (isWord_of_mem_splitBlankFrom (fun _ hc => absurd hc List.not_mem_nil) h).ne_nil

end Runs

theorem map_keepAlphanumeric {w : List Char} (h : ∀ c ∈ w, isAlphanumeric c = true) :
    w.map keepAlphanumeric = w := by
  refine (List.map_congr_left fun c hc => ?_).trans (List.map_id w)
  rw [keepAlphanumeric, if_pos (h c hc), id_eq]

/-- Letters and digits on their own are one run. -/
theorem letterRuns_word {w : List Char} (hne : w ≠ []) (h : ∀ c ∈ w, isAlphanumeric c = true) :
    letterRuns w = [w] := by
  rw [letterRuns, map_keepAlphanumeric h]
  exact splitBlank_word ⟨hne, fun c hc => not_blank_of_alphanumeric (h c hc)⟩

/-- What is split behind a front is the end of what is split. -/
theorem exists_suffix_splitBlankFrom (rest : List Char) :
    ∀ front current : List Char,
      ∃ current', splitBlankFrom current' rest <:+ splitBlankFrom current (front ++ rest) := by
  intro front
  induction front with
  | nil => exact fun current => ⟨current, List.suffix_refl _⟩
  | cons c front ih =>
    intro current
    rw [List.cons_append, splitBlankFrom]
    split
    · split
      · exact ih []
      · obtain ⟨current', h⟩ := ih []
        exact ⟨current', h.trans (List.suffix_cons _ _)⟩
    · exact ih (c :: current)

/-- A piece made of letters and digits lies within a run. -/
theorem exists_letterRun {piece : List Char} (hne : piece ≠ [])
    (hpiece : ∀ c ∈ piece, isAlphanumeric c = true) {cs : List Char} (h : piece <:+: cs) :
    ∃ run ∈ letterRuns cs, piece <:+: run := by
  obtain ⟨front, back, rfl⟩ := h
  have hunbroken : ∀ c ∈ piece, isBlank c = false := fun c hc =>
    not_blank_of_alphanumeric (hpiece c hc)
  obtain ⟨current, hsuffix⟩ := exists_suffix_splitBlankFrom (piece ++ back.map keepAlphanumeric)
    (front.map keepAlphanumeric) []
  obtain ⟨more, words, heq⟩ := exists_splitBlankFrom_eq (back.map keepAlphanumeric)
    (piece.reverse ++ current) (by simp [hne])
  rw [splitBlankFrom_append hunbroken, heq] at hsuffix
  refine ⟨(piece.reverse ++ current).reverse ++ more, ?_, current.reverse, more, ?_⟩
  · rw [letterRuns, List.map_append, List.map_append, map_keepAlphanumeric hpiece,
      List.append_assoc]
    exact hsuffix.subset List.mem_cons_self
  · rw [List.reverse_append, List.reverse_reverse]

/-! ## Words in lower case -/

theorem lowerChars_ne_nil (c : Char) : lowerChars c ≠ [] := by
  unfold lowerChars
  split
  · exact List.cons_ne_nil _ _
  · split <;> exact List.cons_ne_nil _ _

theorem lowerChars_unbroken {c : Char} (h : isAlphanumeric c = true) :
    ∀ d ∈ lowerChars c, isBlank d = false := by
  by_cases hdotted : c.toNat = 0x130
  · unfold lowerChars
    rw [if_pos hdotted]
    exact List.forall_mem_cons.mpr ⟨by decide, List.forall_mem_singleton.mpr (by decide)⟩
  · intro d hd
    rw [lowerChars_eq hdotted, List.mem_singleton] at hd
    rw [hd]
    exact not_blank_of_alphanumeric (by rwa [isAlphanumeric_lowerChar])

/-- A word under way is put in lower case. -/
def lowerCurrent (current : List Char) : List Char := (current.reverse.flatMap lowerChars).reverse

theorem isEmpty_lowerCurrent (current : List Char) :
    (lowerCurrent current).isEmpty = current.isEmpty := by
  cases current with
  | nil => rfl
  | cons c current =>
    have hne : lowerCurrent (c :: current) ≠ [] := by
      intro h
      refine lowerChars_ne_nil c (List.flatMap_eq_nil_iff.mp (List.reverse_eq_nil_iff.mp h) c ?_)
      exact List.mem_reverse.mpr List.mem_cons_self
    simpa using hne

theorem reverse_lowerCurrent (current : List Char) :
    (lowerCurrent current).reverse = current.reverse.flatMap lowerChars := List.reverse_reverse _

theorem lowerCurrent_cons (c : Char) (current : List Char) :
    lowerCurrent (c :: current) = (lowerChars c).reverse ++ lowerCurrent current := by
  simp [lowerCurrent]

theorem splitBlankFrom_flatMap_foldChar : ∀ cs current : List Char,
    splitBlankFrom (lowerCurrent current) (cs.flatMap foldChar) =
      (splitBlankFrom current (cs.map keepAlphanumeric)).map (List.flatMap lowerChars) := by
  intro cs
  induction cs with
  | nil =>
    intro current
    rw [List.flatMap_nil, List.map_nil, splitBlankFrom, splitBlankFrom, isEmpty_lowerCurrent,
      reverse_lowerCurrent]
    split <;> rfl
  | cons c cs ih =>
    intro current
    rw [List.flatMap_cons, List.map_cons, foldChar, splitBlankFrom, isBlank_keepAlphanumeric]
    cases hc : isAlphanumeric c with
    | true =>
      have hkeep : keepAlphanumeric c = c := by rw [keepAlphanumeric, hc, if_pos rfl]
      rw [if_pos rfl, splitBlankFrom_append (lowerChars_unbroken hc), hkeep, if_neg (by simp),
        ← ih, lowerCurrent_cons]
    | false =>
      have hspace : isBlank ' ' = true := by decide
      have hrest : splitBlankFrom [] (cs.flatMap foldChar) =
          (splitBlankFrom [] (cs.map keepAlphanumeric)).map (List.flatMap lowerChars) := ih []
      rw [if_neg (by simp), List.singleton_append, splitBlankFrom, if_pos hspace,
        isEmpty_lowerCurrent, reverse_lowerCurrent, hrest, Bool.not_false, if_pos rfl]
      cases current <;> rfl

/-- **The words of a text are the runs of letters and digits in its form, in lower case.** -/
theorem wordsIn_eq_map (cs : List Char) :
    wordsIn cs = (letterRuns (compatibilityForm cs)).map (List.flatMap lowerChars) :=
  splitBlankFrom_flatMap_foldChar _ []

end Gazetteer.Text
