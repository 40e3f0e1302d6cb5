import Gazetteer.Text.Language

/-!
# Nothing crosses a space

The composed compatibility form is not made character by character: marks move past each other, and
what follows a letter may be joined to it. A space takes no part in any of this (`Inert`). It is not
taken apart, it is no mark, and it is joined to nothing on either side; so the form of a text with a
space in it is that of what stands before, the space, and that of what stands behind
(`compatibilityForm_append_cons`), whatever marks the second part may begin with.

It follows that the words of a text are those before a space and those behind it
(`wordsIn_append_space`), and that a text which begins and ends with a space keeps its words apart
from all others (`wordsIn_append_spaced`).
-/

set_option autoImplicit false

namespace Gazetteer.Text

/-! ## Characters that stand alone -/

/-- A character that compatibility and composition pass over on both sides. -/
structure Inert (c : Char) : Prop where
  whole : decompose c = [c]
  starter : combiningClass c = 0
  joins_nothing : ∀ d, composePair c d = none
  joined_to_nothing : ∀ d, composePair d c = none

/-- Two characters stay apart if neither the rule for syllables nor the table joins them. -/
theorem composePair_eq_none {a b : Char} (hjoin : Hangul.join? a.toNat b.toNat = none)
    (htable : (compositionRows.lookup a.toNat).bind (List.lookup b.toNat) = none) :
    composePair a b = none := by
  rw [composePair, hjoin, htable]
  rfl

theorem inert_space : Inert ' ' where
  whole := by decide +kernel
  starter := by decide +kernel
  joins_nothing := by
    intro d
    have hrow : compositionRows.lookup ' '.toNat = none := by decide +kernel
    refine composePair_eq_none ?_ (by rw [hrow, Option.bind_none])
    simp [Hangul.join?, Hangul.isSyllable, Hangul.firstLead, Hangul.firstSyllable]
  joined_to_nothing := by
    intro d
    have hrows : ∀ row ∈ compositionRows, row.2.lookup ' '.toNat = none := by decide +kernel
    refine composePair_eq_none (by simp [Hangul.join?, Hangul.firstVowel, Hangul.noTrail]) ?_
    cases hrow : compositionRows.lookup d.toNat with
    | none => rfl
    | some seconds =>
      obtain ⟨before, after, hsplit, -⟩ := List.lookup_eq_some_iff.mp hrow
      have hmem : (d.toNat, seconds) ∈ compositionRows := by
        rw [hsplit]
        exact List.mem_append_right _ List.mem_cons_self
      rw [Option.bind_some, hrows _ hmem]

/-! ## The composed compatibility form -/

/-- No mark moves past a starter. -/
theorem insertMark_append_cons (d : Char) {c : Char} (hc : combiningClass c = 0)
    (after : List Char) :
    ∀ before : List Char,
      insertMark d (before ++ c :: after) = insertMark d before ++ c :: after := by
  intro before
  induction before with
  | nil => simp [insertMark, hc]
  | cons b before ih =>
    rw [List.cons_append, insertMark, insertMark]
    split
    · rw [ih, List.cons_append]
    · rfl

theorem canonicalOrder_append_cons {c : Char} (hc : combiningClass c = 0)
    (before after : List Char) :
    canonicalOrder (before ++ c :: after) = canonicalOrder before ++ c :: canonicalOrder after := by
  induction before with
  | nil =>
    -- the starter is put in front of marks that are in order, and stays there
    show insertMark c (canonicalOrder after) = c :: canonicalOrder after
    cases canonicalOrder after with
    | nil => rfl
    | cons d rest => rw [insertMark, hc, if_neg (by omega)]
  | cons b before ih =>
    show insertMark b (canonicalOrder (before ++ c :: after)) = _
    rw [ih, insertMark_append_cons b hc]
    rfl

/-- What follows an inert character is composed as a text of its own. -/
theorem composeAfter_of_inert {c : Char} (hc : Inert c) :
    ∀ (after held : List Char) (cls : Nat),
      composeAfter c held cls after = c :: held.reverse ++ compose after := by
  intro after
  induction after with
  | nil => intro held cls; simp [composeAfter, compose]
  | cons d after ih =>
    intro held cls
    rw [composeAfter, hc.joins_nothing, ite_self]
    simp only
    by_cases hd : combiningClass d = 0
    · rw [if_pos hd, compose, if_pos hd]
    · rw [if_neg hd, compose, if_neg hd, ih]
      simp

/-- An inert character ends what a starter can be joined to. -/
theorem composeAfter_append_cons {c : Char} (hc : Inert c) (after : List Char) :
    ∀ (before : List Char) (starter : Char) (held : List Char) (cls : Nat),
      composeAfter starter held cls (before ++ c :: after) =
        composeAfter starter held cls before ++ c :: compose after := by
  intro before
  induction before with
  | nil =>
    intro starter held cls
    have hnil : composeAfter starter held cls [] = starter :: held.reverse := rfl
    rw [hnil, List.nil_append, composeAfter, hc.joined_to_nothing, ite_self]
    simp only
    rw [if_pos hc.starter, composeAfter_of_inert hc]
    rfl
  | cons b before ih =>
    intro starter held cls
    rw [List.cons_append, composeAfter, composeAfter]
    -- whichever way `b` goes, what is left is composed after some starter
    split
    · exact ih _ _ _
    · split
      · rw [ih, List.append_assoc]
      · exact ih _ _ _

theorem compose_append_cons {c : Char} (hc : Inert c) (before after : List Char) :
    compose (before ++ c :: after) = compose before ++ c :: compose after := by
  induction before with
  | nil =>
    have hnil : compose [] = [] := rfl
    rw [hnil, List.nil_append, List.nil_append, compose, if_pos hc.starter,
      composeAfter_of_inert hc]
    rfl
  | cons b before ih =>
    rw [List.cons_append, compose, compose]
    split
    · exact composeAfter_append_cons hc after before b [] 0
    · rw [ih, List.cons_append]

/-- **The form of a text can be made on both sides of an inert character apart.** -/
theorem compatibilityForm_append_cons {c : Char} (hc : Inert c) (before after : List Char) :
    compatibilityForm (before ++ c :: after) =
      compatibilityForm before ++ c :: compatibilityForm after := by
  rw [compatibilityForm, List.flatMap_append, List.flatMap_cons, hc.whole, List.singleton_append,
    canonicalOrder_append_cons hc.starter, compose_append_cons hc]
  rfl

/-! ## Words -/

/-- The words of a list of characters. -/
def wordsIn (cs : List Char) : List (List Char) := splitBlank (foldChars cs)

theorem wordsOf_eq (s : String) : wordsOf s = (wordsIn s.toList).map String.ofList := rfl

theorem foldChars_append_space (before after : List Char) :
    foldChars (before ++ ' ' :: after) = foldChars before ++ ' ' :: foldChars after := by
  have hspace : foldChar ' ' = [' '] := by decide +kernel
  rw [foldChars, compatibilityForm_append_cons inert_space, List.flatMap_append, List.flatMap_cons,
    hspace]
  rfl

theorem splitBlankFrom_append_cons {c : Char} (hc : isBlank c = true) (after : List Char) :
    ∀ before current : List Char,
      splitBlankFrom current (before ++ c :: after) =
        splitBlankFrom current before ++ splitBlank after := by
  intro before
  induction before with
  | nil =>
    intro current
    have hnil : splitBlankFrom current [] =
        if current.isEmpty then [] else [current.reverse] := rfl
    rw [hnil, List.nil_append, splitBlankFrom, if_pos hc, splitBlank]
    split <;> rfl
  | cons b before ih =>
    intro current
    rw [List.cons_append, splitBlankFrom, splitBlankFrom]
    by_cases hb : isBlank b = true
    · rw [if_pos hb, if_pos hb, ih]
      split <;> rfl
    · rw [if_neg hb, if_neg hb, ih]

/-- **The words of a text are those before a space and those behind it.** -/
theorem wordsIn_append_space (before after : List Char) :
    wordsIn (before ++ ' ' :: after) = wordsIn before ++ wordsIn after := by
  rw [wordsIn, foldChars_append_space]
  exact splitBlankFrom_append_cons (by decide) _ _ []

/-- A text that begins and ends with a space, which may be the same. -/
structure Spaced (cs : List Char) : Prop where
  first : cs.head? = some ' '
  last : cs.getLast? = some ' '

theorem Spaced.eq_or_exists {cs : List Char} (h : Spaced cs) :
    cs = [' '] ∨ ∃ middle, cs = ' ' :: (middle ++ [' ']) := by
  obtain ⟨rest, rfl⟩ := List.head?_eq_some_iff.mp h.first
  cases hrest : rest.getLast? with
  | none =>
    rw [List.getLast?_eq_none_iff.mp hrest]
    exact Or.inl rfl
  | some last =>
    obtain ⟨middle, rfl⟩ := List.getLast?_eq_some_iff.mp hrest
    have hlast := h.last
    rw [← List.cons_append, List.getLast?_concat, Option.some.injEq] at hlast
    exact Or.inr ⟨middle, by rw [hlast]⟩

/-- What begins and ends with a space has its words for itself. -/
theorem wordsIn_append_spaced {separator : List Char} (h : Spaced separator)
    (before after : List Char) :
    wordsIn (before ++ (separator ++ after)) =
      wordsIn before ++ (wordsIn separator ++ wordsIn after) := by
  have hnone : wordsIn [] = [] := rfl
  rcases h.eq_or_exists with rfl | ⟨middle, rfl⟩
  · have hseparator : wordsIn [' '] = [] := by
      rw [← List.nil_append [' '], wordsIn_append_space, hnone, List.append_nil]
    rw [hseparator, List.singleton_append, wordsIn_append_space, List.nil_append]
  · have hseparator : wordsIn (' ' :: (middle ++ [' '])) = wordsIn middle := by
      rw [← List.nil_append (' ' :: (middle ++ [' '])), wordsIn_append_space,
        wordsIn_append_space middle [], hnone, List.append_nil, List.nil_append]
    rw [hseparator, List.cons_append, List.append_assoc, List.singleton_append,
      wordsIn_append_space, wordsIn_append_space]

end Gazetteer.Text
