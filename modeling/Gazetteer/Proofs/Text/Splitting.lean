import Gazetteer.Text.Parts
import Mathlib.Data.List.Infix

/-!
# Where a text is cut

`splitAroundFrom` goes through a text character by character and keeps what it needs to know about
the past in two arguments. `LeftmostSplit` says what comes out of it without a past: nothing is cut
if there is no occurrence of the separator, and otherwise the text is cut at the one that begins
first, and what follows is cut by the same rule. There is only one way to do that
(`LeftmostSplit.unique`).

A text that was joined from two is therefore cut where it was joined exactly if no occurrence begins
earlier (`CutBehind`). The first text alone cannot prevent that by not having the separator in it:
its end and the beginning of the separator may together make up another one. **Only a separator that
does not overlap itself is safe behind every text** (`forall_cutBehind_iff`).
-/

set_option autoImplicit false

namespace Gazetteer.Text

/-- The parts of a list between the occurrences of a separator, taken from left to right. -/
inductive LeftmostSplit {α : Type} (separator : List α) : List α → List (List α) → Prop where
  | last {text : List α} (absent : ∀ n, ¬ separator <+: text.drop n) :
      LeftmostSplit separator text [text]
  | next {before after : List α} {parts : List (List α)}
      (first : ∀ n < before.length, ¬ separator <+: (before ++ (separator ++ after)).drop n)
      (rest : LeftmostSplit separator after parts) :
      LeftmostSplit separator (before ++ (separator ++ after)) (before :: parts)

/-- To pass over characters is to go on behind them. -/
theorem splitAroundFrom_skip (separator current : List Char) :
    ∀ (skip : Nat) (rest : List Char),
      splitAroundFrom separator skip current rest =
        splitAroundFrom separator 0 current (rest.drop skip) := by
  intro skip
  induction skip with
  | zero => exact fun rest => rfl
  | succ skip ih =>
    intro rest
    cases rest with
    | nil => rfl
    | cons c rest => exact ih rest

/--
The part under way is the beginning of the list that is cut, as long as no occurrence of the
separator begins in it.
-/
theorem leftmostSplit_splitAroundFrom {separator : List Char} (hseparator : separator ≠ [])
    (rest current : List Char)
    (hnone : ∀ n < current.length, ¬ separator <+: (current.reverse ++ rest).drop n) :
    LeftmostSplit separator (current.reverse ++ rest)
      (splitAroundFrom separator 0 current rest) := by
  match rest with
  | [] =>
    rw [List.append_nil] at hnone ⊢
    refine .last fun n => ?_
    rcases Nat.lt_or_ge n current.length with hlt | hge
    · exact hnone n hlt
    · rw [List.drop_eq_nil_of_le (by rwa [List.length_reverse]), List.prefix_nil]
      exact hseparator
  | c :: rest =>
    rw [splitAroundFrom]
    by_cases hfound : separator <+: c :: rest
    · -- the occurrence is cut out, and what follows it is cut as a list of its own
      rw [if_pos (List.isPrefixOf_iff_prefix.mpr hfound), splitAroundFrom_skip]
      obtain ⟨after, hafter⟩ := hfound
      have hdrop : rest.drop (separator.length - 1) = after := by
        cases separator with
        | nil => exact absurd rfl hseparator
        | cons s separator =>
          obtain ⟨rfl, rfl⟩ := List.cons_eq_cons.mp hafter
          exact List.drop_left
      have hshorter : after.length ≤ rest.length := by
        rw [← hdrop, List.length_drop]
        exact Nat.sub_le _ _
      rw [hdrop, ← hafter]
      rw [← hafter] at hnone
      refine .next (fun n hn => hnone n (by rwa [List.length_reverse] at hn)) ?_
      exact leftmostSplit_splitAroundFrom hseparator after [] nofun
    · -- one character more that no occurrence begins at
      rw [if_neg fun h => hfound (List.isPrefixOf_iff_prefix.mp h)]
      have happend : current.reverse ++ c :: rest = (c :: current).reverse ++ rest := by simp
      rw [happend] at hnone ⊢
      refine leftmostSplit_splitAroundFrom hseparator rest (c :: current) fun n hn => ?_
      rcases Nat.lt_or_eq_of_le (Nat.le_of_lt_succ hn) with hlt | rfl
      · exact hnone n hlt
      · rw [← happend, ← List.length_reverse, List.drop_left]
        exact hfound
termination_by rest.length

/-- **A text is cut at the occurrences of the separator from left to right.** -/
theorem leftmostSplit_splitAround {separator : String} (h : separator ≠ "") (text : String) :
    LeftmostSplit separator.toList text.toList
      ((splitAround separator text).map String.toList) := by
  have hseparator : separator.toList ≠ [] := fun hnil => h (String.toList_eq_nil_iff.mp hnil)
  have hmap : (splitAround separator text).map String.toList =
      splitAroundFrom separator.toList 0 [] text.toList := by
    simp [splitAround, Function.comp_def]
  rw [hmap]
  exact leftmostSplit_splitAroundFrom hseparator text.toList [] nofun

/-! ## One way to cut -/

theorem not_prefix_drop_of_first {α : Type} {separator before after : List α}
    (first : ∀ n < before.length, ¬ separator <+: (before ++ (separator ++ after)).drop n) {n : Nat}
    (h : separator <+: (before ++ (separator ++ after)).drop n) : before.length ≤ n :=
  Nat.le_of_not_lt fun hlt => first n hlt h

theorem prefix_drop_length {α : Type} (separator before after : List α) :
    separator <+: (before ++ (separator ++ after)).drop before.length := by
  rw [List.drop_left]
  exact List.prefix_append _ _

/-- A text is cut in one way only. -/
theorem LeftmostSplit.unique {α : Type} {separator text : List α} {parts parts' : List (List α)}
    (h : LeftmostSplit separator text parts) (h' : LeftmostSplit separator text parts') :
    parts = parts' := by
  induction h generalizing parts' with
  | last absent =>
    cases h' with
    | last => rfl
    | next => exact absurd (prefix_drop_length _ _ _) (absent _)
  | @next before after parts first rest ih =>
    -- the other cut is at an occurrence too, and neither of the two comes before the other
    generalize htext : before ++ (separator ++ after) = text at h'
    cases h' with
    | last absent => exact absurd (prefix_drop_length separator before after) (htext ▸ absent _)
    | @next before' after' parts' first' rest' =>
      have hle : before'.length ≤ before.length :=
        not_prefix_drop_of_first first' (htext ▸ prefix_drop_length separator before after)
      have hge : before.length ≤ before'.length :=
        not_prefix_drop_of_first first (htext ▸ prefix_drop_length separator before' after')
      obtain ⟨rfl, hrest⟩ := List.append_inj htext (Nat.le_antisymm hge hle)
      obtain rfl := List.append_cancel_left hrest
      rw [ih rest']

/-! ## Joined texts -/

/-- No occurrence of the separator begins in a text that it is put behind. -/
def CutBehind {α : Type} (separator before : List α) : Prop :=
  ∀ n < before.length, ¬ separator <+: (before ++ separator).drop n

theorem prefix_drop_append_iff {α : Type} {separator before : List α} (after : List α) {n : Nat}
    (hn : n < before.length) :
    separator <+: (before ++ (separator ++ after)).drop n ↔
      separator <+: (before ++ separator).drop n := by
  have hlong : separator.length ≤ ((before ++ separator).drop n).length := by
    rw [List.length_drop, List.length_append]
    omega
  rw [← List.append_assoc, List.drop_append_of_le_length (by rw [List.length_append]; omega),
    List.isPrefix_append_of_length hlong]

theorem not_prefix_drop_of_not_infix {α : Type} {separator text : List α}
    (h : ¬ separator <:+: text) (n : Nat) : ¬ separator <+: text.drop n :=
  fun hfront => h (hfront.isInfix.trans (List.drop_suffix n text).isInfix)

/-- A text behind which the separator is cut where it stands does not have it in itself. -/
theorem CutBehind.not_prefix_drop {α : Type} {separator before : List α} (hne : separator ≠ [])
    (h : CutBehind separator before) (n : Nat) : ¬ separator <+: before.drop n := by
  rcases Nat.lt_or_ge n before.length with hlt | hge
  · intro hfront
    refine h n hlt ?_
    rw [List.drop_append_of_le_length (Nat.le_of_lt hlt)]
    exact hfront.trans (List.prefix_append _ _)
  · rw [List.drop_eq_nil_of_le hge, List.prefix_nil]
    exact hne

theorem LeftmostSplit.joined {α : Type} {separator before after : List α} {parts : List (List α)}
    (hcut : CutBehind separator before) (h : LeftmostSplit separator after parts) :
    LeftmostSplit separator (before ++ (separator ++ after)) (before :: parts) :=
  .next (fun n hn => mt (prefix_drop_append_iff after hn).mp (hcut n hn)) h

theorem LeftmostSplit.cutBehind {α : Type} {separator before after : List α} {next : List α}
    {parts : List (List α)}
    (h : LeftmostSplit separator (before ++ (separator ++ after)) (before :: next :: parts)) :
    CutBehind separator before := by
  generalize htext : before ++ (separator ++ after) = text at h
  cases h with
  | next first rest =>
    intro n hn
    rw [← prefix_drop_append_iff _ hn]
    exact first n hn

/-- No proper end of the separator is a beginning of it. -/
def OverlapFree {α : Type} (separator : List α) : Prop :=
  ∀ n, 0 < n → n < separator.length → ¬ separator.drop n <+: separator

/-- **A separator is cut where it stands behind every text without it exactly if it does not overlap
itself.** -/
theorem forall_cutBehind_iff {α : Type} {separator : List α} :
    (∀ before, ¬ separator <:+: before → CutBehind separator before) ↔ OverlapFree separator := by
  constructor
  · intro h n hpos hlt hoverlap
    -- behind its own beginning a separator that overlaps itself is found too early
    have hshort : ¬ separator <:+: separator.take n := by
      intro hinfix
      have hle := hinfix.length_le
      rw [List.length_take] at hle
      omega
    refine h _ hshort 0 (by rw [List.length_take]; omega) ?_
    rw [List.drop_zero]
    calc separator = separator.take n ++ separator.drop n := (List.take_append_drop n _).symm
      _ <+: separator.take n ++ separator := (List.prefix_append_right_inj _).mpr hoverlap
  · intro hfree before habsent n hn hfront
    rw [List.drop_append_of_le_length (Nat.le_of_lt hn)] at hfront
    rcases Nat.lt_or_ge (before.drop n).length separator.length with hlt | hge
    · -- the occurrence begins with the end of the text and goes on with an end of its own
      obtain ⟨rest, hrest⟩ := hfront
      refine hfree (before.drop n).length (by rw [List.length_drop]; omega) hlt ?_
      have hoverlap := congrArg (List.drop (before.drop n).length) hrest
      rw [List.drop_append_of_le_length (Nat.le_of_lt hlt), List.drop_left] at hoverlap
      exact ⟨rest, hoverlap⟩
    · rw [List.isPrefix_append_of_length hge] at hfront
      exact not_prefix_drop_of_not_infix habsent n hfront

end Gazetteer.Text
