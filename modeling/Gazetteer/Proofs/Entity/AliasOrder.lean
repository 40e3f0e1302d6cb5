import Gazetteer.Proofs.Entity.Normalizing

/-!
# The order of aliases

An alias is found again by its number among the aliases of its entity, so the order in which
`Entity.normalized` leaves them matters as much as which ones it leaves. They are the aliases that
are not blank, each where it occurred first, and in front of them the name if it was missing
(`aliases_normalized`). `PutInOrder` says the same without saying how it is done: which aliases
there are, and that of two of them the one that occurred first comes first.
-/

set_option autoImplicit false

namespace Gazetteer.Entity

/-! ## First occurrences -/

/-- Adding texts one by one adds the first occurrence of each that is not there yet. -/
theorem foldl_addNew_eq (more : List String) :
    ∀ texts : List String,
      more.foldl addNew texts = texts ++ (more.filter fun t => !texts.contains t).eraseDups := by
  induction more with
  | nil => intro texts; simp
  | cons text more ih =>
    intro texts
    rw [List.foldl_cons, ih]
    by_cases h : text ∈ texts
    · rw [addNew_of_mem h, List.filter_cons_of_neg (by simp [h])]
    · have hrest : (more.filter fun t => !(texts ++ [text]).contains t) =
          (more.filter fun t => !texts.contains t).filter fun t => !t == text := by
        rw [List.filter_filter]
        refine List.filter_congr fun t _ => ?_
        rw [Bool.eq_iff_iff]
        simp [and_comm]
      rw [addNew_of_not_mem h, List.filter_cons_of_pos (by simp [h]), List.eraseDups_cons, hrest,
        List.append_assoc, List.singleton_append]

/-- First occurrences stand in the order of their places. -/
theorem pairwise_idxOf_eraseDups (given : List String) :
    ∀ test : String → Bool,
      (given.filter test).eraseDups.Pairwise fun a b => given.idxOf a < given.idxOf b := by
  induction given with
  | nil => intro test; simp
  | cons text given ih =>
    intro test
    -- a selection without the first text: all its places are greater by one
    have hbehind : ∀ test' : String → Bool, test' text = false →
        (given.filter test').eraseDups.Pairwise fun a b =>
          (text :: given).idxOf a < (text :: given).idxOf b := by
      intro test' hdropped
      have hne : ∀ a ∈ (given.filter test').eraseDups, text ≠ a := by
        rintro a ha rfl
        have htest := (List.mem_filter.mp (List.mem_eraseDups.mp ha)).2
        rw [hdropped] at htest
        cases htest
      refine (ih test').imp_of_mem fun {a b} ha hb hlt => ?_
      rw [List.idxOf_cons_ne given (hne a ha), List.idxOf_cons_ne given (hne b hb)]
      exact Nat.succ_lt_succ hlt
    by_cases htest : test text = true
    · rw [List.filter_cons_of_pos htest, List.eraseDups_cons, List.filter_filter]
      refine List.pairwise_cons.mpr ⟨fun b hb => ?_, hbehind _ (by simp)⟩
      have hne : text ≠ b := by
        rintro rfl
        have hselected := (List.mem_filter.mp (List.mem_eraseDups.mp hb)).2
        simp at hselected
      rw [List.idxOf_cons_self, List.idxOf_cons_ne given hne]
      exact Nat.succ_pos _
    · rw [List.filter_cons_of_neg htest]
      exact hbehind test (by simpa using htest)

/-- First occurrences stay in their places. -/
theorem eraseDups_filter_sublist (given : List String) :
    ∀ test : String → Bool, (given.filter test).eraseDups.Sublist given := by
  induction given with
  | nil => intro test; simp
  | cons text given ih =>
    intro test
    by_cases htest : test text = true
    · rw [List.filter_cons_of_pos htest, List.eraseDups_cons, List.filter_filter]
      exact (ih _).cons_cons text
    · rw [List.filter_cons_of_neg htest]
      exact (ih test).cons text

/-! ## Aliases in order -/

/-- The entity could be found by its name, but the name is not among its aliases. -/
def NameMissing (e : Entity) : Prop := Text.isBlankText e.name = false ∧ e.name ∉ e.aliases

instance : DecidablePred NameMissing := fun _ => inferInstanceAs (Decidable (_ ∧ _))

/-- The names of the entity as they were given; a name that is missing counts as the first. -/
def givenNames (e : Entity) : List String :=
  if e.NameMissing then e.name :: e.aliases else e.aliases

/-- The first occurrences of the aliases that are not blank. -/
def keptAliases (e : Entity) : List String :=
  (e.aliases.filter fun a => !Text.isBlankText a).eraseDups

theorem nameMissing_iff (e : Entity) :
    (Text.isBlankText e.name || e.hasAlias e.name) = false ↔ e.NameMissing := by
  rw [NameMissing, Bool.or_eq_false_iff, hasAlias, ← Bool.not_eq_true (e.aliases.contains e.name),
    List.contains_iff_mem]

/-- **The aliases that are kept, behind the name if it was missing.** -/
theorem aliases_normalized (e : Entity) :
    e.normalized.aliases = if e.NameMissing then e.name :: e.keptAliases else e.keptAliases := by
  have hmissing := e.nameMissing_iff
  show (e.aliases.filter fun a => !Text.isBlankText a).foldl addNew
    (if Text.isBlankText e.name || e.hasAlias e.name then [] else [e.name]) = _
  rw [foldl_addNew_eq, keptAliases]
  split
  · rename_i hskip
    have hnotMissing : ¬ e.NameMissing := fun h =>
      Bool.false_ne_true ((hmissing.mpr h).symm.trans hskip)
    rw [if_neg hnotMissing, List.nil_append]
    simp
  · rename_i hput
    rw [Bool.not_eq_true, hmissing] at hput
    -- the name is none of the aliases, so adding it first makes none of them old
    have hnew : ∀ a ∈ e.aliases.filter fun a => !Text.isBlankText a,
        (!([e.name].contains a)) = true := by
      intro a ha
      have hne : a ≠ e.name := by
        rintro rfl
        exact hput.2 (List.mem_filter.mp ha).1
      simpa using hne
    rw [if_pos hput, List.filter_eq_self.mpr hnew, List.singleton_append]

example : (normalized ⟨"Q57055", "acetaminophen", ["Paracetamol", " ", "Paracetamol"], none,
    .empty⟩).aliases = ["acetaminophen", "Paracetamol"] := by decide

theorem keptAliases_sublist (e : Entity) : e.keptAliases.Sublist e.aliases :=
  eraseDups_filter_sublist e.aliases _

/-- Each alias stands behind those that were given before it. -/
theorem pairwise_aliases_normalized (e : Entity) :
    e.normalized.aliases.Pairwise fun a b => e.givenNames.idxOf a < e.givenNames.idxOf b := by
  have hkept := pairwise_idxOf_eraseDups e.aliases fun a => !Text.isBlankText a
  rw [aliases_normalized, givenNames]
  split
  · rename_i hmissing
    have hne : ∀ a ∈ e.keptAliases, e.name ≠ a := by
      rintro a ha rfl
      exact hmissing.2 (e.keptAliases_sublist.subset ha)
    refine List.pairwise_cons.mpr ⟨fun a ha => ?_, hkept.imp_of_mem fun {a b} ha hb hlt => ?_⟩
    · rw [List.idxOf_cons_self, List.idxOf_cons_ne _ (hne a ha)]
      exact Nat.succ_pos _
    · rw [List.idxOf_cons_ne _ (hne a ha), List.idxOf_cons_ne _ (hne b hb)]
      exact Nat.succ_lt_succ hlt
  · exact hkept

/-- `n` is the record `e` put in order. -/
structure PutInOrder (e n : Entity) : Prop where
  /-- Nothing changes but the aliases. -/
  rest : n = { e with aliases := n.aliases }
  nodup : n.aliases.Nodup
  /-- The aliases are those that are not blank, and the name if that is not blank. -/
  mem_iff : ∀ a, a ∈ n.aliases ↔ Text.isBlankText a = false ∧ (a ∈ e.aliases ∨ a = e.name)
  /-- They come in the order in which they were given first. -/
  order : n.aliases.Pairwise fun a b => e.givenNames.idxOf a < e.givenNames.idxOf b
  /-- Given aliases stay in their places, and the name is put in front exactly if it was missing. -/
  name : ∃ kept : List String, kept.Sublist e.aliases ∧
    n.aliases = if e.NameMissing then e.name :: kept else kept

/--
**What putting a record in order does**, whatever aliases it came with. Doing it again does nothing,
and the record can be registered exactly if there was an identifier, and a name or an alias.
-/
theorem putInOrder_normalized (e : Entity) :
    PutInOrder e e.normalized ∧ e.normalized.normalized = e.normalized ∧
      (e.normalized.fault? = none ↔ Text.isBlankText e.id = false ∧
        (Text.isBlankText e.name = false ∨ ∃ a ∈ e.aliases, Text.isBlankText a = false)) := by
  have horder := inOrder_normalized e
  refine ⟨⟨rfl, horder.nodup, fun a => ?_, e.pairwise_aliases_normalized, ?_⟩,
    horder.normalized_eq, fault?_normalized_eq_none_iff⟩
  · rw [mem_aliases_normalized, Or.comm]
  · exact ⟨e.keptAliases, e.keptAliases_sublist, e.aliases_normalized⟩

end Gazetteer.Entity
