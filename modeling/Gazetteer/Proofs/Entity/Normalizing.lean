import Gazetteer.Entity.Basic
import Mathlib.Data.List.Nodup

/-!
# Records in order

`Entity.normalized` drops blank and repeated aliases and adds the name. `InOrder` says of a record
that nothing of that is left to do: what comes out is in order (`inOrder_normalized`), and what is
in order stays as it is (`InOrder.normalized_eq`).

Which records are good enough to be registered can be told before they are put in order
(`Acceptable`, `fault?_normalized_eq_none_iff`).
-/

set_option autoImplicit false

namespace Gazetteer.Entity

/-! ## Adding what is new -/

theorem addNew_of_mem {texts : List String} {text : String} (h : text ∈ texts) :
    addNew texts text = texts := by
  rw [addNew, if_pos (List.contains_iff_mem.mpr h)]

theorem addNew_of_not_mem {texts : List String} {text : String} (h : text ∉ texts) :
    addNew texts text = texts ++ [text] := by
  rw [addNew, if_neg fun hmem => h (List.contains_iff_mem.mp hmem)]

theorem mem_addNew {texts : List String} {text t : String} :
    t ∈ addNew texts text ↔ t ∈ texts ∨ t = text := by
  by_cases h : text ∈ texts
  · rw [addNew_of_mem h]
    exact (or_iff_left_of_imp fun heq => heq ▸ h).symm
  · rw [addNew_of_not_mem h, List.mem_append, List.mem_singleton]

theorem nodup_addNew {texts : List String} (text : String) (h : texts.Nodup) :
    (addNew texts text).Nodup := by
  by_cases hmem : text ∈ texts
  · rwa [addNew_of_mem hmem]
  · rw [addNew_of_not_mem hmem]
    exact List.nodup_append_comm.mp (List.nodup_cons.mpr ⟨hmem, h⟩)

theorem mem_foldl_addNew {t : String} (more : List String) :
    ∀ {texts : List String}, t ∈ more.foldl addNew texts ↔ t ∈ texts ∨ t ∈ more := by
  induction more with
  | nil => exact fun {texts} => by simp
  | cons text more ih =>
    intro texts
    rw [List.foldl_cons, ih, mem_addNew, List.mem_cons, or_assoc]

theorem nodup_foldl_addNew (more : List String) :
    ∀ {texts : List String}, texts.Nodup → (more.foldl addNew texts).Nodup := by
  induction more with
  | nil => exact fun h => h
  | cons text more ih => exact fun h => ih (nodup_addNew text h)

/-- Where nothing is there twice, everything is new. -/
theorem foldl_addNew_of_nodup (more : List String) :
    ∀ {texts : List String}, (texts ++ more).Nodup → more.foldl addNew texts = texts ++ more := by
  induction more with
  | nil => exact fun _ => (List.append_nil _).symm
  | cons text more ih =>
    intro texts h
    have hnew : text ∉ texts := fun hmem =>
      (List.nodup_append.mp h).2.2 text hmem text List.mem_cons_self rfl
    rw [← List.singleton_append, ← List.append_assoc] at h
    rw [List.foldl_cons, addNew_of_not_mem hnew, ih h, List.append_assoc, List.singleton_append]

/-! ## Records -/

/-- No alias is blank or repeated, and the name is one of them unless it is blank. -/
structure InOrder (e : Entity) : Prop where
  notBlank : ∀ a ∈ e.aliases, Text.isBlankText a = false
  nodup : e.aliases.Nodup
  named : Text.isBlankText e.name = false → e.name ∈ e.aliases

/-- The aliases in order are those that are not blank, and the name. -/
theorem mem_aliases_normalized {e : Entity} {a : String} :
    a ∈ e.normalized.aliases ↔ Text.isBlankText a = false ∧ (a = e.name ∨ a ∈ e.aliases) := by
  have hname : a ∈ (if Text.isBlankText e.name || e.hasAlias e.name then [] else [e.name]) ↔
      a = e.name ∧ Text.isBlankText a = false ∧ a ∉ e.aliases := by
    split
    · rename_i hskip
      refine ⟨nofun, ?_⟩
      rintro ⟨rfl, hblank, hnew⟩
      rw [hblank, Bool.false_or, hasAlias, List.contains_iff_mem] at hskip
      exact absurd hskip hnew
    · rename_i hput
      rw [Bool.or_eq_true, not_or, Bool.not_eq_true, hasAlias, List.contains_iff_mem] at hput
      rw [List.mem_singleton]
      exact ⟨fun heq => ⟨heq, heq ▸ hput.1, heq ▸ hput.2⟩, And.left⟩
  rw [normalized, mem_foldl_addNew, List.mem_filter, Bool.not_eq_true', hname]
  by_cases halias : a ∈ e.aliases
  · simp [halias]
  · simp [halias, and_comm]

theorem inOrder_normalized (e : Entity) : e.normalized.InOrder where
  notBlank _ ha := (mem_aliases_normalized.mp ha).1
  named hname := mem_aliases_normalized.mpr ⟨hname, Or.inl rfl⟩
  nodup := by
    refine nodup_foldl_addNew _ ?_
    split
    · exact List.nodup_nil
    · exact List.nodup_singleton _

/-- What is in order stays as it is. -/
theorem InOrder.normalized_eq {e : Entity} (h : e.InOrder) : e.normalized = e := by
  have hnamed : (Text.isBlankText e.name || e.hasAlias e.name) = true := by
    cases hblank : Text.isBlankText e.name with
    | true => rfl
    | false => exact List.contains_iff_mem.mpr (h.named hblank)
  have hkept : (e.aliases.filter fun a => !Text.isBlankText a) = e.aliases :=
    List.filter_eq_self.mpr fun a ha => by rw [h.notBlank a ha]; rfl
  have haliases : e.aliases.foldl addNew [] = e.aliases := foldl_addNew_of_nodup e.aliases h.nodup
  rw [normalized]
  simp only [hnamed, if_true, hkept, haliases]

/-! ## Records that can be registered -/

/-- There is an identifier, and a name or an alias to find the entity by. -/
def Acceptable (e : Entity) : Prop :=
  Text.isBlankText e.id = false ∧
    (Text.isBlankText e.name = false ∨ ∃ a ∈ e.aliases, Text.isBlankText a = false)

instance : DecidablePred Acceptable := fun _ => inferInstanceAs (Decidable (_ ∧ _))

/-- Once in order, a record is without fault exactly if it was acceptable. -/
theorem fault?_normalized_eq_none_iff {e : Entity} :
    e.normalized.fault? = none ↔ e.Acceptable := by
  have halias : e.normalized.aliases.all Text.isBlankText = false ↔
      Text.isBlankText e.name = false ∨ ∃ a ∈ e.aliases, Text.isBlankText a = false := by
    rw [List.all_eq_false]
    constructor
    · rintro ⟨a, ha, -⟩
      obtain ⟨hblank, rfl | hgiven⟩ := mem_aliases_normalized.mp ha
      · exact Or.inl hblank
      · exact Or.inr ⟨a, hgiven, hblank⟩
    · rintro (hname | ⟨a, ha, hblank⟩)
      · exact ⟨e.name, mem_aliases_normalized.mpr ⟨hname, Or.inl rfl⟩, by simp [hname]⟩
      · exact ⟨a, mem_aliases_normalized.mpr ⟨hblank, Or.inr ha⟩, by simp [hblank]⟩
  rw [Acceptable, ← halias, fault?, show e.normalized.id = e.id from rfl]
  cases Text.isBlankText e.id <;> cases e.normalized.aliases.all Text.isBlankText <;> simp

end Gazetteer.Entity
