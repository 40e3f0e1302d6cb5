import Gazetteer.SortedMap
import Mathlib.Data.Finset.Card
import Mathlib.Data.String.Basic

/-!
# What a sorted map holds

A sorted map is a list of entries, and what it is for is looking keys up. What a changed value looks
up to stands beside its definition (`get?_update`); here a selection gets its equation
(`get?_filter`). No more has to be known of a map than what its keys look up to (`ext_get?`). The
other result is about writing a map down and making a map of what was written: **the entries of a map
make up that map again** (`ofList_entries`).
-/

set_option autoImplicit false

namespace Gazetteer.SortedMap

variable {α : Type}

/-! ## Looking up -/

theorem lookup_filter (test : α → Bool) (key : String) :
    ∀ {l : List (String × α)}, l.Pairwise (fun a b => a.1 < b.1) →
      (l.filter fun e => test e.2).lookup key = (l.lookup key).filter test := by
  intro l
  induction l with
  | nil => exact fun _ => rfl
  | cons d rest ih =>
    obtain ⟨k, v⟩ := d
    intro h
    obtain ⟨hfirst, hrest⟩ := List.pairwise_cons.mp h
    rw [List.filter_cons, lookup_cons_eq_ite]
    by_cases hkey : key = k
    · -- an entry dropped here is not made up for by another of its key
      subst hkey
      rw [if_pos rfl, Option.filter_some]
      cases htest : test v with
      | true => rw [if_pos rfl, if_pos rfl, List.lookup_cons_self]
      | false =>
        rw [if_neg Bool.false_ne_true, if_neg Bool.false_ne_true, ih hrest,
          lookup_eq_none_of_lt hfirst]
        rfl
    · rw [if_neg hkey, ← ih hrest]
      cases test v with
      | true => rw [if_pos rfl, lookup_cons_eq_ite, if_neg hkey]
      | false => rfl

theorem get?_filter (m : SortedMap α) (test : α → Bool) (key : String) :
    (m.filter test).get? key = (m.get? key).filter test :=
  lookup_filter test key m.sorted

/-! ## Maps by their lookups -/

/-- The entries are the keys with their values. -/
theorem mem_entries_iff {m : SortedMap α} {key : String} {v : α} :
    (key, v) ∈ m.entries ↔ m.get? key = some v := by
  rw [get?, List.lookup_eq_some_iff]
  constructor
  · intro h
    obtain ⟨front, back, hentries⟩ := List.append_of_mem h
    refine ⟨front, back, hentries, fun e he => ?_⟩
    -- what stands in front of the entry has a smaller key
    have hsorted := m.sorted
    rw [hentries] at hsorted
    have hlt : e.1 < key := (List.pairwise_append.mp hsorted).2.2 e he (key, v) List.mem_cons_self
    exact bne_iff_ne.mpr (String.ne_of_lt hlt).symm
  · rintro ⟨front, back, hentries, -⟩
    rw [hentries]
    exact List.mem_append_right front List.mem_cons_self

theorem nodup_keys (m : SortedMap α) : m.keys.Nodup :=
  List.pairwise_map.mpr (m.sorted.imp String.ne_of_lt)

/-- Maps in which all keys look up to the same are the same, whatever they were made of. -/
theorem ext_get? {m n : SortedMap α} (h : ∀ key, m.get? key = n.get? key) : m = n := by
  have hnodup : ∀ m : SortedMap α, m.entries.Nodup := fun m => m.nodup_keys.of_map Prod.fst
  have hperm : m.entries.Perm n.entries := by
    rw [List.perm_ext_iff_of_nodup (hnodup m) (hnodup n)]
    rintro ⟨key, v⟩
    rw [mem_entries_iff, mem_entries_iff, h]
  refine ext (hperm.eq_of_pairwise (fun a b _ _ hab hba => ?_) m.sorted n.sorted)
  exact absurd hba (String.lt_asymm hab)

theorem mem_keys_iff {m : SortedMap α} {key : String} :
    key ∈ m.keys ↔ m.contains key = true := by
  rw [contains, Option.isSome_iff_exists, keys, List.mem_map]
  constructor
  · rintro ⟨⟨k, v⟩, hentry, rfl⟩
    exact ⟨v, mem_entries_iff.mp hentry⟩
  · rintro ⟨v, hv⟩
    exact ⟨(key, v), mem_entries_iff.mpr hv, rfl⟩

/-- A map is as large as the set of its keys. -/
theorem size_eq_card {m : SortedMap α} {s : Finset String}
    (h : ∀ key, m.contains key = true ↔ key ∈ s) : m.size = s.card := by
  have hkeys : m.keys.toFinset = s := by
    refine Finset.ext fun key => ?_
    rw [List.mem_toFinset, mem_keys_iff, h]
  rw [← hkeys, List.toFinset_card_of_nodup m.nodup_keys, keys, List.length_map, size]

/-! ## Making a map of entries -/

theorem updateEntries_of_forall_lt {key : String} (f : Option α → α) :
    ∀ {l : List (String × α)}, (∀ e ∈ l, e.1 < key) →
      updateEntries key f l = l ++ [(key, f none)] := by
  intro l
  induction l with
  | nil => exact fun _ => rfl
  | cons d rest ih =>
    obtain ⟨k, v⟩ := d
    intro h
    have hlt : k < key := h (k, v) List.mem_cons_self
    have hge : ¬ key < k := fun hgt => String.lt_irrefl k (String.lt_trans hlt hgt)
    rw [updateEntries, if_neg hge, if_pos hlt, ih fun e he => h e (List.mem_cons_of_mem _ he)]
    rfl

/--
Entries in order, behind those that are there already, are put at the end one after the other.
-/
theorem entries_foldl_insert {l : List (String × α)} :
    ∀ {m : SortedMap α}, (m.entries ++ l).Pairwise (fun a b => a.1 < b.1) →
      (l.foldl (fun m e => m.insert e.1 e.2) m).entries = m.entries ++ l := by
  induction l with
  | nil => exact fun _ => (List.append_nil _).symm
  | cons e rest ih =>
    intro m h
    have hinsert : (m.insert e.1 e.2).entries = m.entries ++ [e] := by
      refine updateEntries_of_forall_lt _ fun d hd => ?_
      exact (List.pairwise_append.mp h).2.2 d hd e List.mem_cons_self
    rw [List.foldl_cons, ih, hinsert, List.append_assoc]
    · rfl
    · rwa [hinsert, List.append_assoc]

/-- **The entries of a map make up that map again.** -/
theorem ofList_entries (m : SortedMap α) : ofList m.entries = m :=
  ext (entries_foldl_insert (m := empty) m.sorted)

theorem length_updateEntries_le (key : String) (f : Option α → α) :
    ∀ l : List (String × α), (updateEntries key f l).length ≤ l.length + 1 := by
  intro l
  induction l with
  | nil => exact Nat.le_refl _
  | cons d rest ih =>
    rw [updateEntries]
    split
    · exact Nat.le_refl _
    · split
      · exact Nat.succ_le_succ ih
      · exact Nat.le_succ _

theorem size_ofList_le (l : List (String × α)) : (ofList l).size ≤ l.length := by
  have hfold : ∀ (l : List (String × α)) (m : SortedMap α),
      (l.foldl (fun m e => m.insert e.1 e.2) m).size ≤ m.size + l.length := by
    intro l
    induction l with
    | nil => exact fun m => Nat.le_refl _
    | cons e rest ih =>
      intro m
      have hinsert : (m.insert e.1 e.2).size ≤ m.size + 1 :=
        length_updateEntries_le e.1 (fun _ => e.2) m.entries
      have hrest := ih (m.insert e.1 e.2)
      rw [List.foldl_cons, List.length_cons]
      omega
  have h := hfold l empty
  rwa [show (empty : SortedMap α).size = 0 from rfl, Nat.zero_add] at h

/-- A map made of entries has no other keys than these have. -/
theorem mem_keys_ofList {l : List (String × α)} {key : String} (h : key ∈ (ofList l).keys) :
    key ∈ l.map Prod.fst := by
  have hfold : ∀ (l : List (String × α)) (m : SortedMap α),
      key ∈ (l.foldl (fun m e => m.insert e.1 e.2) m).keys →
        key ∈ m.keys ∨ key ∈ l.map Prod.fst := by
    intro l
    induction l with
    | nil => exact fun m h => Or.inl h
    | cons e rest ih =>
      intro m h
      rw [List.map_cons, List.mem_cons]
      rcases ih (m.insert e.1 e.2) h with hinsert | hrest
      · obtain ⟨d, hd, rfl⟩ := List.mem_map.mp hinsert
        rcases fst_of_mem_updateEntries hd with heq | ⟨d', hd', heq⟩
        · exact Or.inr (Or.inl heq)
        · exact Or.inl (heq ▸ List.mem_map_of_mem hd')
      · exact Or.inr (Or.inr hrest)
  exact (hfold l empty h).resolve_left List.not_mem_nil

end Gazetteer.SortedMap
