/-!
# Maps in the order of their keys

A `SortedMap` is a finite map from texts that lists its entries in the order of the keys, which is
the order of code points. The order is part of the type, so a map has only one representation: maps
with the same entries are equal, and what is written from a map does not depend on how it came about.
-/

set_option autoImplicit false

namespace Gazetteer

/-- Entries in strictly increasing order of their keys. -/
structure SortedMap (α : Type) where
  entries : List (String × α)
  sorted : entries.Pairwise (fun a b => a.1 < b.1)

namespace SortedMap

variable {α : Type}

@[ext] theorem ext {m n : SortedMap α} (h : m.entries = n.entries) : m = n := by
  cases m; cases n; cases h; rfl

instance [DecidableEq α] : DecidableEq (SortedMap α) := fun m n =>
  if h : m.entries = n.entries then isTrue (ext h) else isFalse fun e => h (e ▸ rfl)

def empty : SortedMap α := ⟨[], List.Pairwise.nil⟩

instance : Inhabited (SortedMap α) := ⟨empty⟩
instance : EmptyCollection (SortedMap α) := ⟨empty⟩

/-! ## Looking up -/

def get? (m : SortedMap α) (key : String) : Option α := m.entries.lookup key

def contains (m : SortedMap α) (key : String) : Bool := (m.get? key).isSome

def keys (m : SortedMap α) : List String := m.entries.map Prod.fst

def size (m : SortedMap α) : Nat := m.entries.length

def isEmpty (m : SortedMap α) : Bool := m.entries.isEmpty

theorem lookup_cons_eq_ite (key k : String) (v : α) (rest : List (String × α)) :
    ((k, v) :: rest).lookup key = if key = k then some v else rest.lookup key := by
  by_cases h : key = k
  · rw [h, List.lookup_cons_self, if_pos rfl]
  · have hne : (key == k) = false := by simpa using h
    rw [List.lookup_cons, hne, if_neg h]

theorem lookup_eq_none_of_lt {key : String} {l : List (String × α)}
    (h : ∀ e ∈ l, key < e.1) : l.lookup key = none := by
  rw [List.lookup_eq_none_iff]
  intro e he
  have hne : key ≠ e.1 := fun heq => String.lt_irrefl key (heq ▸ h e he)
  simpa using hne

/-! ## Changing one value -/

/-- Gives a key the value that `f` makes of its present one, keeping the order. -/
def updateEntries (key : String) (f : Option α → α) : List (String × α) → List (String × α)
  | [] => [(key, f none)]
  | (k, v) :: rest =>
    if key < k then (key, f none) :: (k, v) :: rest
    else if k < key then (k, v) :: updateEntries key f rest
    else (k, f (some v)) :: rest

theorem fst_of_mem_updateEntries {key : String} {f : Option α → α} {e : String × α} :
    ∀ {l : List (String × α)}, e ∈ updateEntries key f l → e.1 = key ∨ ∃ d ∈ l, d.1 = e.1 := by
  intro l
  induction l with
  | nil => intro h; simp [updateEntries] at h; exact Or.inl (h ▸ rfl)
  | cons d rest ih =>
    obtain ⟨k, v⟩ := d
    intro h
    simp only [updateEntries] at h
    split at h
    · simp only [List.mem_cons] at h
      rcases h with rfl | rfl | h
      · exact Or.inl rfl
      · exact Or.inr ⟨_, List.mem_cons_self, rfl⟩
      · exact Or.inr ⟨e, List.mem_cons_of_mem _ h, rfl⟩
    · split at h
      · simp only [List.mem_cons] at h
        rcases h with rfl | h
        · exact Or.inr ⟨_, List.mem_cons_self, rfl⟩
        · rcases ih h with h | ⟨d, hd, he⟩
          · exact Or.inl h
          · exact Or.inr ⟨d, List.mem_cons_of_mem _ hd, he⟩
      · simp only [List.mem_cons] at h
        rcases h with rfl | h
        · exact Or.inr ⟨_, List.mem_cons_self, rfl⟩
        · exact Or.inr ⟨e, List.mem_cons_of_mem _ h, rfl⟩

theorem sorted_updateEntries (key : String) (f : Option α → α) :
    ∀ {l : List (String × α)}, l.Pairwise (fun a b => a.1 < b.1) →
      (updateEntries key f l).Pairwise (fun a b => a.1 < b.1) := by
  intro l
  induction l with
  | nil => intro _; simp [updateEntries]
  | cons d rest ih =>
    obtain ⟨k, v⟩ := d
    intro h
    have hk := (List.pairwise_cons.1 h).1
    have hrest := (List.pairwise_cons.1 h).2
    simp only [updateEntries]
    split
    · rename_i hlt
      refine List.pairwise_cons.2 ⟨fun e he => ?_, h⟩
      rcases List.mem_cons.1 he with rfl | he
      · exact hlt
      · exact String.lt_trans hlt (hk e he)
    · split
      · rename_i hlt
        refine List.pairwise_cons.2 ⟨fun e he => ?_, ih hrest⟩
        rcases fst_of_mem_updateEntries he with he | ⟨d, hd, hde⟩
        · exact he ▸ hlt
        · exact hde ▸ hk d hd
      · exact List.pairwise_cons.2 ⟨fun e he => hk e he, hrest⟩

theorem lookup_updateEntries (key : String) (f : Option α → α) (k : String) :
    ∀ {l : List (String × α)}, l.Pairwise (fun a b => a.1 < b.1) →
      (updateEntries key f l).lookup k =
        if k = key then some (f (l.lookup key)) else l.lookup k := by
  intro l
  induction l with
  | nil => exact fun _ => lookup_cons_eq_ite k key (f none) []
  | cons d rest ih =>
    obtain ⟨k', v⟩ := d
    intro h
    obtain ⟨hfirst, hrest⟩ := List.pairwise_cons.mp h
    rw [updateEntries]
    split
    · -- the key comes before all others, so it had no value
      rename_i hlt
      have hnone : ((k', v) :: rest).lookup key = none := by
        refine lookup_eq_none_of_lt fun e he => ?_
        rcases List.mem_cons.mp he with rfl | he
        · exact hlt
        · exact String.lt_trans hlt (hfirst e he)
      rw [lookup_cons_eq_ite, hnone]
    · split
      · -- the first entry stays as it is, and the key is not that of it
        rename_i hgt
        have hne : key ≠ k' := fun heq => String.lt_irrefl k' (heq ▸ hgt)
        rw [lookup_cons_eq_ite, ih hrest, lookup_cons_eq_ite key, if_neg hne, lookup_cons_eq_ite k]
        by_cases hk : k = key
        · rw [if_pos hk, if_pos hk, if_neg (hk ▸ hne)]
        · rw [if_neg hk, if_neg hk]
      · rename_i hle hge
        have heq : k' = key := String.le_antisymm (String.not_lt.mp hle) (String.not_lt.mp hge)
        subst heq
        rw [lookup_cons_eq_ite, lookup_cons_eq_ite k', if_pos rfl, lookup_cons_eq_ite k]
        by_cases hk : k = k'
        · rw [if_pos hk, if_pos hk]
        · rw [if_neg hk, if_neg hk, if_neg hk]

/-- The map in which `key` has the value that `f` makes of its present one. -/
def update (m : SortedMap α) (key : String) (f : Option α → α) : SortedMap α :=
  ⟨updateEntries key f m.entries, sorted_updateEntries key f m.sorted⟩

/-- One key has the new value, and the others have what they had. -/
theorem get?_update (m : SortedMap α) (key : String) (f : Option α → α) (k : String) :
    (m.update key f).get? k = if k = key then some (f (m.get? key)) else m.get? k :=
  lookup_updateEntries key f k m.sorted

/-- The map in which `key` has the value `value`, whatever it had before. -/
def insert (m : SortedMap α) (key : String) (value : α) : SortedMap α := m.update key fun _ => value

theorem get?_insert (m : SortedMap α) (key : String) (value : α) (k : String) :
    (m.insert key value).get? k = if k = key then some value else m.get? k :=
  m.get?_update key (fun _ => value) k

/-! ## Many entries -/

/-- The map of the given entries; the last of several with the same key counts. -/
def ofList (l : List (String × α)) : SortedMap α :=
  l.foldl (fun m e => m.insert e.1 e.2) empty

/-- The entries whose value passes a test. -/
def filter (m : SortedMap α) (test : α → Bool) : SortedMap α :=
  ⟨m.entries.filter fun e => test e.2, m.sorted.filter _⟩

end SortedMap

end Gazetteer
