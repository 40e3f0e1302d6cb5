import Gazetteer.Index.Fault
import Gazetteer.Progress
import Gazetteer.SortedMap

/-!
# Registries of keys

Keys are numbered in the order in which they are first registered. The number of a key is its
*slot*; slots never change, and they decide which of two equally good results comes first.

A table holds the keys twice: in a list by slot, and in a map by key. Whether a key is new is read
from the map, and which slot is next from the list. A registry is a table in which map and list are
inverse, so that key and slot determine each other; registering keeps it one
(`KeyTable.Inverse.register`).
-/

set_option autoImplicit false

namespace Gazetteer

/-! ## Tables -/

/-- Keys by slot, and slots by key. -/
structure KeyTable where
  slots : SortedMap Nat
  keys : List String
  deriving DecidableEq

namespace KeyTable

def empty : KeyTable := ⟨.empty, []⟩

def slot? (t : KeyTable) (key : String) : Option Nat := t.slots.get? key

def key? (t : KeyTable) (slot : Nat) : Option String := t.keys[slot]?

def contains (t : KeyTable) (key : String) : Bool := t.slots.contains key

def size (t : KeyTable) : Nat := t.keys.length

/-- The table with a key in the next slot. -/
def append (t : KeyTable) (key : String) : KeyTable :=
  { slots := t.slots.insert key t.keys.length, keys := t.keys ++ [key] }

/--
Registers a key and returns its slot. A key that is there already keeps its slot when repeats are
allowed and is an error when they are not.
-/
def register (t : KeyTable) (key : String) (allowRepeats : Bool) : Step KeyTable IndexError Nat :=
  match t.slots.get? key with
  | some slot => if allowRepeats then ⟨t, [], .ok slot⟩ else .refuse t (.duplicateKey key)
  | none => ⟨t.append key, [], .ok t.keys.length⟩

variable {t : KeyTable} {key : String}

theorem slot?_append (t : KeyTable) (key k : String) :
    (t.append key).slot? k = if k = key then some t.size else t.slot? k :=
  t.slots.get?_insert key t.keys.length k

theorem key?_append (t : KeyTable) (key : String) (slot : Nat) :
    (t.append key).key? slot = if slot = t.size then some key else t.key? slot := by
  show (t.keys ++ [key])[slot]? = if slot = t.keys.length then some key else t.keys[slot]?
  by_cases hlast : slot = t.keys.length
  · rw [if_pos hlast, hlast, List.getElem?_concat_length]
  · rw [if_neg hlast, List.getElem?_append]
    split
    · rfl
    · rw [List.getElem?_eq_none (by rw [List.length_singleton]; omega),
        List.getElem?_eq_none (by omega)]

theorem key?_size (t : KeyTable) : t.key? t.size = none := List.getElem?_eq_none (Nat.le_refl _)

theorem register_of_slot {slot : Nat} (h : t.slot? key = some slot) (allow : Bool) :
    t.register key allow =
      if allow then ⟨t, [], .ok slot⟩ else .refuse t (.duplicateKey key) := by
  unfold slot? at h
  rw [register, h]

theorem register_of_new (h : t.slot? key = none) (allow : Bool) :
    t.register key allow = ⟨t.append key, [], .ok t.size⟩ := by
  unfold slot? at h
  rw [register, h]
  rfl

/-! ## Tables in order -/

/-- A key has a slot exactly if the slot has the key. -/
def Inverse (t : KeyTable) : Prop := ∀ key slot, t.slot? key = some slot ↔ t.key? slot = some key

theorem inverse_empty : empty.Inverse := fun _ _ => ⟨nofun, nofun⟩

theorem Inverse.slot?_eq_none_iff (h : t.Inverse) : t.slot? key = none ↔ key ∉ t.keys := by
  rw [List.mem_iff_getElem?, ← Option.not_isSome_iff_eq_none, Option.isSome_iff_exists]
  exact not_congr (exists_congr fun slot => h key slot)

/-- A new key in the next slot: neither can be mistaken for what was there before. -/
theorem Inverse.append (h : t.Inverse) (hnew : t.slot? key = none) : (t.append key).Inverse := by
  intro k slot
  rw [slot?_append, key?_append]
  by_cases hkey : k = key
  · by_cases hslot : slot = t.size
    · rw [if_pos hkey, if_pos hslot, hkey, hslot]
      exact ⟨fun _ => rfl, fun _ => rfl⟩
    · rw [if_pos hkey, if_neg hslot, ← h k slot, hkey, hnew]
      exact ⟨fun hsize => absurd (Option.some.inj hsize).symm hslot, nofun⟩
  · by_cases hslot : slot = t.size
    · rw [if_neg hkey, if_pos hslot, h k slot, hslot, key?_size]
      exact ⟨nofun, fun hfirst => absurd (Option.some.inj hfirst).symm hkey⟩
    · rw [if_neg hkey, if_neg hslot]
      exact h k slot

theorem Inverse.register (h : t.Inverse) (key : String) (allow : Bool) :
    (t.register key allow).state.Inverse := by
  cases hslot : t.slot? key with
  | some slot =>
    rw [register_of_slot hslot]
    cases allow <;> exact h
  | none =>
    rw [register_of_new hslot]
    exact h.append hslot

theorem Inverse.nodup (h : t.Inverse) : t.keys.Nodup := by
  refine List.pairwise_iff_getElem.mpr fun i j hi hj hlt hsame => ?_
  -- one key at two places would have two slots
  have hfirst : t.slot? t.keys[i] = some i := (h _ i).mpr (List.getElem?_eq_getElem hi)
  have hsecond : t.slot? t.keys[i] = some j := (h _ j).mpr (hsame ▸ List.getElem?_eq_getElem hj)
  rw [hfirst] at hsecond
  exact Nat.ne_of_lt hlt (Option.some.inj hsecond)

end KeyTable

/-! ## Registries -/

/-- Different keys with their slots, in the order of their registration. -/
structure KeyRegistry extends KeyTable where
  inverse : toKeyTable.Inverse
  deriving DecidableEq

namespace KeyRegistry

def empty : KeyRegistry := ⟨.empty, KeyTable.inverse_empty⟩

instance : Inhabited KeyRegistry := ⟨empty⟩

theorem nodup (r : KeyRegistry) : r.keys.Nodup := r.inverse.nodup

/-- The registry with a new key in the next slot. -/
def append (r : KeyRegistry) (key : String) (new : key ∉ r.keys) : KeyRegistry :=
  ⟨r.toKeyTable.append key, r.inverse.append (r.inverse.slot?_eq_none_iff.mpr new)⟩

/-- Registers a key in a table that is in order, and returns its slot. -/
def register (r : KeyRegistry) (key : String) (allowRepeats : Bool) :
    Except IndexError (KeyRegistry × Nat) :=
  let step := r.toKeyTable.register key allowRepeats
  step.result.map fun slot => (⟨step.state, r.inverse.register key allowRepeats⟩, slot)

theorem register_of_slot {r : KeyRegistry} {key : String} {slot : Nat}
    (h : r.slot? key = some slot) (allow : Bool) :
    r.register key allow = if allow then .ok (r, slot) else .error (.duplicateKey key) := by
  cases allow <;> simp [register, KeyTable.register_of_slot h, Step.refuse, Except.map]

theorem register_of_not_mem {r : KeyRegistry} {key : String} (h : key ∉ r.keys) (allow : Bool) :
    r.register key allow = .ok (r.append key h, r.size) := by
  simp [register, KeyTable.register_of_new (r.inverse.slot?_eq_none_iff.mpr h), append, Except.map]

/-- Registers keys one after the other. -/
def registerAll (r : KeyRegistry) (keys : List String) (allowRepeats : Bool) :
    Except IndexError KeyRegistry :=
  keys.foldlM (fun r key => (r.register key allowRepeats).map Prod.fst) r

/-- The registry of the given keys. -/
def ofList (keys : List String) (allowRepeats : Bool) : Except IndexError KeyRegistry :=
  empty.registerAll keys allowRepeats

end KeyRegistry

end Gazetteer
