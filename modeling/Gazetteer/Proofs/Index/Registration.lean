import Gazetteer.Index.KeyRegistry
import Gazetteer.Proofs.SortedMaps

/-!
# What a registry holds after registering

The list of its keys says all about a table in order: the slot of a key is its place in the list, so
tables with the same list are the same (`KeyTable.Inverse.eq_of_keys_eq`).

Registering keys one after the other is a loop that may stop at any of them. Its outcome has a
description without the loop: the keys in the order in which they first occur (`List.eraseDups`),
provided that repeats are allowed or there are none (`registerAll_eq_ok_iff`); and otherwise the
earliest key that occurred before (`registerAll_eq_error_iff`).
-/

set_option autoImplicit false

namespace Gazetteer

/-! ## First occurrences -/

theorem nodup_eraseDups (keys : List String) : keys.eraseDups.Nodup := by
  -- not on the list itself: `eraseDups` goes on with a filtered tail
  induction h : keys.length using Nat.strongRecOn generalizing keys with
  | ind n ih =>
    cases keys with
    | nil => exact List.nodup_nil
    | cons key rest =>
      rw [List.eraseDups_cons, List.nodup_cons]
      refine ⟨by simp [List.mem_eraseDups], ih _ ?_ _ rfl⟩
      have hle := List.length_filter_le (fun b => !b == key) rest
      rw [List.length_cons] at h
      omega

theorem eraseDups_eq_self {keys : List String} (h : keys.Nodup) : keys.eraseDups = keys := by
  induction keys with
  | nil => rfl
  | cons key rest ih =>
    obtain ⟨hkey, hrest⟩ := List.nodup_cons.mp h
    have hfilter : (rest.filter fun b => !b == key) = rest := by
      rw [List.filter_eq_self]
      intro b hb
      have hne : b ≠ key := fun heq => hkey (heq ▸ hb)
      simpa using hne
    rw [List.eraseDups_cons, hfilter, ih hrest]

/-- A key that is there already adds nothing to the first occurrences. -/
theorem eraseDups_append_cons_of_mem {before : List String} {key : String} (h : key ∈ before)
    (rest : List String) : (before ++ key :: rest).eraseDups = (before ++ rest).eraseDups := by
  have hdrop : (key :: rest).removeAll before = rest.removeAll before := by
    simp [List.removeAll, h]
  rw [List.eraseDups_append, List.eraseDups_append, hdrop]

/-! ## Slots -/

namespace KeyTable

variable {t t' : KeyTable}

theorem Inverse.exists_slot (h : t.Inverse) {key : String} (hkey : key ∈ t.keys) :
    ∃ slot, t.slot? key = some slot :=
  Option.ne_none_iff_exists'.mp fun hnone => h.slot?_eq_none_iff.mp hnone hkey

theorem Inverse.contains_eq (h : t.Inverse) (key : String) :
    t.contains key = t.keys.contains key := by
  rw [Bool.eq_iff_iff, List.contains_iff_mem, contains, SortedMap.contains,
    Option.isSome_iff_ne_none]
  exact (not_congr h.slot?_eq_none_iff).trans not_not

/-- The slot of a key is the place of the key in the list. -/
theorem Inverse.slot?_eq_idxOf? (h : t.Inverse) (key : String) :
    t.slot? key = t.keys.idxOf? key := by
  refine Option.ext fun slot => ?_
  rw [h key slot, key?, List.idxOf?_eq_some_iff, List.getElem?_eq_some_iff]
  constructor
  · rintro ⟨hslot, hkey⟩
    refine ⟨hslot, hkey, fun earlier hearlier heq => ?_⟩
    -- the same key at an earlier slot would be there twice
    have hsame := h.nodup.getElem_inj_iff.mp (heq.trans hkey.symm)
    omega
  · rintro ⟨hslot, hkey, -⟩
    exact ⟨hslot, hkey⟩

theorem Inverse.eq_of_keys_eq (h : t.Inverse) (h' : t'.Inverse) (hkeys : t.keys = t'.keys) :
    t = t' := by
  have hslots : t.slots = t'.slots := by
    refine SortedMap.ext_get? fun key => ?_
    show t.slot? key = t'.slot? key
    rw [h.slot?_eq_idxOf?, h'.slot?_eq_idxOf?, hkeys]
  cases t
  cases t'
  cases hslots
  cases hkeys
  rfl

end KeyTable

/-! ## Registering -/

namespace KeyRegistry

theorem toKeyTable_inj {r r' : KeyRegistry} : r.toKeyTable = r'.toKeyTable ↔ r = r' := by
  cases r
  cases r'
  simp

theorem eq_of_keys_eq {r r' : KeyRegistry} (hkeys : r.keys = r'.keys) : r = r' :=
  toKeyTable_inj.mp (r.inverse.eq_of_keys_eq r'.inverse hkeys)

theorem registerAll_nil (r : KeyRegistry) (allow : Bool) : r.registerAll [] allow = .ok r := rfl

/-- A key that is registered already is passed over or stops the registration. -/
theorem registerAll_cons_of_mem {r : KeyRegistry} {key : String} (h : key ∈ r.keys)
    (rest : List String) (allow : Bool) :
    r.registerAll (key :: rest) allow =
      if allow then r.registerAll rest allow else .error (.duplicateKey key) := by
  obtain ⟨slot, hslot⟩ := r.inverse.exists_slot h
  rw [registerAll, List.foldlM_cons, register_of_slot hslot]
  cases allow <;> rfl

theorem registerAll_cons_of_not_mem {r : KeyRegistry} {key : String} (h : key ∉ r.keys)
    (rest : List String) (allow : Bool) :
    r.registerAll (key :: rest) allow = (r.append key h).registerAll rest allow := by
  rw [registerAll, List.foldlM_cons, register_of_not_mem h]
  rfl

theorem append_keys_append (r : KeyRegistry) {key : String} (h : key ∉ r.keys)
    (rest : List String) : (r.append key h).keys ++ rest = r.keys ++ key :: rest :=
  List.append_assoc r.keys [key] rest

/-- A list is registered in full unless one of its keys repeats and may not. -/
theorem registerAll_eq_ok_iff {allow : Bool} :
    ∀ {keys : List String} {r r' : KeyRegistry},
      r.registerAll keys allow = .ok r' ↔
        (allow = true ∨ (r.keys ++ keys).Nodup) ∧ r'.keys = (r.keys ++ keys).eraseDups := by
  intro keys
  induction keys with
  | nil =>
    intro r r'
    rw [registerAll_nil, List.append_nil, eraseDups_eq_self r.nodup]
    constructor
    · intro h
      cases h
      exact ⟨Or.inr r.nodup, rfl⟩
    · rintro ⟨-, hkeys⟩
      exact congrArg Except.ok (eq_of_keys_eq hkeys.symm)
  | cons key rest ih =>
    intro r r'
    by_cases hmem : key ∈ r.keys
    · rw [registerAll_cons_of_mem hmem]
      cases allow with
      | true =>
        rw [if_pos rfl, ih, eraseDups_append_cons_of_mem hmem]
        simp
      | false =>
        have hrep : ¬ (r.keys ++ key :: rest).Nodup := fun h =>
          (List.nodup_append.mp h).2.2 key hmem key List.mem_cons_self rfl
        simp [hrep]
    · rw [registerAll_cons_of_not_mem hmem, ih, append_keys_append]

/-- A list is refused for the earliest key that stood before it, and only if none may. -/
theorem registerAll_eq_error_iff {allow : Bool} {e : IndexError} :
    ∀ {keys : List String} {r : KeyRegistry},
      r.registerAll keys allow = .error e ↔
        allow = false ∧ ∃ before key after, keys = before ++ key :: after ∧
          (r.keys ++ before).Nodup ∧ key ∈ r.keys ++ before ∧ e = .duplicateKey key := by
  intro keys
  induction keys with
  | nil =>
    intro r
    simp [registerAll_nil]
  | cons key rest ih =>
    intro r
    by_cases hmem : key ∈ r.keys
    · rw [registerAll_cons_of_mem hmem]
      cases allow with
      | true =>
        rw [if_pos rfl, ih]
        simp
      | false =>
        rw [if_neg Bool.false_ne_true]
        constructor
        · intro h
          cases h
          exact ⟨rfl, [], key, rest, rfl, by simpa using r.nodup, by simpa using hmem, rfl⟩
        · rintro ⟨-, before, key', after, hsplit, hnodup, hmem', rfl⟩
          cases before with
          | nil => rw [(List.cons.inj hsplit).1]
          | cons first before =>
            rw [← (List.cons.inj hsplit).1] at hnodup
            exact absurd rfl ((List.nodup_append.mp hnodup).2.2 key hmem key List.mem_cons_self)
    · rw [registerAll_cons_of_not_mem hmem, ih]
      simp only [append_keys_append]
      refine and_congr_right fun _ => ⟨?_, ?_⟩
      · rintro ⟨before, key', after, rfl, hnodup, hmem', rfl⟩
        exact ⟨key :: before, key', after, rfl, hnodup, hmem', rfl⟩
      · rintro ⟨before, key', after, hsplit, hnodup, hmem', rfl⟩
        cases before with
        | nil =>
          rw [← (List.cons.inj hsplit).1, List.append_nil] at hmem'
          exact absurd hmem' hmem
        | cons first before =>
          obtain ⟨rfl, rfl⟩ := List.cons.inj hsplit
          exact ⟨before, key', after, rfl, hnodup, hmem', rfl⟩

theorem ofList_eq_ok_iff {keys : List String} {allow : Bool} {r : KeyRegistry} :
    ofList keys allow = .ok r ↔ (allow = true ∨ keys.Nodup) ∧ r.keys = keys.eraseDups :=
  registerAll_eq_ok_iff

theorem ofList_eq_error_iff {keys : List String} {allow : Bool} {e : IndexError} :
    ofList keys allow = .error e ↔
      allow = false ∧ ∃ before key after, keys = before ++ key :: after ∧
        before.Nodup ∧ key ∈ before ∧ e = .duplicateKey key :=
  registerAll_eq_error_iff

theorem exists_ofList_eq_ok {keys : List String} {allow : Bool}
    (h : allow = true ∨ keys.Nodup) : ∃ r, ofList keys allow = .ok r := by
  cases hresult : ofList keys allow with
  | ok r => exact ⟨r, rfl⟩
  | error e =>
    obtain ⟨hstrict, before, key, after, rfl, -, hmem, -⟩ := ofList_eq_error_iff.mp hresult
    rcases h with hallow | hnodup
    · exact absurd (hstrict.symm.trans hallow) Bool.false_ne_true
    · exact absurd rfl ((List.nodup_append.mp hnodup).2.2 key hmem key List.mem_cons_self)

theorem exists_ofList_eq_error {keys : List String} (h : ¬ keys.Nodup) :
    ∃ before key after, keys = before ++ key :: after ∧ before.Nodup ∧ key ∈ before ∧
      ofList keys false = .error (.duplicateKey key) := by
  cases hresult : ofList keys false with
  | ok r => exact absurd ((ofList_eq_ok_iff.mp hresult).1.resolve_left Bool.false_ne_true) h
  | error e =>
    obtain ⟨-, before, key, after, hsplit, hnodup, hmem, rfl⟩ := ofList_eq_error_iff.mp hresult
    exact ⟨before, key, after, hsplit, hnodup, hmem, rfl⟩

end KeyRegistry

end Gazetteer
