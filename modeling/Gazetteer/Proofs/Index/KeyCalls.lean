import Gazetteer.Proofs.Index.Registration

/-!
# Keys and slots under all calls

A table of keys is asked to register one key after the other, now with leave to repeat and now
without, and it goes on after a call that it refused. Its map and its list are changed separately,
and yet they stay inverse, which is one case for a key that is there and one for a key that is new
(`Inverse.register`). So the whole of a run comes down to its list of keys: the keys that were asked
for, each where it was asked for first (`Inverse.keys_run`). The list only grows at the end, so no
slot changes (`Inverse.slot?_run`).

A registry that was built is the table after one call for each of its keys (`toKeyTable_of_ofList`),
so all of this holds of it too. **What keys, slots and builds promise together** is `keyContract`.
-/

set_option autoImplicit false

namespace Gazetteer

namespace KeyTable

/-! ## Calls -/

/-- A key to be registered, and whether it may be there already. -/
structure Call where
  key : String
  allowRepeats : Bool
  deriving DecidableEq, Repr

def serve (t : KeyTable) (c : Call) : Step KeyTable IndexError Nat :=
  t.register c.key c.allowRepeats

/-- The table after the calls, whether or not they were refused. -/
def run (t : KeyTable) (calls : List Call) : KeyTable :=
  calls.foldl (fun t c => (t.serve c).state) t

/-- Calls for all keys alike. -/
def callsFor (keys : List String) (allowRepeats : Bool) : List Call :=
  keys.map fun key => ⟨key, allowRepeats⟩

variable {t : KeyTable} {key : String}

theorem run_cons (t : KeyTable) (c : Call) (rest : List Call) :
    t.run (c :: rest) = (t.serve c).state.run rest := rfl

theorem run_append (t : KeyTable) (calls more : List Call) :
    t.run (calls ++ more) = (t.run calls).run more :=
  List.foldl_append

theorem map_key_callsFor (keys : List String) (allow : Bool) :
    (callsFor keys allow).map Call.key = keys := by
  rw [callsFor, List.map_map]
  exact List.map_id keys

/-! ## One call -/

theorem Inverse.state_register_of_mem (h : t.Inverse) (hkey : key ∈ t.keys) (allow : Bool) :
    (t.register key allow).state = t := by
  obtain ⟨slot, hslot⟩ := h.exists_slot hkey
  rw [register_of_slot hslot]
  cases allow <;> rfl

theorem Inverse.register_of_not_mem (h : t.Inverse) (hkey : key ∉ t.keys) (allow : Bool) :
    t.register key allow = ⟨t.append key, [], .ok t.size⟩ :=
  register_of_new (h.slot?_eq_none_iff.mpr hkey) allow

/-- A slot that is taken stays taken by its key. -/
theorem slot?_register {slot : Nat} (hslot : t.slot? key = some slot) (k : String) (allow : Bool) :
    (t.register k allow).state.slot? key = some slot := by
  cases hk : t.slot? k with
  | some other =>
    rw [register_of_slot hk]
    cases allow <;> exact hslot
  | none =>
    -- the map is changed for a key that it does not have
    have hne : key ≠ k := by
      rintro rfl
      rw [hslot] at hk
      cases hk
    rw [register_of_new hk, slot?_append, if_neg hne]
    exact hslot

/-! ## Many calls -/

theorem Inverse.run : ∀ (calls : List Call) {t : KeyTable}, t.Inverse → (t.run calls).Inverse := by
  intro calls
  induction calls with
  | nil => intro t h; exact h
  | cons c rest ih => intro t h; exact ih (h.register c.key c.allowRepeats)

/-- The keys of a run are those it began with and those it was asked for, each in its first place. -/
theorem Inverse.keys_run : ∀ (calls : List Call) {t : KeyTable}, t.Inverse →
    (t.run calls).keys = (t.keys ++ calls.map Call.key).eraseDups := by
  intro calls
  induction calls with
  | nil =>
    intro t h
    rw [List.map_nil, List.append_nil, eraseDups_eq_self h.nodup]
    rfl
  | cons c rest ih =>
    intro t h
    rw [run_cons, serve, ih (h.register c.key c.allowRepeats), List.map_cons]
    by_cases hmem : c.key ∈ t.keys
    · rw [h.state_register_of_mem hmem, eraseDups_append_cons_of_mem hmem]
    · rw [h.register_of_not_mem hmem]
      exact congrArg List.eraseDups (List.append_assoc t.keys [c.key] _)

theorem slot?_run : ∀ (calls : List Call) {t : KeyTable} {slot : Nat}, t.slot? key = some slot →
    (t.run calls).slot? key = some slot := by
  intro calls
  induction calls with
  | nil => intro t slot h; exact h
  | cons c rest ih => intro t slot h; exact ih (slot?_register h c.key c.allowRepeats)

/-! ## What a table promises -/

/-- What is true of a table after calls to an empty one, whichever of them were refused. -/
structure CallContract (calls : List Call) (t : KeyTable) : Prop where
  /-- Keys and slots determine each other. -/
  inverse : ∀ key slot, t.slot? key = some slot ↔ t.key? slot = some key
  /-- In slot order stand the keys of the calls, each where it came first. -/
  keys : t.keys = (calls.map Call.key).eraseDups
  contains : ∀ key, t.contains key = true ↔ key ∈ calls.map Call.key
  /-- A key that never came before gets the next slot. -/
  new : ∀ key allow, key ∉ calls.map Call.key →
    (t.register key allow).result = .ok t.keys.length ∧
      (t.register key allow).state.keys = t.keys ++ [key]
  /--
  A key that came before was given a slot the first time. It is given that slot again, or it is
  refused; neither changes anything.
  -/
  repeated : ∀ before c after, calls = before ++ c :: after → c.key ∉ before.map Call.key →
    ∃ slot, ((empty.run before).serve c).result = .ok slot ∧
      t.register c.key true = ⟨t, [], .ok slot⟩ ∧
      t.register c.key false = ⟨t, [], .error (.duplicateKey c.key)⟩
  /-- Whatever is called for later, a key keeps its slot. -/
  stays : ∀ key slot, t.slot? key = some slot →
    ∀ more, (t.run more).slot? key = some slot ∧ (t.run more).key? slot = some key

theorem keys_run_empty (calls : List Call) :
    (empty.run calls).keys = (calls.map Call.key).eraseDups :=
  inverse_empty.keys_run calls

/-- A call that is refused leaves nothing behind, and a repeated key stays in its place. -/
example : (empty.run [⟨"b", false⟩, ⟨"a", true⟩, ⟨"b", false⟩, ⟨"b", true⟩, ⟨"c", false⟩]).keys =
    ["b", "a", "c"] := by
  decide +kernel

theorem mem_keys_run_empty {calls : List Call} :
    key ∈ (empty.run calls).keys ↔ key ∈ calls.map Call.key := by
  rw [keys_run_empty, List.mem_eraseDups]

theorem callContract_run (calls : List Call) : CallContract calls (empty.run calls) where
  inverse := inverse_empty.run calls
  keys := keys_run_empty calls
  contains := by
    intro key
    rw [(inverse_empty.run calls).contains_eq, List.contains_iff_mem, mem_keys_run_empty]
  new := by
    intro key allow hnew
    rw [(inverse_empty.run calls).register_of_not_mem (mt mem_keys_run_empty.mp hnew)]
    exact ⟨rfl, rfl⟩
  repeated := by
    rintro before c after rfl hfirst
    have hserve : (empty.run before).serve c =
        ⟨(empty.run before).append c.key, [], .ok (empty.run before).size⟩ :=
      (inverse_empty.run before).register_of_not_mem (mt mem_keys_run_empty.mp hfirst) _
    -- the slot of the first time is there right after it, so it is there in the end
    have hslot : (empty.run (before ++ c :: after)).slot? c.key =
        some (empty.run before).size := by
      rw [run_append, run_cons, hserve]
      exact slot?_run after (by rw [slot?_append, if_pos rfl])
    refine ⟨(empty.run before).size, by rw [hserve], ?_, ?_⟩
    · rw [register_of_slot hslot, if_pos rfl]
    · rw [register_of_slot hslot, if_neg Bool.false_ne_true, Step.refuse]
  stays := by
    intro key slot hslot more
    have hlater := slot?_run more hslot
    have hinverse := (inverse_empty.run calls).run more
    exact ⟨hlater, (hinverse key slot).mp hlater⟩

end KeyTable

/-! ## Registries and their tables -/

namespace KeyRegistry

open KeyTable

/-- A registry accepts what its table accepts, with the same slot, and goes on with the new table. -/
theorem register_eq_ok_iff {r r' : KeyRegistry} {key : String} {allow : Bool} {slot : Nat} :
    r.register key allow = .ok (r', slot) ↔
      r.toKeyTable.register key allow = ⟨r'.toKeyTable, [], .ok slot⟩ := by
  by_cases hkey : key ∈ r.keys
  · obtain ⟨first, hfirst⟩ := r.inverse.exists_slot hkey
    rw [register_of_slot hfirst, KeyTable.register_of_slot hfirst]
    cases allow with
    | true => simp [← toKeyTable_inj]
    | false => simp [Step.refuse]
  · rw [register_of_not_mem hkey, r.inverse.register_of_not_mem hkey]
    simp [← toKeyTable_inj, append]

/-- A registry refuses what its table refuses, and then the table is as it was. -/
theorem register_eq_error_iff {r : KeyRegistry} {key : String} {allow : Bool} {e : IndexError} :
    r.register key allow = .error e ↔
      r.toKeyTable.register key allow = ⟨r.toKeyTable, [], .error e⟩ := by
  by_cases hkey : key ∈ r.keys
  · obtain ⟨first, hfirst⟩ := r.inverse.exists_slot hkey
    rw [register_of_slot hfirst, KeyTable.register_of_slot hfirst]
    cases allow <;> simp [Step.refuse]
  · rw [register_of_not_mem hkey, r.inverse.register_of_not_mem hkey]
    simp

/-- A build that succeeds has made its calls one after the other. -/
theorem toKeyTable_of_ofList {keys : List String} {allow : Bool} {r : KeyRegistry}
    (h : ofList keys allow = .ok r) : r.toKeyTable = KeyTable.empty.run (callsFor keys allow) := by
  refine r.inverse.eq_of_keys_eq (inverse_empty.run _) ?_
  rw [(ofList_eq_ok_iff.mp h).2, keys_run_empty, map_key_callsFor]

/-- What keys and slots promise after any calls and after any build. -/
structure KeyContract (keys : List String) (allow : Bool) (calls : List Call) : Prop where
  run : CallContract calls (KeyTable.empty.run calls)
  /-- A registry makes its calls to its table, and keeps it where a key is refused. -/
  registers : ∀ (r r' : KeyRegistry) key slot, r.register key allow = .ok (r', slot) ↔
    r.toKeyTable.register key allow = ⟨r'.toKeyTable, [], .ok slot⟩
  refuses : ∀ (r : KeyRegistry) key e, r.register key allow = .error e ↔
    r.toKeyTable.register key allow = ⟨r.toKeyTable, [], .error e⟩
  /-- What was built is like a table that was called for each of the keys. -/
  built : ∀ r, ofList keys allow = .ok r →
    CallContract (callsFor keys allow ++ calls) (r.toKeyTable.run calls)
  succeeds : (∃ r, ofList keys allow = .ok r) ↔ allow = true ∨ keys.Nodup
  /-- A build that fails names the earliest key that repeats one before it. -/
  fails : allow = false → ¬ keys.Nodup → ∃ before key after, keys = before ++ key :: after ∧
    before.Nodup ∧ key ∈ before ∧ ofList keys allow = .error (.duplicateKey key)

/-- **Keys and slots stay together**, after any mix of accepted and refused calls, and in builds. -/
theorem keyContract (keys : List String) (allow : Bool) (calls : List Call) :
    KeyContract keys allow calls where
  run := callContract_run calls
  registers := fun _ _ _ _ => register_eq_ok_iff
  refuses := fun _ _ _ => register_eq_error_iff
  built := by
    intro r h
    rw [toKeyTable_of_ofList h, ← run_append]
    exact callContract_run _
  succeeds := by
    refine ⟨?_, exists_ofList_eq_ok⟩
    rintro ⟨r, h⟩
    exact (ofList_eq_ok_iff.mp h).1
  fails := by
    intro hstrict hrepeat
    rw [hstrict]
    exact exists_ofList_eq_error hrepeat

end KeyRegistry

end Gazetteer
