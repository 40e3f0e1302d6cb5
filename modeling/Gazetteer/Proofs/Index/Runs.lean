import Gazetteer.Proofs.Encoding.FailedTraining
import Gazetteer.Proofs.Index.Building
import Gazetteer.Proofs.Index.Searching
import Mathlib.Data.List.Nodup

/-!
# Runs of an index

An index is registered for, cleared and built, in any order, with whatever encoders and whether or
not it works. What holds of its content all the while is `Filled`: every vector has the width of the
index, stands beside its own norm, and has a key of its own. Registering and clearing leave the
content alone, and a build replaces it by `contentOf`, whatever the content was before; so the step
lemma needs one look at `contentOf` and no more (`Filled.build`).

The content can be held in three columns, for keys, vectors and norms (`Columns`), where a vector is
found by the slot of its key, and a search ranks slots and looks up keys at the end
(`Columns.Hold.find_eq`). A build fills the columns slot by slot, and each key has to be new to
its column. It always is (`exists_foldlM_fillSlot`), although the slots of the build are not those
of the columns: behind a slot that stays empty, all keys move up.
-/

set_option autoImplicit false

namespace Gazetteer

/-! ## Slots -/

/-- Keys and slots determine each other. -/
theorem KeyRegistry.slot?_eq_some_iff (r : KeyRegistry) (key : String) (slot : Nat) :
    r.slot? key = some slot ↔ r.key? slot = some key :=
  r.inverse key slot

namespace VectorIndex

/-! ## Columns -/

/-- The content of an index in columns: keys with their slots, vectors, and norms. -/
structure Columns where
  keys : KeyRegistry
  vectors : List DenseVector
  norms : List Binary32

namespace Columns

def empty : Columns := ⟨.empty, [], []⟩

/-- Puts a stored vector into the next slot. Its key has to be new. -/
def push (c : Columns) (s : StoredVector) : Except IndexError Columns :=
  (c.keys.register s.key false).map fun (keys, _) =>
    ⟨keys, c.vectors ++ [s.vector], c.norms ++ [s.norm]⟩

def vector? (c : Columns) (key : String) : Option DenseVector :=
  (c.keys.slot? key).bind fun slot => c.vectors[slot]?

/-- All slots with their similarities to a query. -/
def scored (c : Columns) (metric : Metric) (query : DenseVector) : List (Nat × Binary32) :=
  let queryNorm := DenseVector.norm query
  (c.vectors.zip c.norms).zipIdx.map fun row =>
    (row.2, metric.similarity query queryNorm row.1.1 row.1.2)

/-- A search ranks slots, and looks up the keys of those it returns. -/
def find (c : Columns) (dimensions : Nat) (metric : Metric) (query : DenseVector) (k : Nat) :
    Except IndexError (List IndexHit) :=
  if k = 0 ∨ c.vectors.isEmpty then .ok []
  else if query.size ≠ dimensions then .error (.queryWidth dimensions query.size)
  else if !metric.accepts (DenseVector.norm query) then .ok []
  else .ok (((sortBySimilarity Prod.snd (c.scored metric query)).take k).filterMap fun row =>
    (c.keys.key? row.1).map fun key => ⟨key, row.2⟩)

/-- At each slot, the columns have what the stored vector has. -/
structure Hold (c : Columns) (stored : List StoredVector) : Prop where
  keys : c.keys.keys = stored.map StoredVector.key
  vectors : c.vectors = stored.map StoredVector.vector
  norms : c.norms = stored.map StoredVector.norm

/-- Columns that belong together, of vectors of one width. -/
structure Aligned (c : Columns) (dimensions : Nat) : Prop where
  vectors_length : c.vectors.length = c.keys.size
  norms_length : c.norms.length = c.keys.size
  width : ∀ vector ∈ c.vectors, vector.size = dimensions
  norm : c.norms = c.vectors.map DenseVector.norm
  slots : ∀ key slot, c.keys.slot? key = some slot ↔ c.keys.key? slot = some key

variable {c : Columns} {stored : List StoredVector}

theorem Hold.push (h : c.Hold stored) {s : StoredVector}
    (hnew : s.key ∉ stored.map StoredVector.key) :
    ∃ c', c.push s = .ok c' ∧ c'.Hold (stored ++ [s]) := by
  have hkey : s.key ∉ c.keys.keys := h.keys ▸ hnew
  refine ⟨⟨c.keys.append s.key hkey, c.vectors ++ [s.vector], c.norms ++ [s.norm]⟩, ?_, ?_, ?_, ?_⟩
  · rw [Columns.push, KeyRegistry.register_of_not_mem hkey]
    rfl
  · rw [List.map_append, List.map_singleton, ← h.keys]
    rfl
  · rw [h.vectors, List.map_append, List.map_singleton]
  · rw [h.norms, List.map_append, List.map_singleton]

/-- Vectors with keys of their own are put into columns one after the other. -/
theorem Hold.foldlM_push :
    ∀ {rest stored : List StoredVector} {c : Columns}, c.Hold stored →
      ((stored ++ rest).map StoredVector.key).Nodup →
      ∃ c', rest.foldlM Columns.push c = .ok c' ∧ c'.Hold (stored ++ rest) := by
  intro rest
  induction rest with
  | nil =>
    intro stored c h _
    exact ⟨c, rfl, (List.append_nil stored).symm ▸ h⟩
  | cons s rest ih =>
    intro stored c h hnodup
    have hnew : s.key ∉ stored.map StoredVector.key := by
      rw [List.map_append, List.map_cons] at hnodup
      intro hmem
      exact (List.nodup_append.mp hnodup).2.2 _ hmem _ List.mem_cons_self rfl
    obtain ⟨c₁, hpush, hold⟩ := h.push hnew
    obtain ⟨c', hrest, hold'⟩ := ih hold (by rwa [List.append_assoc, List.singleton_append])
    refine ⟨c', ?_, by rwa [List.append_assoc, List.singleton_append] at hold'⟩
    rw [List.foldlM_cons, hpush]
    exact hrest

theorem Hold.get?_eq {x : VectorIndex} (h : c.Hold x.stored) (key : String) :
    x.get? key = c.vector? key := by
  rw [get?, vector?, c.keys.inverse.slot?_eq_idxOf?, h.keys, h.vectors, List.idxOf?,
    List.findIdx?_map, List.find?_eq_bind_findIdx?_getElem?]
  show ((x.stored.findIdx? fun s => s.key == key).bind _).map _ =
    (x.stored.findIdx? fun s => s.key == key).bind _
  simp only [Option.map_bind, List.getElem?_map, Function.comp_def]

/-- What stands at a slot has its key there. -/
theorem Hold.key?_eq (h : c.Hold stored) {s : StoredVector} {slot : Nat}
    (hs : (s, slot) ∈ stored.zipIdx) : c.keys.key? slot = some s.key := by
  show c.keys.keys[slot]? = some s.key
  rw [h.keys, List.getElem?_map, List.mem_zipIdx_iff_getElem?.mp hs, Option.map_some]

/-- Searching the columns is searching the content. -/
theorem Hold.find_eq {x : VectorIndex} (h : c.Hold x.stored) (query : DenseVector) (k : Nat) :
    x.find query k = c.find x.dimensions x.settings.metric query k := by
  let similarity (s : StoredVector) : Binary32 :=
    x.settings.metric.similarity query (DenseVector.norm query) s.vector s.norm
  let ranking : List (StoredVector × Nat) :=
    sortBySimilarity (fun row => similarity row.1) x.stored.zipIdx
  -- both searches sort the same rows, one with keys beside the similarities, one with slots
  have hkeys : x.ranked query = ranking.map fun row => ⟨row.1.key, similarity row.1⟩ := by
    have hscored : x.scored query =
        x.stored.zipIdx.map fun row => ⟨row.1.key, similarity row.1⟩ := by
      have hrows := congrArg (List.map fun s => (⟨s.key, similarity s⟩ : IndexHit))
        (List.zipIdx_map_fst 0 x.stored)
      rw [List.map_map] at hrows
      exact hrows.symm
    rw [ranked, hscored, sortBySimilarity_map]
  have hslots : sortBySimilarity Prod.snd (c.scored x.settings.metric query) =
      ranking.map fun row => (row.2, similarity row.1) := by
    have hscored : c.scored x.settings.metric query =
        x.stored.zipIdx.map fun row => (row.2, similarity row.1) := by
      rw [Columns.scored, h.vectors, h.norms, List.zip_map', List.zipIdx_map, List.map_map]
      rfl
    rw [hscored, sortBySimilarity_map]
  have hhits : ((ranking.map fun row => (row.2, similarity row.1)).take k).filterMap
      (fun row => (c.keys.key? row.1).map fun key => (⟨key, row.2⟩ : IndexHit)) =
        (ranking.map fun row => ⟨row.1.key, similarity row.1⟩).take k := by
    rw [← List.map_take, ← List.map_take, List.filterMap_map, ← List.filterMap_eq_map]
    refine List.filterMap_congr fun row hrow => ?_
    have hmem : row ∈ x.stored.zipIdx :=
      (sortBySimilarity_perm _).mem_iff.mp (List.mem_of_mem_take hrow)
    simp only [Function.comp_apply, h.key?_eq hmem, Option.map_some]
  have hempty : c.vectors.isEmpty = x.isEmpty := by
    rw [h.vectors, isEmpty, List.isEmpty_map]
  rw [VectorIndex.find, Columns.find, hslots, hhits, ← hkeys, hempty]

end Columns

/-! ## Filling the columns -/

section Filling

variable {ε : Type} [TextEncoder ε]

/-- Puts the vector of a key into the columns, if there is one. -/
def fillSlot (dimensions : Nat) (encoder : ε) (entries : List (String × String)) (c : Columns)
    (key : String) : Except IndexError Columns :=
  match encodeKey dimensions encoder entries key with
  | .ok s => c.push s
  | .error _ => .ok c

theorem foldlM_fillSlot (dimensions : Nat) (encoder : ε) (entries : List (String × String)) :
    ∀ (keys : List String) (c : Columns),
      keys.foldlM (fillSlot dimensions encoder entries) c =
        (values (keys.map (encodeKey dimensions encoder entries))).foldlM Columns.push c := by
  intro keys
  induction keys with
  | nil => intro c; rfl
  | cons key rest ih =>
    intro c
    rw [List.foldlM_cons, List.map_cons, values, List.filterMap_cons, fillSlot]
    cases encodeKey dimensions encoder entries key with
    | error e => exact ih c
    | ok s =>
      simp only [Except.toOption, List.foldlM_cons]
      exact bind_congr ih

theorem nodup_map_key_contentOf (x : VectorIndex) (encoder : ε) (entries : List (String × String)) :
    ((x.contentOf encoder entries).map StoredVector.key).Nodup := by
  rw [map_key_contentOf]
  exact (x.nodup_slotKeys entries).filter _

/-- Filling the columns never fails, and in the end they hold the new content. -/
theorem exists_foldlM_fillSlot (x : VectorIndex) (encoder : ε) (entries : List (String × String)) :
    ∃ c, (x.slotKeys entries).foldlM (fillSlot x.dimensions encoder entries) .empty = .ok c ∧
      c.Hold (x.contentOf encoder entries) := by
  rw [foldlM_fillSlot, values_encodeKey]
  have hempty : Columns.empty.Hold [] := ⟨rfl, rfl, rfl⟩
  exact hempty.foldlM_push (x.nodup_map_key_contentOf encoder entries)

end Filling

/-! ## Requests -/

/-- What can be done to an index. -/
inductive Request : Type 1 where
  | register (keys : List String) (allowDuplicates : Bool)
  | clear
  | build {ε : Type} [TextEncoder ε] (encoder : ε) (entries : List (String × String))

/-- The index after a request, whether or not it was refused. -/
def serve (x : VectorIndex) : Request → VectorIndex
  | .register keys allowDuplicates => (x.registerKeys keys allowDuplicates).state
  | .clear => x.clearKeys
  | @Request.build _ _ encoder entries => (x.build encoder entries).state

def run (x : VectorIndex) (requests : List Request) : VectorIndex := requests.foldl serve x

theorem registerKeys_of_error {keys : List String} {allowDuplicates : Bool} {error : IndexError}
    (h : KeyRegistry.ofList keys allowDuplicates = .error error) (x : VectorIndex) :
    x.registerKeys keys allowDuplicates = .refuse x error := by
  rw [registerKeys, h]

theorem registerKeys_of_ok {keys : List String} {allowDuplicates : Bool} {registry : KeyRegistry}
    (h : KeyRegistry.ofList keys allowDuplicates = .ok registry) (x : VectorIndex) :
    x.registerKeys keys allowDuplicates =
      ⟨{ x with
          settings := { x.settings with allowDuplicates }
          registered := some registry }, [], .ok registry.size⟩ := by
  rw [registerKeys, h]

/-- Keys are refused if they repeat and may not. -/
theorem exists_registerKeys_eq_error_iff (x : VectorIndex) (keys : List String)
    (allowDuplicates : Bool) :
    (∃ e, (x.registerKeys keys allowDuplicates).result = .error e) ↔
      allowDuplicates = false ∧ ¬ keys.Nodup := by
  cases h : KeyRegistry.ofList keys allowDuplicates with
  | error e =>
    rw [registerKeys_of_error h]
    obtain ⟨hstrict, before, key, after, rfl, -, hmem, -⟩ := KeyRegistry.ofList_eq_error_iff.mp h
    refine ⟨fun _ => ⟨hstrict, fun hnodup => ?_⟩, fun _ => ⟨e, rfl⟩⟩
    exact (List.nodup_append.mp hnodup).2.2 key hmem key List.mem_cons_self rfl
  | ok registry =>
    rw [registerKeys_of_ok h]
    refine ⟨nofun, fun ⟨hstrict, hrepeat⟩ => ?_⟩
    rcases (KeyRegistry.ofList_eq_ok_iff.mp h).1 with hallow | hnodup
    · exact absurd (hstrict.symm.trans hallow) Bool.false_ne_true
    · exact absurd hnodup hrepeat

/-- Where a key is refused, none of the keys before it is registered either. -/
theorem registerKeys_state_of_error {x : VectorIndex} {keys : List String} {allowDuplicates : Bool}
    {e : IndexError} (h : (x.registerKeys keys allowDuplicates).result = .error e) :
    (x.registerKeys keys allowDuplicates).state = x := by
  cases hkeys : KeyRegistry.ofList keys allowDuplicates with
  | error error => rw [registerKeys_of_error hkeys, Step.refuse]
  | ok registry =>
    rw [registerKeys_of_ok hkeys] at h
    cases h

theorem keeps_serve_register (x : VectorIndex) (keys : List String) (allowDuplicates : Bool) :
    (x.serve (.register keys allowDuplicates)).dimensions = x.dimensions ∧
      (x.serve (.register keys allowDuplicates)).stored = x.stored := by
  rw [serve]
  cases h : KeyRegistry.ofList keys allowDuplicates with
  | error error =>
    rw [registerKeys_of_error h]
    exact ⟨rfl, rfl⟩
  | ok registry =>
    rw [registerKeys_of_ok h]
    exact ⟨rfl, rfl⟩

/-! ## What holds after every run -/

/-- The content is that of an index of this width. -/
structure Filled (dimensions : Nat) (x : VectorIndex) : Prop where
  width : x.dimensions = dimensions
  /-- Each vector has this width and stands beside its norm. -/
  rows : ∀ s ∈ x.stored, s.vector.size = dimensions ∧ s.norm = DenseVector.norm s.vector
  once : x.keys.Nodup

variable {dimensions : Nat} {x : VectorIndex}

theorem Filled.of_stored_eq {x' : VectorIndex} (h : x.Filled dimensions)
    (hwidth : x'.dimensions = x.dimensions) (hstored : x'.stored = x.stored) :
    x'.Filled dimensions where
  width := hwidth.trans h.width
  rows := hstored ▸ h.rows
  once := by
    rw [keys, hstored]
    exact h.once

theorem Filled.build {ε : Type} [TextEncoder ε] (h : x.Filled dimensions) (encoder : ε)
    (entries : List (String × String)) : (x.build encoder entries).state.Filled dimensions := by
  rcases x.build_cases encoder entries with ⟨e, -, hstate⟩ | ⟨report, -, -, hstate⟩
  · rwa [hstate]
  · rw [hstate]
    refine ⟨h.width, fun s hs => ?_, x.nodup_map_key_contentOf encoder entries⟩
    obtain ⟨-, hwidth, hnorm⟩ := of_mem_contentOf hs
    exact ⟨hwidth.trans h.width, hnorm⟩

theorem Filled.serve (h : x.Filled dimensions) (r : Request) : (x.serve r).Filled dimensions := by
  cases r with
  | register keys allowDuplicates =>
    obtain ⟨hwidth, hstored⟩ := x.keeps_serve_register keys allowDuplicates
    exact h.of_stored_eq hwidth hstored
  | clear => exact h.of_stored_eq rfl rfl
  | build encoder entries => exact h.build encoder entries

theorem Filled.run : ∀ (requests : List Request) {x : VectorIndex}, x.Filled dimensions →
    (x.run requests).Filled dimensions := by
  intro requests
  induction requests with
  | nil => intro x h; exact h
  | cons r rest ih => intro x h; exact ih (h.serve r)

theorem filled_ofSettings (dimensions : Nat) (settings : IndexSettings) :
    (ofSettings dimensions settings).Filled dimensions :=
  ⟨rfl, nofun, List.nodup_nil⟩

/-! ## What follows for columns and searches -/

/-- The content has columns that belong together. -/
theorem Filled.exists_aligned (h : x.Filled dimensions) :
    ∃ c : Columns, c.Hold x.stored ∧ c.Aligned dimensions := by
  obtain ⟨r, hr⟩ : ∃ r, KeyRegistry.ofList x.keys false = .ok r :=
    KeyRegistry.exists_ofList_eq_ok (Or.inr h.once)
  have hkeys : r.keys = x.keys :=
    (KeyRegistry.ofList_eq_ok_iff.mp hr).2.trans (eraseDups_eq_self h.once)
  have hsize : r.size = x.stored.length := by
    rw [KeyTable.size, hkeys, keys, List.length_map]
  refine ⟨⟨r, x.stored.map StoredVector.vector, x.stored.map StoredVector.norm⟩,
    ⟨hkeys, rfl, rfl⟩, ?_, ?_, ?_, ?_, r.slot?_eq_some_iff⟩
  · rw [List.length_map, hsize]
  · rw [List.length_map, hsize]
  · rintro vector hvector
    obtain ⟨s, hs, rfl⟩ := List.mem_map.mp hvector
    exact (h.rows s hs).1
  · rw [List.map_map]
    exact List.map_congr_left fun s hs => (h.rows s hs).2

theorem isSome_get?_iff (x : VectorIndex) (key : String) :
    (x.get? key).isSome = true ↔ key ∈ x.keys := by
  rw [get?, Option.isSome_map, List.find?_isSome, keys, List.mem_map]
  simp only [beq_iff_eq]

/-- A search that the metric accepts returns as many different keys as it can. -/
theorem Filled.find (h : x.Filled dimensions) {query : DenseVector}
    (hwidth : query.size = dimensions)
    (haccepts : x.settings.metric.accepts (DenseVector.norm query) = true) (k : Nat) :
    ∃ hits, x.find query k = .ok hits ∧ hits.length = min k x.size ∧
      (hits.map IndexHit.key).Nodup ∧ ∀ hit ∈ hits, hit.key ∈ x.keys := by
  refine ⟨(x.complete query).take k, find_of_width (hwidth.trans h.width.symm) k, ?_, ?_, ?_⟩
  · rw [List.length_take, complete, if_pos haccepts, length_ranked]
  · rw [List.map_take, complete, if_pos haccepts]
    exact ((x.map_key_ranked_perm query).nodup_iff.mpr h.once).sublist (List.take_sublist _ _)
  · intro hit hhit
    exact key_mem_keys_of_mem_complete (List.mem_of_mem_take hhit)

/-- What an index of this width promises, whatever was done with it. -/
structure RunContract (dimensions : Nat) (x : VectorIndex) : Prop where
  width : x.dimensions = dimensions
  /-- The content is held in columns that belong together, and is looked up and searched there. -/
  columns : ∃ c : Columns, c.Hold x.stored ∧ c.Aligned dimensions ∧
    (∀ key, x.get? key = c.vector? key) ∧
    ∀ query k, x.find query k = c.find dimensions x.settings.metric query k
  /-- Among the registered keys, too, keys and slots determine each other. -/
  registered : ∀ r, x.registered = some r →
    ∀ key slot, r.slot? key = some slot ↔ r.key? slot = some key
  /-- The keys are those that have a vector. -/
  get : ∀ key, (x.get? key).isSome = true ↔ key ∈ x.keys
  /-- Registering keys leaves the content alone. -/
  register : ∀ keys allowDuplicates,
    (x.serve (.register keys allowDuplicates)).stored = x.stored
  /-- Where keys repeat and may not, registering them is refused and leaves everything alone. -/
  register_error : ∀ keys allowDuplicates,
    ((∃ e, (x.registerKeys keys allowDuplicates).result = .error e) ↔
      allowDuplicates = false ∧ ¬ keys.Nodup) ∧
    ((∃ e, (x.registerKeys keys allowDuplicates).result = .error e) →
      x.serve (.register keys allowDuplicates) = x)
  clear : (x.serve .clear).stored = x.stored
  /-- While a build fills the columns, no key is refused. -/
  build : ∀ {ε : Type} [TextEncoder ε] (encoder : ε) (entries : List (String × String)),
    ∃ c, (x.slotKeys entries).foldlM (fillSlot x.dimensions encoder entries) .empty = .ok c ∧
      ∀ report, (x.build encoder entries).result = .ok report →
        c.Hold (x.build encoder entries).state.stored
  /-- A search returns as many different keys as it was asked for, or all. -/
  find : ∀ query k, query.size = dimensions →
    x.settings.metric.accepts (DenseVector.norm query) = true →
    ∃ hits, x.find query k = .ok hits ∧ hits.length = min k x.size ∧
      (hits.map IndexHit.key).Nodup ∧ ∀ hit ∈ hits, hit.key ∈ x.keys

/-- **What an index promises holds after every run**, with whatever encoders. -/
theorem runContract_run (dimensions : Nat) (settings : IndexSettings) (requests : List Request) :
    RunContract dimensions ((ofSettings dimensions settings).run requests) := by
  have h := (filled_ofSettings dimensions settings).run requests
  generalize (ofSettings dimensions settings).run requests = x at h
  exact {
    width := h.width
    columns := by
      obtain ⟨c, hold, haligned⟩ := h.exists_aligned
      exact ⟨c, hold, haligned, hold.get?_eq, h.width ▸ hold.find_eq⟩
    registered := fun r _ => r.slot?_eq_some_iff
    get := x.isSome_get?_iff
    register := fun keys allowDuplicates => (x.keeps_serve_register keys allowDuplicates).2
    register_error := fun keys allowDuplicates =>
      ⟨x.exists_registerKeys_eq_error_iff keys allowDuplicates,
        fun ⟨_, he⟩ => registerKeys_state_of_error he⟩
    clear := rfl
    build := by
      intro ε _ encoder entries
      obtain ⟨c, hfill, hold⟩ := x.exists_foldlM_fillSlot encoder entries
      refine ⟨c, hfill, fun report hreport => ?_⟩
      rcases x.build_cases encoder entries with ⟨e, hresult, -⟩ | ⟨_, -, -, hstate⟩
      · rw [hreport] at hresult
        cases hresult
      · rwa [hstate]
    find := fun query k hwidth haccepts => h.find hwidth haccepts k }

/-- The slot of a registered key is not always that of its vector: here `"b"` has none. -/
example :
    let x := (ofSettings 1 { allowPartialFailure := true }).run
      [.register ["a", "b", "c"] false,
        .build (TableEncoder.mk 1 [("one", #[.one])]) [("a", "one"), ("b", "two"), ("c", "one")]]
    x.keys = ["a", "c"] ∧ x.registered.bind (·.slot? "c") = some 2 := by
  decide +kernel

end VectorIndex

end Gazetteer
