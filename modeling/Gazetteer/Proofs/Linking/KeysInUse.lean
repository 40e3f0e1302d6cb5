import Gazetteer.Proofs.Linking.Finding
import Gazetteer.Proofs.Linking.Runs

/-!
# Keys in use

Identifiers are free texts: they may hold points, end like a key, or begin like one another. Keys are
texts too, made of an identifier and a number, and yet **no two aliases share a key, and every key is
read as the alias that it was made for** (`KeysInUse`, `keysInUse_run`).

Two errors are there for keys that are mistaken, one of the index and one of the search. A linker
gives neither. The first is about the keys of now, which differ. The second is about the keys of the
index, which can be older; they were keys of the catalog at some moment, and reading a key does not
ask what the catalog holds today.
-/

set_option autoImplicit false

namespace Gazetteer

/-- Where keys differ, a build does not fail for a repeated one. -/
theorem VectorIndex.result_build_ne_duplicateKey {ε : Type} [TextEncoder ε] (x : VectorIndex)
    (encoder : ε) {entries : List (String × String)} (hnodup : (entries.map Prod.fst).Nodup)
    (key : String) : (x.build encoder entries).result ≠ .error (.duplicateKey key) := by
  intro herror
  rcases result_build_eq_error herror with h | h | hrepeated | ⟨left, -, hreason⟩
  · cases h
  · cases h
  · obtain ⟨-, before, again, after, hsplit, -, hmem, -⟩ :=
      KeyRegistry.ofList_eq_error_iff.mp hrepeated
    rw [hsplit] at hnodup
    exact (List.nodup_append.mp hnodup).2.2 again hmem again List.mem_cons_self rfl
  · -- what is left out is left out for another reason
    cases hreason

namespace Linker

variable {ε : Type} [TextEncoder ε]

/-- A build fails because the encoder is not trained, or because that of the index does. -/
theorem result_build_eq_error {l : Linker ε} {error : LinkError}
    (h : l.build.result = .error error) :
    error = .encoder .untrained ∨
      ∃ cause, (l.index.build l.encoder l.catalog.entries).result = .error cause ∧
        error = .index cause := by
  by_cases hready : TextEncoder.isReady l.encoder = true
  · right
    cases hresult : (l.index.build l.encoder l.catalog.entries).result with
    | error cause =>
      rw [build_of_error hready hresult] at h
      exact ⟨cause, rfl, (Except.error.inj h).symm⟩
    | ok report =>
      rw [build_of_ok hready hresult] at h
      cases h
  · rw [build_of_not_ready hready] at h
    exact Or.inl (Except.error.inj h).symm

/-- After every run, the keys of whatever the index finds can be read. -/
theorem exists_mapM_ownedHit_run {l₀ : Linker ε} (hnew : l₀.IsNew) {requests : List Request}
    (hcount : l₀.Countable requests) {query : DenseVector} {k : Nat} {hits : List IndexHit}
    (hhits : (l₀.run requests).index.find query k = .ok hits) :
    ∃ owned, hits.mapM ownedHit = .ok owned := by
  refine mapM_ownedHit_of_forall fun hit hhit => ?_
  exact exists_owner?_of_countable hnew hcount (VectorIndex.key_mem_keys_of_find hhits hhit)

/-! ## Never mistaken -/

/-- No key of a linker is mistaken for another, and none is refused. -/
structure KeysInUse (l : Linker ε) : Prop where
  /-- There is one entry for each alias, and no key twice. -/
  length : l.catalog.entries.length = l.catalog.aliasCount
  nodup : (l.catalog.entries.map Prod.fst).Nodup
  /-- An entry can be read: its key says which alias of which entity its text is. -/
  read : ∀ entry ∈ l.catalog.entries, ∃ k e, AliasKey.ofText entry.1 = .ok k ∧
    l.catalog.get? k.entityId = some e ∧ e.aliases[k.ordinal]? = some entry.2
  /-- No build fails because of a repeated key, whether or not keys may repeat. -/
  build : ∀ key, l.build.result ≠ .error (.index (.duplicateKey key))
  /-- No search fails because of a key, however old the index is. -/
  find : ∀ mention k text, l.find mention k ≠ .error (.aliasKey text)

/--
**After every run of a linker its keys are in order**, over any encoder and with any settings. All
that is asked of the run is that the aliases could be counted.
-/
theorem keysInUse_run {l₀ : Linker ε} (hnew : l₀.IsNew) {requests : List Request}
    (hcount : l₀.Countable requests) : (l₀.run requests).KeysInUse where
  length := EntityTable.length_entries _
  nodup := (Catalog.inverse _).nodup_map_fst_entries
  read := by
    intro entry hentry
    obtain ⟨e, he, ordinal, halias, hkey⟩ := EntityTable.mem_entries_iff.mp hentry
    refine ⟨⟨e.id, ordinal⟩, e, ?_, (Catalog.inverse _).get?_of_mem he, halias⟩
    rw [hkey]
    exact ofText_toText_run hnew (hcount requests List.prefix_rfl) he halias
  build := by
    intro key h
    rcases result_build_eq_error h with huntrained | ⟨cause, hcause, hindex⟩
    · cases huntrained
    · obtain rfl := LinkError.index.inj hindex
      exact VectorIndex.result_build_ne_duplicateKey _ _ (Catalog.inverse _).nodup_map_fst_entries key
        hcause
  find := by
    intro mention k text h
    obtain ⟨-, ⟨cause, -, hmention⟩ | ⟨query, -, ⟨cause, -, hindex⟩ | ⟨hits, hhits, howned⟩⟩⟩ :=
      find_eq_error h
    · cases hmention
    · cases hindex
    · obtain ⟨owned, hok⟩ := exists_mapM_ownedHit_run hnew hcount hhits
      rw [hok] at howned
      cases howned

/-- Identifiers that look like keys of one another. One record is replaced after the build. -/
def lookalikes : List Request :=
  [.addAll [(Entity.ofName "N" "north").withAlias "east", Entity.ofName "N.1" "north",
      Entity.ofName "N.1.0" "north east"],
    .build, .add (Entity.ofName "N" "east")]

theorem countable_lookalikes : compass.Countable lookalikes := by decide +kernel

/-- The index has a key that is no key of the catalog any more, and still serves. -/
theorem keysInUse_lookalikes :
    compass.IsNew ∧ compass.Countable lookalikes ∧
      (compass.run lookalikes).index.keys = ["N.0", "N.1", "N.1.0", "N.1.0.0"] ∧
      (compass.run lookalikes).catalog.entries =
        [("N.0", "east"), ("N.1.0", "north"), ("N.1.0.0", "north east")] ∧
      (compass.run lookalikes).KeysInUse :=
  ⟨isNew_compass, countable_lookalikes, by decide +kernel, by decide +kernel,
    keysInUse_run isNew_compass countable_lookalikes⟩

end Linker

end Gazetteer
