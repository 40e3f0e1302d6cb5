import Gazetteer.Proofs.Linking.Stages

/-!
# Filling and building a linker

What becomes of a linker when it is filled and built, in equations. Entities without fault are all
added, and the catalog depends on nothing else (`addAll_eq`). A build puts new content in place of
the old without looking at it, so **to build again is to build once** (`build_build`). And with an
encoder that encodes everything, nothing is left out (`build_result_of_total`).
-/

set_option autoImplicit false

namespace Gazetteer

/-! ## Building over old content -/

variable {ε : Type} [TextEncoder ε]

namespace VectorIndex

variable {x : VectorIndex} {encoder : ε} {entries : List (String × String)}

/-- A build that succeeds got as far as encoding. -/
theorem conditions_of_build {report : BuildReport}
    (h : (x.build encoder entries).result = .ok report) :
    TextEncoder.isReady encoder = true ∧ TextEncoder.dimensions encoder = x.dimensions ∧
      (x.settings.allowDuplicates = true ∨ (entries.map Prod.fst).Nodup) := by
  by_cases hready : TextEncoder.isReady encoder = true
  · by_cases hwidth : TextEncoder.dimensions encoder = x.dimensions
    · refine ⟨hready, hwidth, ?_⟩
      cases hkeys : KeyRegistry.ofList (entries.map Prod.fst) x.settings.allowDuplicates with
      | error e =>
        rw [build_of_repeated hready hwidth hkeys] at h
        cases h
      | ok r => exact (KeyRegistry.ofList_eq_ok_iff.mp hkeys).1
    · rw [build_of_other_width entries hready hwidth] at h
      cases h
  · rw [build_of_not_ready x entries hready] at h
    cases h

/-- A build that succeeds does not depend on what was stored. -/
theorem build_stored {report : BuildReport} (h : (x.build encoder entries).result = .ok report)
    (stored : List StoredVector) :
    ({ x with stored } : VectorIndex).build encoder entries = x.build encoder entries := by
  obtain ⟨hready, hwidth, hkeys⟩ := conditions_of_build h
  obtain ⟨r, hr⟩ := KeyRegistry.exists_ofList_eq_ok hkeys
  unfold build at h ⊢
  simp only [hready, hwidth, hr, Bool.not_true, Bool.false_eq_true, if_false, ne_eq,
    not_true_eq_false] at h ⊢
  split at h
  · cases h
  · rfl

/-- Where every entry has a vector of the right width, nothing is left out. -/
theorem build_result_of_total (hready : TextEncoder.isReady encoder = true)
    (hwidth : TextEncoder.dimensions encoder = x.dimensions) (hfree : x.registered = none)
    (hnodup : (entries.map Prod.fst).Nodup)
    (htotal : ∀ entry ∈ entries, (usable? x.dimensions encoder entry.2).isSome = true) :
    (x.build encoder entries).result = .ok ⟨entries.length, []⟩ := by
  have hslots := slotKeys_of_nodup hfree hnodup
  have hsome : ∀ key ∈ x.slotKeys entries, (x.vectorOf? encoder entries key).isSome = true := by
    intro key hkey
    rw [hslots] at hkey
    obtain ⟨entry, hentry, rfl⟩ := List.mem_map.mp hkey
    rw [vectorOf?_of_nodup encoder hnodup hentry]
    exact htotal entry hentry
  have hout : x.leftOut encoder entries = [] := by
    rw [leftOut, strays, unfilled, hslots, eraseDups_eq_self hnodup, List.append_eq_nil_iff,
      List.filter_eq_nil_iff, List.filter_eq_nil_iff]
    refine ⟨fun key hkey hstray => ?_, fun key hkey hnone => ?_⟩
    · exact absurd hkey (by simpa using hstray)
    · rw [← hslots] at hkey
      rw [Option.isNone_iff_eq_none] at hnone
      rw [← Option.not_isSome_iff_eq_none] at hnone
      exact hnone (hsome key hkey)
  have hfaults : x.faults encoder entries = [] := by
    refine List.eq_nil_of_length_eq_zero ?_
    rw [← (forall₂_faults x encoder entries).length_eq, hout, List.length_nil]
  have hlength : (x.contentOf encoder entries).length = entries.length := by
    have hkeys := congrArg List.length (x.map_key_contentOf encoder entries)
    rw [List.filter_eq_self.mpr hsome, hslots, List.length_map, List.length_map] at hkeys
    exact hkeys
  rw [build_eq hready hwidth (Or.inr hnodup), hfaults, hout]
  exact congrArg (fun n => Except.ok (BuildReport.mk n [])) hlength

end VectorIndex

/-! ## Filling and building a linker -/

namespace Linker

omit [TextEncoder ε] in
/-- Entities without fault are all added; nothing but the catalog and the stage moves. -/
theorem addAll_eq (es : List Entity) :
    ∀ {l : Linker ε}, (∀ e ∈ es, e.normalized.fault? = none) →
      l.addAll es =
        ⟨{ l with
            catalog := l.catalog.putAll (es.map Entity.normalized)
            stage := if es.isEmpty then l.stage else .populated },
          [], .ok es.length⟩ := by
  induction es with
  | nil => exact fun _ => rfl
  | cons e rest ih =>
    intro l h
    rw [addAll_cons_of_sound (h e List.mem_cons_self),
      ih fun e' he' => h e' (List.mem_cons_of_mem _ he')]
    cases rest <;> rfl

/-- A linker whose encoder encodes every text indexes every alias. -/
theorem build_result_of_total {l : Linker ε} (hready : TextEncoder.isReady l.encoder = true)
    (hwidth : TextEncoder.dimensions l.encoder = l.index.dimensions)
    (hfree : l.index.registered = none)
    (htotal : ∀ text, ∃ vector, TextEncoder.encode l.encoder text = .ok vector ∧
      vector.size = l.index.dimensions) :
    l.build.result = .ok ⟨l.catalog.aliasCount, []⟩ := by
  have husable : ∀ entry ∈ l.catalog.entries,
      (usable? l.index.dimensions l.encoder entry.2).isSome = true := by
    intro entry _
    obtain ⟨vector, hencode, hsize⟩ := htotal entry.2
    rw [usable?_eq_some_iff.mpr ⟨hencode, hsize⟩]
    rfl
  have hindex := VectorIndex.build_result_of_total hready hwidth hfree
    l.catalog.inverse.nodup_map_fst_entries husable
  rw [build_of_ok hready hindex, EntityTable.length_entries]

/-- **To build again is to build once.** -/
theorem build_build (l : Linker ε) : l.build.state.build = l.build := by
  by_cases hready : TextEncoder.isReady l.encoder = true
  · rcases l.index.build_cases l.encoder l.catalog.entries with
      ⟨e, hresult, hstate⟩ | ⟨report, hresult, -, hstate⟩
    · have hsame : l.build.state = l := by
        rw [build_of_error hready hresult, hstate]
      rw [hsame]
    · -- the index is what the first build made of it, and makes the same of itself
      have hagain : (l.index.build l.encoder l.catalog.entries).state.build l.encoder
          l.catalog.entries = l.index.build l.encoder l.catalog.entries := by
        rw [hstate]
        exact VectorIndex.build_stored hresult _
      rw [build_of_ok hready hresult, build, if_neg (by simp [hready])]
      simp only [hagain, hresult]
  · have hrefuse := build_of_not_ready hready
    rw [hrefuse]
    exact hrefuse

/-! ## What answers depend on -/

/-- The linkers agree in all that answers and builds depend on. -/
structure Agree (l l' : Linker ε) : Prop where
  settings : l.settings = l'.settings
  encoder : l.encoder = l'.encoder
  index : l.index = l'.index
  catalog : l.catalog = l'.catalog

theorem Agree.find_eq {l l' : Linker ε} (h : l.Agree l') (mention : String) (k : Nat) :
    l.find mention k = l'.find mention k := by
  cases l
  cases l'
  obtain ⟨rfl, rfl, rfl, rfl⟩ := h
  rfl

theorem Agree.build {l l' : Linker ε} (h : l.Agree l') :
    l.build.result = l'.build.result ∧ l.build.state.Agree l'.build.state := by
  unfold Linker.build
  rw [h.encoder, h.index, h.catalog]
  split
  · exact ⟨rfl, h⟩
  · cases hresult : (l'.index.build l'.encoder l'.catalog.entries).result with
    | error cause =>
      simp only [hresult]
      exact ⟨trivial, h.settings, rfl, rfl, rfl⟩
    | ok report =>
      simp only [hresult]
      exact ⟨trivial, h.settings, rfl, rfl, rfl⟩

end Linker

end Gazetteer
