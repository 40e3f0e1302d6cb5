import Gazetteer.Proofs.Encoding.FailedTraining
import Gazetteer.Proofs.Linking.Runs

/-!
# What the stage of a linker says

The stage is a word; `StageSays` is what the word promises. **Indexed** promises that catalog,
encoder and index agree: the index holds the aliases of now, in the order of the catalog, with the
vectors that the encoder of now gives them, and leaves out only aliases without a usable vector.
**Empty** promises that there is neither entity nor vector, **populated** that there is an entity.

`stageSays_run` is the promise after every run. Three components have to stay in step for that, and
each request moves some of them: adding moves the catalog and takes the word back; training moves
the encoder, and either empties the index or, if it failed, must not have moved anything after all
(`KeepsOnFailure`); building brings the index up to date or changes nothing.
-/

set_option autoImplicit false

namespace Gazetteer

variable {ε : Type} [TextEncoder ε]

/-! ## Building from distinct entries -/

namespace VectorIndex

theorem lastText?_of_nodup {entries : List (String × String)}
    (hnodup : (entries.map Prod.fst).Nodup) {entry : String × String} (h : entry ∈ entries) :
    lastText? entries entry.1 = some entry.2 := by
  obtain ⟨before, after, rfl⟩ := List.append_of_mem h
  rw [lastText?_eq_some_iff]
  refine ⟨before, after, rfl, fun other hother heq => ?_⟩
  rw [List.map_append, List.map_cons] at hnodup
  -- a second entry of the key behind this one would repeat the key
  have htail := (List.nodup_cons.mp (List.nodup_append.mp hnodup).2.1).1
  exact htail (heq ▸ List.mem_map_of_mem hother)

variable {x : VectorIndex} {entries : List (String × String)}

theorem slotKeys_of_nodup (hfree : x.registered = none)
    (hnodup : (entries.map Prod.fst).Nodup) : x.slotKeys entries = entries.map Prod.fst := by
  rw [slotKeys, hfree]
  exact eraseDups_eq_self hnodup

theorem vectorOf?_of_nodup (encoder : ε) (hnodup : (entries.map Prod.fst).Nodup)
    {entry : String × String} (h : entry ∈ entries) :
    x.vectorOf? encoder entries entry.1 = usable? x.dimensions encoder entry.2 := by
  rw [vectorOf?_eq, lastText?_of_nodup hnodup h, Option.bind_some]

theorem isSome_usable?_of_leftOut_eq_nil {encoder : ε} (hfree : x.registered = none)
    (hnodup : (entries.map Prod.fst).Nodup) (hout : x.leftOut encoder entries = [])
    {entry : String × String} (h : entry ∈ entries) :
    (usable? x.dimensions encoder entry.2).isSome = true := by
  have hslot : entry.1 ∈ x.slotKeys entries := by
    rw [slotKeys_of_nodup hfree hnodup]
    exact List.mem_map_of_mem h
  have hiff : entry.1 ∈ x.leftOut encoder entries ↔ x.vectorOf? encoder entries entry.1 = none :=
    mem_leftOut_iff hslot
  rw [hout, vectorOf?_of_nodup encoder hnodup h] at hiff
  cases hv : usable? x.dimensions encoder entry.2 with
  | none => exact absurd (hiff.mpr hv) List.not_mem_nil
  | some v => rfl

end VectorIndex

/-! ## The promise -/

namespace Linker

/-- What the stage of a linker says about its catalog, its encoder and its index. -/
structure StageSays (l : Linker ε) : Prop where
  /-- Indexed: the keys are those of the aliases that have a vector of the right width. -/
  keys : l.stage = .indexed → l.index.keys =
    (l.catalog.entries.filter fun entry =>
      (usable? l.index.dimensions l.encoder entry.2).isSome).map Prod.fst
  /-- Indexed by a build that may leave nothing out: the keys are those of all aliases. -/
  keys_strict : l.stage = .indexed → l.index.settings.allowPartialFailure = false →
    l.index.keys = l.catalog.entries.map Prod.fst
  /-- Indexed: the vector of an alias is the one that the encoder gives it now. -/
  vectors : l.stage = .indexed → ∀ entry ∈ l.catalog.entries,
    l.index.get? entry.1 = usable? l.index.dimensions l.encoder entry.2
  /-- Empty: there is no entity and no vector. -/
  empty : l.stage = .empty → l.catalog.entities = [] ∧ l.index.stored = []
  /-- Populated: there is an entity. -/
  populated : l.stage = .populated → l.catalog.entities ≠ []

/--
The invariant behind the promise: an index that is up to date holds what a build would put into it
now. Keys and vectors are read off that; the clauses about them do not carry each other.
-/
structure InStep (l : Linker ε) : Prop where
  free : l.index.registered = none
  content : l.stage = .indexed →
    l.index.stored = l.index.contentOf l.encoder l.catalog.entries
  strict : l.stage = .indexed → l.index.settings.allowPartialFailure = false →
    l.index.leftOut l.encoder l.catalog.entries = []
  empty : l.stage = .empty → l.catalog.entities = [] ∧ l.index.stored = []
  populated : l.stage = .populated → l.catalog.entities ≠ []

theorem IsNew.inStep {l : Linker ε} (h : l.IsNew) : l.InStep := by
  obtain ⟨hcatalog, hstage, hstored, hfree⟩ := h.fields
  refine ⟨hfree, ?_, ?_, ?_, ?_⟩
  · intro hindexed
    rw [hstage] at hindexed
    cases hindexed
  · intro hindexed
    rw [hstage] at hindexed
    cases hindexed
  · intro _
    rw [hcatalog]
    exact ⟨rfl, hstored⟩
  · intro hpopulated
    rw [hstage] at hpopulated
    cases hpopulated

/-- The word is `populated` now, so only the last promise says anything. -/
theorem InStep.withEntity {l : Linker ε} (hl : l.InStep) (e : Entity) : (l.withEntity e).InStep :=
  ⟨hl.free, nofun, nofun, nofun, fun _ => l.catalog.inverse.entities_put_ne_nil e⟩

/-- Training empties the index, or fails and leaves the vectors what they were. -/
theorem InStep.train (hkeeps : KeepsOnFailure ε) {l : Linker ε} (hl : l.InStep)
    (o : TrainingOptions) : (l.train o).state.InStep := by
  cases htrain : (TextEncoder.train l.encoder l.catalog.aliasTexts o).result with
  | error e =>
    -- a build asks the encoder for vectors only, and these have not changed
    have hvector : l.index.vectorOf? (TextEncoder.train l.encoder l.catalog.aliasTexts o).state =
        l.index.vectorOf? l.encoder := by
      funext entries key
      have husable : usable? l.index.dimensions
          (TextEncoder.train l.encoder l.catalog.aliasTexts o).state =
            usable? l.index.dimensions l.encoder := by
        funext text
        rw [usable?, hkeeps _ _ _ _ htrain text]
        rfl
      rw [VectorIndex.vectorOf?, husable]
      rfl
    rw [train_state_of_error htrain]
    refine ⟨hl.free, ?_, ?_, hl.empty, hl.populated⟩
    · intro hindexed
      simp only [VectorIndex.contentOf, hvector]
      exact hl.content hindexed
    · intro hindexed hstrict
      simp only [VectorIndex.leftOut, VectorIndex.unfilled, hvector]
      exact hl.strict hindexed hstrict
  | ok report =>
    -- the index is empty now; which word is right depends on the catalog alone
    rw [train_state_of_ok htrain]
    cases hentities : l.catalog.entities with
    | nil =>
      have hempty : l.catalog.isEmpty = true := by simp [EntityTable.isEmpty, hentities]
      simp only [hempty, if_pos]
      refine ⟨rfl, ?_, ?_, fun _ => ⟨hentities, rfl⟩, ?_⟩
      all_goals
        intro hword
        cases hword
    | cons e rest =>
      have hempty : l.catalog.isEmpty = false := by simp [EntityTable.isEmpty, hentities]
      simp only [hempty, Bool.false_eq_true, if_false]
      refine ⟨rfl, ?_, ?_, ?_, fun _ => hentities ▸ List.cons_ne_nil e rest⟩
      all_goals
        intro hword
        cases hword

theorem InStep.build {l : Linker ε} (hl : l.InStep) : l.build.state.InStep := by
  rcases l.build_state_cases with hstate | ⟨hallowed, hstate⟩
  · rw [hstate]
    exact hl
  · rw [hstate]
    refine ⟨hl.free, fun _ => rfl, fun _ hstrict => ?_, nofun, nofun⟩
    exact hallowed.resolve_right (by simpa using hstrict)

theorem inStep_run (hkeeps : KeepsOnFailure ε) {l₀ : Linker ε} (hnew : l₀.IsNew)
    (requests : List Request) : (l₀.run requests).InStep :=
  run_induction (fun _ _ hl _ => hl.withEntity _) (fun _ o hl => hl.train hkeeps o)
    (fun _ hl => hl.build) requests l₀ hnew.inStep

/-- **What the stage says is true after every run.** -/
theorem stageSays_run (hkeeps : KeepsOnFailure ε) {l₀ : Linker ε} (hnew : l₀.IsNew)
    (requests : List Request) : (l₀.run requests).StageSays := by
  have hl := inStep_run hkeeps hnew requests
  generalize l₀.run requests = l at hl
  have hnodup := l.catalog.inverse.nodup_map_fst_entries
  have hslots := VectorIndex.slotKeys_of_nodup hl.free hnodup
  have hvector : ∀ entry ∈ l.catalog.entries,
      l.index.vectorOf? l.encoder l.catalog.entries entry.1 =
        usable? l.index.dimensions l.encoder entry.2 :=
    fun _ => VectorIndex.vectorOf?_of_nodup l.encoder hnodup
  have hkeys : l.stage = .indexed → l.index.keys =
      (l.catalog.entries.filter fun entry =>
        (usable? l.index.dimensions l.encoder entry.2).isSome).map Prod.fst := by
    intro hindexed
    rw [VectorIndex.keys, hl.content hindexed, VectorIndex.map_key_contentOf, hslots,
      List.filter_map]
    refine congrArg _ (List.filter_congr fun entry hentry => ?_)
    rw [Function.comp_apply, hvector entry hentry]
  refine ⟨hkeys, ?_, ?_, hl.empty, hl.populated⟩
  · intro hindexed hstrict
    rw [hkeys hindexed, List.filter_eq_self.mpr]
    intro entry hentry
    exact VectorIndex.isSome_usable?_of_leftOut_eq_nil hl.free hnodup
      (hl.strict hindexed hstrict) hentry
  · intro hindexed entry hentry
    rw [VectorIndex.get?, hl.content hindexed, VectorIndex.find?_contentOf, hslots,
      if_pos (List.mem_map_of_mem hentry), hvector entry hentry]

/--
After the survey the word is *indexed*, although the training failed and `"up"` has no vector.
-/
theorem stageSays_survey :
    KeepsOnFailure TableEncoder ∧ compass.IsNew ∧ (compass.run survey).stage = .indexed ∧
      (compass.run survey).index.keys = ["NE.0", "NE.1", "N.1.0"] ∧
      (compass.run survey).StageSays :=
  ⟨keepsOnFailure_tableEncoder, isNew_compass, by decide +kernel, by decide +kernel,
    stageSays_run keepsOnFailure_tableEncoder isNew_compass survey⟩

end Linker

end Gazetteer
