import Gazetteer.Proofs.Encoding.Training
import Gazetteer.Proofs.Entity.Normalizing
import Gazetteer.Proofs.Linking.Rebuilding

/-!
# Training starts afresh

A linker may have been through much: records overwritten, trainings with other options, builds that
failed. **Nothing of it is left after training**: the linker is the same, in every respect, as a new
one that was given the entities of now and trained (`StartsAfresh`, `startsAfresh_run`).

Two things have to be known for that. What a request never changes: the settings, and the encoder up
to its vocabulary (`Kept`). And that the entities of a catalog, added once more, end up as they are
and where they are, because their records are in order and their identifiers differ
(`Kept.addAll_entities`).
-/

set_option autoImplicit false

namespace Gazetteer

namespace Linker

/-! ## What requests never change -/

/-- What a linker has of the one it once was, and what is true of its entities. -/
structure Kept (l₀ l : Linker Encoder) : Prop where
  settings : l.settings = l₀.settings
  training : l.training = l₀.training
  index : l.index.settings = l₀.index.settings
  encoder : ∃ v, l.encoder = l₀.encoder.withVocabulary v
  entities : ∀ e ∈ l.catalog.entities, e.InOrder ∧ e.fault? = none

theorem IsNew.kept {l₀ : Linker Encoder} (h : l₀.IsNew) : Kept l₀ l₀ := by
  refine ⟨rfl, rfl, rfl, ⟨_, l₀.encoder.withVocabulary_vocabulary.symm⟩, ?_⟩
  rw [h.fields.1]
  exact nofun

theorem Kept.withEntity {l₀ l : Linker Encoder} {e : Entity} (h : Kept l₀ l)
    (hfault : e.normalized.fault? = none) : Kept l₀ (l.withEntity e.normalized) := by
  refine ⟨h.settings, h.training, h.index, h.encoder, fun x hx => ?_⟩
  rcases EntityTable.mem_put hx with rfl | hx
  · exact ⟨e.inOrder_normalized, hfault⟩
  · exact h.entities x hx

theorem Kept.train {l₀ l : Linker Encoder} (h : Kept l₀ l) (o : TrainingOptions) :
    Kept l₀ (l.train o).state := by
  have hencoder : ∃ v, (TextEncoder.train l.encoder l.catalog.aliasTexts o).state =
      l₀.encoder.withVocabulary v := by
    obtain ⟨v, hv⟩ := h.encoder
    obtain ⟨w, hw⟩ := l.encoder.exists_train_eq_withVocabulary l.catalog.aliasTexts o
    exact ⟨w, by rw [← Encoder.withVocabulary_withVocabulary _ v w, ← hv]; exact hw⟩
  cases htrain : (TextEncoder.train l.encoder l.catalog.aliasTexts o).result with
  | error e =>
    rw [train_state_of_error htrain]
    exact ⟨h.settings, h.training, h.index, hencoder, h.entities⟩
  | ok report =>
    rw [train_state_of_ok htrain]
    exact ⟨h.settings, h.training, h.index, hencoder, h.entities⟩

theorem Kept.build {l₀ l : Linker Encoder} (h : Kept l₀ l) : Kept l₀ l.build.state := by
  rcases l.build_state_cases with hstate | ⟨-, hstate⟩
  · rw [hstate]
    exact h
  · rw [hstate]
    exact ⟨h.settings, h.training, h.index, h.encoder, h.entities⟩

theorem kept_run {l₀ : Linker Encoder} (hnew : l₀.IsNew) (requests : List Request) :
    Kept l₀ (l₀.run requests) :=
  run_induction (fun _ _ h hfault => h.withEntity hfault) (fun _ o h => h.train o)
    (fun _ h => h.build) requests l₀ hnew.kept

/-! ## Adding the entities once more -/

theorem Kept.addAll_entities {l₀ l : Linker Encoder} (h : Kept l₀ l)
    (hempty : l₀.catalog = .empty) :
    ∃ fresh, l₀.addAll l.catalog.entities = ⟨fresh, [], .ok l.catalog.size⟩ ∧
      fresh.catalog = l.catalog ∧ Kept l₀ fresh := by
  have hsame : l.catalog.entities.map Entity.normalized = l.catalog.entities :=
    (List.map_congr_left fun e he => (h.entities e he).1.normalized_eq).trans (List.map_id _)
  have hsound : ∀ e ∈ l.catalog.entities, e.normalized.fault? = none := by
    intro e he
    rw [(h.entities e he).1.normalized_eq]
    exact (h.entities e he).2
  have hcatalog : l₀.catalog.putAll (l.catalog.entities.map Entity.normalized) = l.catalog := by
    rw [hsame, hempty, Catalog.putAll_entities]
  refine ⟨_, addAll_eq l.catalog.entities hsound, hcatalog, rfl, rfl, rfl,
    ⟨_, l₀.encoder.withVocabulary_vocabulary.symm⟩, ?_⟩
  rw [hcatalog]
  exact h.entities

/-! ## Training and building -/

/-- Training looks at the entities and at what requests never change. -/
theorem Kept.train_eq {l₀ l l' : Linker Encoder} (h : Kept l₀ l) (h' : Kept l₀ l')
    (hcatalog : l.catalog = l'.catalog) {o : TrainingOptions} (ho : o.fault? = none) :
    l.train o = l'.train o := by
  obtain ⟨v, hv⟩ := h.encoder
  obtain ⟨v', hv'⟩ := h'.encoder
  have hstep : ∀ texts,
      TextEncoder.train l.encoder texts o = TextEncoder.train l'.encoder texts o := by
    intro texts
    rw [hv, hv']
    exact (l₀.encoder.train_withVocabulary v texts ho).trans
      (l₀.encoder.train_withVocabulary v' texts ho).symm
  obtain ⟨report, hreport⟩ := l'.encoder.exists_train_eq_ok l'.catalog.aliasTexts ho
  unfold Linker.train
  rw [hcatalog, hstep, h.settings, h.training, h.index, h'.settings, h'.training, h'.index]
  simp only [hreport]

theorem exists_train_eq_ok (l : Linker Encoder) {o : TrainingOptions} (ho : o.fault? = none) :
    ∃ report, (l.train o).result = .ok report := by
  obtain ⟨report, hreport⟩ := l.encoder.exists_train_eq_ok l.catalog.aliasTexts ho
  refine ⟨report, ?_⟩
  rw [train]
  simp only [hreport]

/-- A linker that has just been trained can be built, and all aliases are indexed. -/
theorem build_result_of_train (l : Linker Encoder) {o : TrainingOptions} (ho : o.fault? = none) :
    (l.train o).state.build.result = .ok ⟨l.catalog.aliasCount, []⟩ := by
  obtain ⟨report, hreport⟩ := l.encoder.exists_train_eq_ok l.catalog.aliasTexts ho
  have hready := l.encoder.isReady_train l.catalog.aliasTexts ho
  rw [← l.catalog_train o, train_state_of_ok hreport]
  exact build_result_of_total hready rfl rfl (Encoder.exists_encode hready)

/-! ## History erased -/

/-- Training and building make the same of a linker with a past and of a fresh one. -/
structure StartsAfresh (old fresh : Linker Encoder) (o : TrainingOptions) : Prop where
  /-- Both are trained, with the same report. -/
  train : ∃ report, (old.train o).result = .ok report ∧ (fresh.train o).result = .ok report
  /-- Both are built then, with the same report. -/
  build : ∃ report, (old.train o).state.build.result = .ok report ∧
    (fresh.train o).state.build.result = .ok report
  /-- Whatever happens later, a mention finds the same. -/
  find : ∀ later mention k, ((old.train o).state.build.state.run later).find mention k =
    ((fresh.train o).state.build.state.run later).find mention k
  /-- There is nothing at all by which the two can be told apart. -/
  same : old.train o = fresh.train o

/--
**Training erases history.** After any run, the entities can be added to a new linker of the same
configuration, one after the other, and from training on the two are one. A build alone has no
memory either: to repeat it changes nothing.
-/
theorem startsAfresh_run {c : Configuration} {l₀ : Linker Encoder} (h : ofConfiguration c = .ok l₀)
    (requests : List Request) {o : TrainingOptions} (ho : o.fault? = none) :
    (∃ fresh, l₀.addAll (l₀.run requests).catalog.entities =
        ⟨fresh, [], .ok (l₀.run requests).catalog.size⟩ ∧
      StartsAfresh (l₀.run requests) fresh o) ∧
    (l₀.run requests).build.state.build = (l₀.run requests).build := by
  have hnew := isNew_of_ofConfiguration h
  have hkept := kept_run hnew requests
  generalize l₀.run requests = old at hkept
  obtain ⟨fresh, hadded, hcatalog, hfresh⟩ := hkept.addAll_entities hnew.fields.1
  have hsame : old.train o = fresh.train o := hkept.train_eq hfresh hcatalog.symm ho
  obtain ⟨report, hreport⟩ := old.exists_train_eq_ok ho
  have hbuild := old.build_result_of_train ho
  refine ⟨⟨fresh, hadded, ?_, ?_, ?_, hsame⟩, old.build_build⟩
  · exact ⟨report, hreport, hsame ▸ hreport⟩
  · exact ⟨_, hbuild, hsame ▸ hbuild⟩
  · intro later mention k
    rw [hsame]

/-! ## A run to try -/

/-- The linker that a configuration without any settings describes. -/
def plain : Linker Encoder where
  settings := {}
  training := {}
  encoder := .whole ⟨{}, none, by decide⟩
  index := .ofSettings 512 {}
  catalog := .empty
  stage := .empty

theorem ofConfiguration_plain : ofConfiguration {} = .ok plain := rfl

/-- A record is replaced, and a training and a build come before the last one. -/
def changes : List Request :=
  [.addAll [Entity.ofName "LON" "London", Entity.ofName "PAR" "Paris"],
    .train { minFrequency := 2 }, .build, .add (Entity.ofName "LON" "Londres"),
    .train { minFrequency := 0 }]

theorem startsAfresh_changes :
    ofConfiguration {} = .ok plain ∧ ({} : TrainingOptions).fault? = none ∧
      (plain.run changes).catalog.entities =
        [Entity.ofName "LON" "Londres", Entity.ofName "PAR" "Paris"] ∧
      ∃ fresh, plain.addAll (plain.run changes).catalog.entities = ⟨fresh, [], .ok 2⟩ ∧
        StartsAfresh (plain.run changes) fresh {} := by
  have hentities : (plain.run changes).catalog.entities =
      [Entity.ofName "LON" "Londres", Entity.ofName "PAR" "Paris"] := by decide +kernel
  have ho : ({} : TrainingOptions).fault? = none := by decide
  refine ⟨ofConfiguration_plain, ho, hentities, ?_⟩
  have h := (startsAfresh_run ofConfiguration_plain changes ho).1
  rwa [show (plain.run changes).catalog.size = 2 from congrArg List.length hentities] at h

end Linker

end Gazetteer
