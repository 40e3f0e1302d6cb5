import Gazetteer.Linking.Linker
import Gazetteer.Proofs.Encoding.FailedTraining
import Gazetteer.Proofs.Index.Building
import Gazetteer.Proofs.Linking.AliasKeys
import Mathlib.Data.List.Induction
import Mathlib.Data.List.Infix

/-!
# Runs of a linker

A linker is made once and then serves requests in any order: entities are added, the encoder is
trained, the index is built, mentions are looked up. Requests may fail; what the linker is
afterwards counts all the same. This module says what one request can do to a linker, and from
that what is true after every run.

The index of a linker can be older than its catalog, so its keys cannot be read off the entities of
now. What holds instead (`exists_keys_sublist`): **at some moment of the run, the keys of the index
were among the entries of the catalog.** No identifier leaves a catalog (`isSome_get?_run`), so
every key still names a registered entity.
-/

set_option autoImplicit false

namespace Gazetteer

/-! ## Requests -/

/-- What a linker can be asked to do. -/
inductive Request where
  | add (e : Entity)
  | addAll (es : List Entity)
  | train (o : TrainingOptions)
  | build
  | find (mention : String) (k : Nat)

namespace Linker

/-! ## Adding entities -/

section Adding

variable {ε : Type} {l : Linker ε} {e : Entity}

/-- An entity is refused for what is wrong with its record, put in order. -/
theorem add_of_fault {fault : EntityFault} (h : e.normalized.fault? = some fault) :
    l.add e = .refuse l (.entity e.id fault) := by
  rw [add, h]
  rfl

/-- An entity without fault takes its place in the catalog; nothing else moves. -/
theorem add_of_sound (h : e.normalized.fault? = none) :
    l.add e = ⟨l.withEntity e.normalized, [], .ok ()⟩ := by
  rw [add, h]

/-- An entity that is refused has a fault, and leaves the linker as it was. -/
theorem add_eq_error {error : LinkError} (h : (l.add e).result = .error error) :
    (l.add e).state = l ∧ ∃ fault, e.normalized.fault? = some fault ∧ error = .entity e.id fault := by
  cases hfault : e.normalized.fault? with
  | some fault =>
    rw [add_of_fault hfault] at h ⊢
    exact ⟨rfl, fault, rfl, (Except.error.inj h).symm⟩
  | none =>
    rw [add_of_sound hfault] at h
    cases h

theorem addAll_cons_of_fault {fault : EntityFault} (h : e.normalized.fault? = some fault)
    (rest : List Entity) : l.addAll (e :: rest) = .refuse l (.entity e.id fault) := by
  rw [addAll, add_of_fault h]
  rfl

theorem addAll_cons_of_sound (h : e.normalized.fault? = none) (rest : List Entity) :
    l.addAll (e :: rest) =
      let others := (l.withEntity e.normalized).addAll rest
      { others with result := others.result.map (· + 1) } := by
  rw [addAll, add_of_sound h]

theorem addAll_induction {P : Linker ε → Prop}
    (hadd : ∀ (l : Linker ε) (e : Entity), P l → e.normalized.fault? = none →
      P (l.withEntity e.normalized)) :
    ∀ (es : List Entity) (l : Linker ε), P l → P (l.addAll es).state := by
  intro es
  induction es with
  | nil => intro l hl; exact hl
  | cons e rest ih =>
    intro l hl
    cases hfault : e.normalized.fault? with
    | some fault =>
      rw [addAll_cons_of_fault hfault]
      exact hl
    | none =>
      rw [addAll_cons_of_sound hfault]
      exact ih _ (hadd l e hl hfault)

end Adding

/-! ## Serving requests -/

variable {ε : Type} [TextEncoder ε]

/-- The linker after a request, whether or not the request succeeded. -/
def serve (l : Linker ε) : Request → Linker ε
  | .add e => (l.add e).state
  | .addAll es => (l.addAll es).state
  | .train o => (l.train o).state
  | .build => l.build.state
  | .find _ _ => l

/-- The linker after a run of requests. -/
def run (l : Linker ε) (requests : List Request) : Linker ε := requests.foldl serve l

@[simp] theorem run_nil (l : Linker ε) : l.run [] = l := rfl

@[simp] theorem run_append (l : Linker ε) (front back : List Request) :
    l.run (front ++ back) = (l.run front).run back := List.foldl_append

@[simp] theorem run_singleton (l : Linker ε) (r : Request) : l.run [r] = l.serve r := rfl

theorem ofEncoder_eq (encoder : ε) (index : IndexSettings) {settings : LookupSettings}
    (h : settings.validate = .ok ()) :
    ofEncoder encoder index settings = .ok {
      settings
      training := {}
      encoder
      index := .ofSettings (TextEncoder.dimensions encoder) index
      catalog := .empty
      stage := .empty } := by
  rw [ofEncoder, h]
  rfl

/-- A linker as it is made, over any encoder and with any settings that pass. -/
def IsNew (l : Linker ε) : Prop :=
  ∃ encoder index settings made, ofEncoder encoder index settings = .ok made ∧
    l = { made with training := l.training }

/-- A new linker is empty, and its index is made for the encoder. The settings passed their check. -/
theorem IsNew.exists_valid {l : Linker ε} (h : l.IsNew) :
    ∃ encoder index settings training, settings.validate = .ok () ∧ l = {
      settings
      training
      encoder
      index := .ofSettings (TextEncoder.dimensions encoder) index
      catalog := .empty
      stage := .empty } := by
  obtain ⟨encoder, index, settings, made, hmade, hl⟩ := h
  cases hvalid : settings.validate with
  | error error =>
    rw [ofEncoder, hvalid] at hmade
    cases hmade
  | ok _ =>
    rw [ofEncoder_eq encoder index hvalid] at hmade
    obtain rfl := Except.ok.inj hmade
    exact ⟨encoder, index, settings, l.training, hvalid, hl⟩

theorem IsNew.exists_eq {l : Linker ε} (h : l.IsNew) :
    ∃ encoder index settings training, l = {
      settings
      training
      encoder
      index := .ofSettings (TextEncoder.dimensions encoder) index
      catalog := .empty
      stage := .empty } := by
  obtain ⟨encoder, index, settings, training, -, hl⟩ := h.exists_valid
  exact ⟨encoder, index, settings, training, hl⟩

theorem IsNew.validate {l : Linker ε} (h : l.IsNew) : l.settings.validate = .ok () := by
  obtain ⟨encoder, index, settings, training, hvalid, rfl⟩ := h.exists_valid
  exact hvalid

theorem IsNew.fields {l : Linker ε} (h : IsNew l) :
    l.catalog = .empty ∧ l.stage = .empty ∧ l.index.stored = [] ∧ l.index.registered = none := by
  obtain ⟨encoder, index, settings, training, rfl⟩ := h.exists_eq
  exact ⟨rfl, rfl, rfl, rfl⟩

theorem isNew_of_ofConfiguration {c : Configuration} {l : Linker Encoder}
    (h : ofConfiguration c = .ok l) : IsNew l := by
  unfold ofConfiguration at h
  cases hvalid : c.validate with
  | error e => rw [hvalid] at h; cases h
  | ok _ =>
    cases hbuild : c.encoder.build with
    | error e => rw [hvalid, hbuild] at h; cases h
    | ok encoder =>
      cases hmade : ofEncoder encoder c.index c.lookup with
      | error e => rw [hvalid, hbuild] at h; simp [Except.mapError, bind, Except.bind, hmade] at h
      | ok made =>
        rw [hvalid, hbuild] at h
        simp only [Except.mapError, bind, Except.bind, hmade, pure, Except.pure,
          Except.ok.injEq] at h
        exact ⟨encoder, c.index, c.lookup, made, hmade, by rw [← h]⟩

/-! ## What one request can do -/

theorem train_state_of_error {l : Linker ε} {o : TrainingOptions} {e : EncoderError}
    (h : (TextEncoder.train l.encoder l.catalog.aliasTexts o).result = .error e) :
    (l.train o).state =
      { l with encoder := (TextEncoder.train l.encoder l.catalog.aliasTexts o).state } := by
  rw [train]
  simp only [h]

theorem train_state_of_ok {l : Linker ε} {o : TrainingOptions} {report : TrainingReport}
    (h : (TextEncoder.train l.encoder l.catalog.aliasTexts o).result = .ok report) :
    (l.train o).state =
      let encoder := (TextEncoder.train l.encoder l.catalog.aliasTexts o).state
      { l with
        encoder
        index := .ofSettings (TextEncoder.dimensions encoder) l.index.settings
        stage := if l.catalog.isEmpty then .empty else .populated } := by
  rw [train]
  simp only [h]

theorem build_of_not_ready {l : Linker ε} (hready : ¬ TextEncoder.isReady l.encoder = true) :
    l.build = .refuse l (.encoder .untrained) := by
  rw [build, if_pos (by simpa using hready)]

theorem build_of_error {l : Linker ε} (hready : TextEncoder.isReady l.encoder = true)
    {cause : IndexError}
    (h : (l.index.build l.encoder l.catalog.entries).result = .error cause) :
    l.build = ⟨{ l with index := (l.index.build l.encoder l.catalog.entries).state },
      (l.index.build l.encoder l.catalog.entries).events, .error (.index cause)⟩ := by
  rw [build, if_neg (by simp [hready])]
  simp only [h]

theorem build_of_ok {l : Linker ε} (hready : TextEncoder.isReady l.encoder = true)
    {report : BuildReport}
    (h : (l.index.build l.encoder l.catalog.entries).result = .ok report) :
    l.build = ⟨{ l with
        index := (l.index.build l.encoder l.catalog.entries).state
        stage := .indexed },
      (l.index.build l.encoder l.catalog.entries).events, .ok report⟩ := by
  rw [build, if_neg (by simp [hready])]
  simp only [h]

/-- A build that succeeds changes the index and the stage. -/
theorem build_state_of_ok {l : Linker ε} {report : BuildReport} (h : l.build.result = .ok report) :
    l.build.state = { l with
      index := (l.index.build l.encoder l.catalog.entries).state
      stage := .indexed } := by
  by_cases hready : TextEncoder.isReady l.encoder = true
  · cases hindex : (l.index.build l.encoder l.catalog.entries).result with
    | error cause =>
      rw [build_of_error hready hindex] at h
      cases h
    | ok _ => rw [build_of_ok hready hindex]
  · rw [build_of_not_ready hready] at h
    cases h

/-- A build fails and changes nothing, or it replaces the content by that of the entries. -/
theorem build_cases (l : Linker ε) :
    (∃ error, l.build.result = .error error ∧ l.build.state = l) ∨
      ∃ report, l.build.result = .ok report ∧
        (l.index.leftOut l.encoder l.catalog.entries = [] ∨
          l.index.settings.allowPartialFailure = true) ∧
        l.build.state =
          { l with
            index := { l.index with
              stored := l.index.contentOf l.encoder l.catalog.entries }
            stage := .indexed } := by
  by_cases hready : TextEncoder.isReady l.encoder = true
  · rcases l.index.build_cases l.encoder l.catalog.entries with
      ⟨e, hresult, hstate⟩ | ⟨report, hresult, hallowed, hstate⟩
    · rw [build_of_error hready hresult, hstate]
      exact Or.inl ⟨_, rfl, rfl⟩
    · rw [build_of_ok hready hresult, hstate]
      exact Or.inr ⟨report, rfl, hallowed, rfl⟩
  · rw [build_of_not_ready hready]
    exact Or.inl ⟨_, rfl, rfl⟩

/-- What fails changes nothing, however far it got. -/
theorem build_state_of_error {l : Linker ε} {error : LinkError}
    (h : l.build.result = .error error) : l.build.state = l := by
  rcases l.build_cases with ⟨_, -, hstate⟩ | ⟨report, hresult, -, -⟩
  · exact hstate
  · rw [hresult] at h
    cases h

theorem build_state_cases (l : Linker ε) :
    l.build.state = l ∨
      (l.index.leftOut l.encoder l.catalog.entries = [] ∨
          l.index.settings.allowPartialFailure = true) ∧
        l.build.state =
          { l with
            index := { l.index with
              stored := l.index.contentOf l.encoder l.catalog.entries }
            stage := .indexed } := by
  rcases l.build_cases with ⟨_, -, hstate⟩ | ⟨_, -, hallowed, hstate⟩
  · exact Or.inl hstate
  · exact Or.inr ⟨hallowed, hstate⟩

/-- To hold after every run, a property has to survive adding, training and building. -/
theorem run_induction {P : Linker ε → Prop}
    (hadd : ∀ (l : Linker ε) (e : Entity), P l → e.normalized.fault? = none →
      P (l.withEntity e.normalized))
    (htrain : ∀ l o, P l → P (l.train o).state) (hbuild : ∀ l, P l → P l.build.state) :
    ∀ (requests : List Request) (l : Linker ε), P l → P (l.run requests) := by
  intro requests
  induction requests with
  | nil => intro l hl; exact hl
  | cons r rest ih =>
    intro l hl
    -- one request: it is refused, or it is one of the three that the hypotheses are about
    refine ih (l.serve r) ?_
    cases r with
    | add e =>
      rw [serve]
      cases hfault : e.normalized.fault? with
      | some fault =>
        rw [add_of_fault hfault]
        exact hl
      | none =>
        rw [add_of_sound hfault]
        exact hadd l e hl hfault
    | addAll es => exact addAll_induction hadd es l hl
    | train o => exact htrain l o hl
    | build => exact hbuild l hl
    | find mention k => exact hl

/-! ## What holds after every run -/

/-- No key is registered in the index of a linker: every build takes the keys of its entries. -/
theorem registered_run {l₀ : Linker ε} (hnew : l₀.IsNew) (requests : List Request) :
    (l₀.run requests).index.registered = none := by
  refine run_induction (P := fun l => l.index.registered = none) ?_ ?_ ?_ requests l₀
    hnew.fields.2.2.2
  · exact fun l e hl _ => hl
  · intro l o hl
    cases htrain : (TextEncoder.train l.encoder l.catalog.aliasTexts o).result with
    | error e =>
      rw [train_state_of_error htrain]
      exact hl
    | ok report =>
      rw [train_state_of_ok htrain]
      rfl
  · intro l hl
    rcases l.build_state_cases with hstate | ⟨-, hstate⟩
    · rw [hstate]
      exact hl
    · rw [hstate]
      exact hl

theorem encoder_train (l : Linker ε) (o : TrainingOptions) :
    (l.train o).state.encoder =
      (TextEncoder.train l.encoder l.catalog.aliasTexts o).state := by
  cases htrain : (TextEncoder.train l.encoder l.catalog.aliasTexts o).result with
  | error e => rw [train_state_of_error htrain]
  | ok report => rw [train_state_of_ok htrain]

theorem catalog_train (l : Linker ε) (o : TrainingOptions) :
    (l.train o).state.catalog = l.catalog := by
  cases htrain : (TextEncoder.train l.encoder l.catalog.aliasTexts o).result with
  | error e => rw [train_state_of_error htrain]
  | ok report => rw [train_state_of_ok htrain]

theorem catalog_build (l : Linker ε) : l.build.state.catalog = l.catalog := by
  rcases l.build_state_cases with hstate | ⟨-, hstate⟩ <;> rw [hstate]

/-- No identifier leaves a catalog. -/
theorem isSome_get?_run {l : Linker ε} {id : String} (requests : List Request)
    (h : (l.catalog.get? id).isSome = true) :
    ((l.run requests).catalog.get? id).isSome = true := by
  refine run_induction (P := fun l => (l.catalog.get? id).isSome = true) ?_ ?_ ?_ requests l h
  · exact fun l e hl _ => l.catalog.inverse.isSome_get?_put e.normalized hl
  · intro l o hl
    rwa [catalog_train]
  · intro l hl
    rwa [catalog_build]

theorem fault?_run {l₀ : Linker ε} (hnew : l₀.IsNew) (requests : List Request) :
    ∀ e ∈ (l₀.run requests).catalog.entities, e.fault? = none := by
  refine run_induction (P := fun l => ∀ e ∈ l.catalog.entities, e.fault? = none) ?_ ?_ ?_
    requests l₀ ?_
  · intro l e hl hfault x hx
    rcases EntityTable.mem_put hx with rfl | hx
    · exact hfault
    · exact hl x hx
  · intro l o hl
    rwa [catalog_train]
  · intro l hl
    rwa [catalog_build]
  · rw [hnew.fields.1]
    intro e he
    cases he

theorem keys_build_sublist {l : Linker ε} (hfree : l.index.registered = none) :
    l.build.state.index.keys = l.index.keys ∨
      l.build.state.index.keys.Sublist (l.catalog.entries.map Prod.fst) := by
  rcases l.build_state_cases with hstate | ⟨-, hstate⟩
  · rw [hstate]
    exact Or.inl rfl
  · rw [hstate]
    refine Or.inr ?_
    show ((l.index.contentOf l.encoder l.catalog.entries).map StoredVector.key).Sublist _
    rw [VectorIndex.map_key_contentOf, VectorIndex.slotKeys, hfree,
      eraseDups_eq_self l.catalog.inverse.nodup_map_fst_entries]
    exact List.filter_sublist

/-- A request leaves the keys of the index as they were, or takes them from the entries of now. -/
theorem keys_serve_sublist {l : Linker ε} (hfree : l.index.registered = none) (r : Request) :
    (l.serve r).index.keys = l.index.keys ∨
      (l.serve r).index.keys.Sublist (l.catalog.entries.map Prod.fst) := by
  cases r with
  | add e =>
    left
    rw [serve]
    cases hfault : e.normalized.fault? with
    | some fault => rw [add_of_fault hfault, Step.refuse]
    | none => rw [add_of_sound hfault, withEntity]
  | addAll es =>
    left
    exact addAll_induction (P := fun l' => l'.index.keys = l.index.keys) (fun _ _ hl' _ => hl') es l
      rfl
  | train o =>
    rw [serve]
    cases htrain : (TextEncoder.train l.encoder l.catalog.aliasTexts o).result with
    | error e =>
      left
      rw [train_state_of_error htrain]
    | ok report =>
      -- training that succeeds leaves no key at all
      right
      rw [train_state_of_ok htrain]
      exact List.nil_sublist _
  | build => exact keys_build_sublist hfree
  | find mention k => exact Or.inl rfl

/-- **At some moment of a run, the keys of the index were among the entries of the catalog.** -/
theorem exists_keys_sublist {l₀ : Linker ε} (hnew : l₀.IsNew) (requests : List Request) :
    ∃ earlier, earlier <+: requests ∧
      (l₀.run requests).index.keys.Sublist ((l₀.run earlier).catalog.entries.map Prod.fst) := by
  -- from the end of the run: its last request made the keys, or they are older
  induction requests using List.reverseRecOn with
  | nil =>
    refine ⟨[], List.prefix_rfl, ?_⟩
    rw [run_nil, VectorIndex.keys, hnew.fields.2.2.1]
    exact List.nil_sublist _
  | append_singleton requests r ih =>
    rw [run_append, run_singleton]
    rcases keys_serve_sublist (registered_run hnew requests) r with hsame | hmade
    · obtain ⟨earlier, hfront, hsub⟩ := ih
      refine ⟨earlier, hfront.trans (List.prefix_append _ _), ?_⟩
      rwa [hsame]
    · exact ⟨requests, List.prefix_append _ _, hmade⟩

/-- Every key of the index is that of an alias, and its entity is registered still. -/
theorem exists_toText_of_mem_keys {l₀ : Linker ε} (hnew : l₀.IsNew) (requests : List Request)
    {key : String} (h : key ∈ (l₀.run requests).index.keys) :
    ∃ k : AliasKey, key = k.toText ∧
      ((l₀.run requests).catalog.get? k.entityId).isSome = true := by
  obtain ⟨earlier, ⟨later, hsplit⟩, hsub⟩ := exists_keys_sublist hnew requests
  obtain ⟨entry, hentry, rfl⟩ := List.mem_map.mp (hsub.subset h)
  obtain ⟨e, he, ordinal, -, hkey⟩ := EntityTable.mem_entries_iff.mp hentry
  refine ⟨⟨e.id, ordinal⟩, hkey, ?_⟩
  -- registered at that earlier moment, so registered still
  rw [← hsplit, run_append]
  exact isSome_get?_run later ((Catalog.inverse _).isSome_get?_iff.mpr ⟨e, he, rfl⟩)

/-! ## Runs that a machine can count -/

/--
Counts are words of 64 bits: at no moment of the run are there more aliases than such a word can
count.
-/
def Countable (l₀ : Linker ε) (requests : List Request) : Prop :=
  ∀ earlier, earlier <+: requests → (l₀.run earlier).catalog.aliasCount < Whole.wordBound

theorem countable_iff {l₀ : Linker ε} {requests : List Request} :
    l₀.Countable requests ↔ ∀ earlier ∈ requests.inits,
      (l₀.run earlier).catalog.aliasCount < Whole.wordBound := by
  simp only [Countable, List.mem_inits]

instance (l₀ : Linker ε) (requests : List Request) : Decidable (l₀.Countable requests) :=
  decidable_of_iff _ countable_iff.symm

theorem size_lt_of_countable {l₀ : Linker ε} (hnew : l₀.IsNew) {requests : List Request}
    (hcount : l₀.Countable requests) : (l₀.run requests).index.size < Whole.wordBound := by
  obtain ⟨earlier, hfront, hsub⟩ := exists_keys_sublist hnew requests
  have hle := hsub.length_le
  rw [List.length_map, EntityTable.length_entries, VectorIndex.keys, List.length_map] at hle
  exact Nat.lt_of_le_of_lt hle (hcount earlier hfront)

/-- An alias of a registered entity can be read off its key, if aliases can be counted. -/
theorem ofText_toText_run {l₀ : Linker ε} (hnew : l₀.IsNew) {requests : List Request}
    (hfit : (l₀.run requests).catalog.aliasCount < Whole.wordBound) {e : Entity}
    (he : e ∈ (l₀.run requests).catalog.entities) {ordinal : Nat} {text : String}
    (halias : e.aliases[ordinal]? = some text) :
    AliasKey.ofText (AliasKey.mk e.id ordinal).toText = .ok ⟨e.id, ordinal⟩ := by
  -- reading wants an identifier and a place that fits into a word; the first was checked when the
  -- entity was added, the second is what counting is for
  refine AliasKey.ofText_toText ?_ (Nat.lt_trans (EntityTable.ordinal_lt_aliasCount he halias) hfit)
  intro hempty
  have hid : e.id = "" := hempty
  have hfault := fault?_run hnew requests e he
  simp [Entity.fault?, hid, Text.isBlankText] at hfault

/-- Where aliases can be counted, every key of the index can be read. -/
theorem exists_owner?_of_countable {l₀ : Linker ε} (hnew : l₀.IsNew) {requests : List Request}
    (hcount : l₀.Countable requests) {key : String}
    (h : key ∈ (l₀.run requests).index.keys) :
    ∃ id, AliasKey.owner? key = some id := by
  obtain ⟨earlier, hfront, hsub⟩ := exists_keys_sublist hnew requests
  obtain ⟨entry, hentry, rfl⟩ := List.mem_map.mp (hsub.subset h)
  obtain ⟨e, he, ordinal, halias, hkey⟩ := EntityTable.mem_entries_iff.mp hentry
  refine ⟨e.id, AliasKey.owner?_eq_some_iff.mpr ⟨⟨e.id, ordinal⟩, ?_, rfl⟩⟩
  rw [hkey]
  exact ofText_toText_run hnew (hcount earlier hfront) he halias

/-! ## A run to try -/

/-- A linker for directions, over an encoder that knows three of them. -/
def compass : Linker TableEncoder where
  settings := { oversampling := 2 }
  training := {}
  encoder :=
    { width := 2
      rows := [("east", #[.one, .zero]), ("north", #[.zero, .one]),
        ("north east", #[.one, .one])] }
  index := .ofSettings 2 { allowPartialFailure := true }
  catalog := .empty
  stage := .empty

theorem isNew_compass : compass.IsNew := ⟨compass.encoder, _, compass.settings, compass, rfl, rfl⟩

/-- Two entities, a build that has to leave out one alias, and a training that fails. -/
def survey : List Request :=
  [.addAll [(Entity.ofName "NE" "north east").withAliases ["east", "up"],
      Entity.ofName "N.1" "north"],
    .build, .train { minFrequency := 0 }]

theorem countable_survey : compass.Countable survey := by decide +kernel

end Linker

end Gazetteer
