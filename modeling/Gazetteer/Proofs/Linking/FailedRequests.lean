import Gazetteer.Proofs.Linking.ValidConfigurations

/-!
# Requests that fail

A request that fails leaves the linker as it was: **catalog, encoder, index and stage are what they
were before an entity was refused, a training or a build failed; and of several entities, those
before the first that is refused were added, one by one** (`FailsCleanly`, `failsCleanly_run`).

Each request has parts that could move before another part fails. A training goes to the encoder
first, which refuses options that make no sense before it looks at a text (`train_of_fault`). A
build that got as far as encoding aliases has put nothing into the index yet
(`build_state_of_error`); after a run it does not even get that far. Several entities are the one
case that leaves a trace (`addAll_eq_error`).
-/

set_option autoImplicit false

namespace Gazetteer

namespace Linker

/-! ## Entities that are refused -/

section Adding

variable {ε : Type} [TextEncoder ε] {error : LinkError}

/-- Where one of several entities is refused, those before it were added, and no others. -/
theorem addAll_eq_error (es : List Entity) :
    ∀ {l : Linker ε}, (l.addAll es).result = .error error →
      ∃ front bad rest, es = front ++ bad :: rest ∧ (∀ e ∈ front, e.Acceptable) ∧
        (l.addAll es).state = l.run (front.map .add) ∧
        ((l.run (front.map .add)).add bad).result = .error error := by
  induction es with
  | nil =>
    intro l h
    cases h
  | cons e rest ih =>
    intro l h
    cases hfault : e.normalized.fault? with
    | some fault =>
      rw [addAll_cons_of_fault hfault] at h ⊢
      refine ⟨[], e, rest, rfl, nofun, rfl, ?_⟩
      rw [List.map_nil, run_nil, add_of_fault hfault]
      exact congrArg Except.error (Except.error.inj h)
    | none =>
      rw [addAll_cons_of_sound hfault] at h ⊢
      have hrest : ((l.withEntity e.normalized).addAll rest).result = .error error := by
        cases hcount : ((l.withEntity e.normalized).addAll rest).result with
        | error later =>
          simp only [hcount] at h
          exact congrArg Except.error (Except.error.inj h)
        | ok count =>
          simp only [hcount] at h
          cases h
      obtain ⟨front, bad, behind, rfl, hfront, hstate, hbad⟩ := ih hrest
      have hserve : l.serve (.add e) = l.withEntity e.normalized := by
        rw [serve, add_of_sound hfault]
      have hrun : l.run ((e :: front).map .add) =
          (l.withEntity e.normalized).run (front.map .add) :=
        congrArg (fun start => run start (front.map .add)) hserve
      refine ⟨e :: front, bad, behind, rfl, ?_, ?_, ?_⟩
      · intro d hd
        rcases List.mem_cons.mp hd with rfl | hd
        · exact Entity.fault?_normalized_eq_none_iff.mp hfault
        · exact hfront d hd
      · rw [hrun]
        exact hstate
      · rw [hrun]
        exact hbad

end Adding

/-! ## Trainings that are refused -/

theorem train_of_fault (l : Linker Encoder) {o : TrainingOptions} {fault : EncoderFault}
    (ho : o.fault? = some fault) : l.train o = .refuse l (.encoder (.invalid fault)) := by
  have hstep : TextEncoder.train l.encoder l.catalog.aliasTexts o =
      .refuse l.encoder (.invalid fault) := l.encoder.train_of_fault _ ho
  rw [train, hstep]
  rfl

/-! ## Failing cleanly -/

/-- A request that fails leaves the linker as it was, and this is why it fails. -/
structure FailsCleanly (l : Linker Encoder) : Prop where
  add : ∀ e error, (l.add e).result = .error error →
    (l.add e).state = l ∧ ∃ fault, e.normalized.fault? = some fault ∧ error = .entity e.id fault
  train : ∀ o error, (l.train o).result = .error error →
    (l.train o).state = l ∧ ∃ fault, o.fault? = some fault ∧ error = .encoder (.invalid fault)
  build : ∀ error, l.build.result = .error error →
    l.build.state = l ∧ TextEncoder.isReady l.encoder = false ∧ error = .encoder .untrained
  /-- Of several entities, exactly those before the first that is refused were added. -/
  addAll : ∀ es error, (l.addAll es).result = .error error →
    ∃ front bad rest, es = front ++ bad :: rest ∧
      (∀ e ∈ front, e.Acceptable) ∧ ¬ bad.Acceptable ∧
      (l.addAll es).state = l.run (front.map .add) ∧
      ((l.run (front.map .add)).add bad).result = .error error

/-- **After every run, requests that fail leave the linker as it was.** -/
theorem failsCleanly_run {l₀ : Linker Encoder} (hnew : l₀.IsNew) (requests : List Request) :
    FailsCleanly (l₀.run requests) := by
  have hmatched := matched_run hnew requests
  have hfree := registered_run hnew requests
  generalize l₀.run requests = l at hmatched hfree
  refine { add := fun _ _ h => add_eq_error h, train := ?_, build := ?_, addAll := ?_ }
  · intro o error h
    cases ho : o.fault? with
    | none =>
      obtain ⟨report, hreport⟩ := l.exists_train_eq_ok ho
      rw [hreport] at h
      cases h
    | some fault =>
      rw [l.train_of_fault ho] at h ⊢
      exact ⟨rfl, fault, rfl, (Except.error.inj h).symm⟩
  · intro error h
    refine ⟨build_state_of_error h, ?_⟩
    by_cases hready : TextEncoder.isReady l.encoder = true
    · -- a trained encoder has a vector for every alias, so nothing is left that could fail
      rw [hmatched.result_build hfree hready] at h
      cases h
    · rw [build_of_not_ready hready] at h
      exact ⟨Bool.eq_false_iff.mpr hready, (Except.error.inj h).symm⟩
  · intro es error h
    obtain ⟨front, bad, rest, hes, hfront, hstate, hbad⟩ := addAll_eq_error es h
    refine ⟨front, bad, rest, hes, hfront, fun hacceptable => ?_, hstate, hbad⟩
    rw [add_of_sound (Entity.fault?_normalized_eq_none_iff.mpr hacceptable)] at hbad
    cases hbad

/-- A linker that has an entity and no training yet can fail in all these ways. -/
theorem failsCleanly_plain :
    plain.IsNew ∧
      (let l := plain.run [.add (Entity.ofName "LON" "London")]
       (l.add (Entity.ofName " " "nowhere")).result = .error (.entity " " .blankId) ∧
        (l.train { minFrequency := 0 }).result = .error (.encoder (.invalid .noMinFrequency)) ∧
        l.build.result = .error (.encoder .untrained) ∧
        (l.addAll [Entity.ofName "PAR" "Paris", Entity.ofName "LON" "",
          Entity.ofName "ROM" "Rome"]).result = .error (.entity "LON" .noAlias) ∧
        FailsCleanly l) := by
  have hnew : plain.IsNew := isNew_of_ofConfiguration ofConfiguration_plain
  refine ⟨hnew, by decide +kernel, by decide +kernel, by decide +kernel, by decide +kernel, ?_⟩
  exact failsCleanly_run hnew [.add (Entity.ofName "LON" "London")]

end Linker

end Gazetteer
