import Gazetteer.Linking.ConfigurationText
import Gazetteer.Proofs.Linking.Cataloging
import Gazetteer.Proofs.Linking.KeysInUse
import Gazetteer.Proofs.Linking.Reloading

/-!
# Valid configurations

A configuration is checked before a linker is made of it, and never again. **No later error is left
that the check could have missed** (`dependable_run`): whatever the linker has been through, it takes
every acceptable entity, can be trained the way its configuration says, indexes every alias once it
is trained, and answers every mention.

Behind it stands one invariant of encoder and index (`Matched`): the index is as wide as the vectors
of the encoder, and it holds nothing before the encoder is trained. It survives a training that fails
because that leaves the encoder as it was.

Errors are meant here. Whether there is room for vectors of the width that a configuration asks for
is not a matter of its check.
-/

set_option autoImplicit false

namespace Gazetteer

theorem EncoderSettings.fault?_training {s : EncoderSettings} (h : s.validate = .ok ()) :
    s.training.fault? = none := by
  obtain ⟨hfirst, -⟩ := Option.or_eq_none_iff.mp (validate_eq_ok_iff.mp h)
  exact (Option.or_eq_none_iff.mp hfirst).2

/-- A configuration that was read has been checked. -/
theorem Configuration.validate_of_ofText {text : String} {c : Configuration}
    (h : ofText text = .ok c) : c.validate = .ok () := by
  unfold ofText at h
  split at h
  · cases h
  · rename_i read _
    cases hvalid : read.validate with
    | error error =>
      rw [hvalid] at h
      cases h
    | ok _ =>
      rw [hvalid] at h
      obtain rfl : read = c := Except.ok.inj h
      exact hvalid

namespace Linker

/-! ## Encoder and index -/

/-- The index is made for the vectors of the encoder. -/
structure Matched (l : Linker Encoder) : Prop where
  width : l.index.dimensions = TextEncoder.dimensions l.encoder
  /-- Only a trained encoder has vectors to store. -/
  trained : l.index.isEmpty = false → TextEncoder.isReady l.encoder = true

theorem IsNew.matched {l : Linker Encoder} (h : l.IsNew) : l.Matched := by
  obtain ⟨encoder, index, settings, training, rfl⟩ := h.exists_eq
  refine ⟨rfl, fun hstored => ?_⟩
  cases hstored

theorem Matched.train {l : Linker Encoder} (h : l.Matched) (o : TrainingOptions) :
    (l.train o).state.Matched := by
  cases htrain : (TextEncoder.train l.encoder l.catalog.aliasTexts o).result with
  | error cause =>
    have hsame : (TextEncoder.train l.encoder l.catalog.aliasTexts o).state = l.encoder :=
      Encoder.train_state_of_error htrain
    rw [train_state_of_error htrain, hsame]
    exact h
  | ok report =>
    -- the index is a new one, made for the encoder of now
    rw [train_state_of_ok htrain]
    refine ⟨rfl, fun hstored => ?_⟩
    cases hstored

theorem Matched.build {l : Linker Encoder} (h : l.Matched) : l.build.state.Matched := by
  by_cases hready : TextEncoder.isReady l.encoder = true
  · rcases l.build_state_cases with hstate | ⟨-, hstate⟩
    · rw [hstate]
      exact h
    · rw [hstate]
      exact ⟨h.width, fun _ => hready⟩
  · rw [build_of_not_ready hready]
    exact h

theorem matched_run {l₀ : Linker Encoder} (hnew : l₀.IsNew) (requests : List Request) :
    (l₀.run requests).Matched :=
  run_induction (fun _ _ h _ => ⟨h.width, h.trained⟩) (fun _ o h => h.train o) (fun _ h => h.build)
    requests l₀ hnew.matched

/-! ## What cannot fail -/

/-- A trained linker can be built at any time, and all aliases are indexed. -/
theorem Matched.result_build {l : Linker Encoder} (h : l.Matched)
    (hfree : l.index.registered = none) (hready : TextEncoder.isReady l.encoder = true) :
    l.build.result = .ok ⟨l.catalog.aliasCount, []⟩ := by
  refine build_result_of_total hready h.width.symm hfree fun text => ?_
  rw [h.width]
  exact Encoder.exists_encode hready text

/-- None of the steps of a search can fail: not the encoding, nor the ranking, nor the reading. -/
theorem exists_find_run {l₀ : Linker Encoder} (hnew : l₀.IsNew) {requests : List Request}
    (hcount : l₀.Countable requests) (mention : String) (k : Nat) :
    ∃ cs, (l₀.run requests).find mention k = .ok cs := by
  have hmatched := matched_run hnew requests
  cases hfind : (l₀.run requests).find mention k with
  | ok cs => exact ⟨cs, rfl⟩
  | error error =>
    exfalso
    obtain ⟨hstored, hstep⟩ := find_eq_error hfind
    obtain ⟨vector, hvector, hsize⟩ :=
      Encoder.exists_encode (hmatched.trained hstored) mention
    rcases hstep with ⟨cause, hfails, -⟩ | ⟨query, hquery, ⟨cause, hfails, -⟩ | ⟨hits, hhits, hfails⟩⟩
    · rw [hvector] at hfails
      cases hfails
    · obtain rfl := Except.ok.inj (hvector.symm.trans hquery)
      rw [VectorIndex.find_of_width (hsize.trans hmatched.width.symm)] at hfails
      cases hfails
    · obtain ⟨owned, howned⟩ := exists_mapM_ownedHit_run hnew hcount hhits
      rw [howned] at hfails
      cases hfails

/-! ## Never failing later -/

/-- The linker can be filled, trained and built. -/
structure Dependable (l : Linker Encoder) : Prop where
  addAll : ∀ es : List Entity, (∀ e ∈ es, e.Acceptable) → (l.addAll es).result = .ok es.length
  /-- Training with the options of the configuration succeeds, and so does the build after it. -/
  train : (∃ report, (l.train l.training).result = .ok report) ∧
    (l.train l.training).state.build.result = .ok ⟨l.catalog.aliasCount, []⟩
  /-- In fact every build succeeds from the first training on, and leaves nothing out. -/
  build : TextEncoder.isReady l.encoder = true →
    l.build.result = .ok ⟨l.catalog.aliasCount, []⟩

/-- Every mention has an answer, alone and among others. -/
structure AnswersAll (l : Linker Encoder) : Prop where
  find : ∀ mention k, ∃ cs, l.find mention k = .ok cs
  findAll : ∀ mentions k, ∃ answers, l.findAll mentions k = .ok answers ∧
    List.Forall₂ (fun mention cs => l.find mention k = .ok cs) mentions answers

/--
**A configuration that passes the check never fails later.** A linker can be made of it. After any
run it is still to be trained in the same way, and can be; and if the aliases of the run could be
counted, it answers whatever it is asked.
-/
theorem dependable_run {c : Configuration}
    (hc : c.validate = .ok () ∨ ∃ text, Configuration.ofText text = .ok c) :
    ∃ l₀, ofConfiguration c = .ok l₀ ∧ ∀ requests,
      (l₀.run requests).training = c.encoder.training ∧ (l₀.run requests).Dependable ∧
        (l₀.Countable requests → (l₀.run requests).AnswersAll) := by
  have hvalid : c.validate = .ok () :=
    hc.elim id fun ⟨_, hread⟩ => Configuration.validate_of_ofText hread
  obtain ⟨-, encoder, -, hmade⟩ := exists_ofConfiguration hvalid
  refine ⟨_, hmade, fun requests => ?_⟩
  have hnew := isNew_of_ofConfiguration hmade
  have htraining := (kept_run hnew requests).training
  have hoptions := EncoderSettings.fault?_training (Configuration.validate_eq_ok_iff.mp hvalid).1
  refine ⟨htraining, ⟨fun es hes => ?_, ?_, fun hready => ?_⟩, fun hcount => ⟨?_, ?_⟩⟩
  · rw [addAll_eq es fun e he => Entity.fault?_normalized_eq_none_iff.mpr (hes e he)]
  · rw [htraining]
    exact ⟨exists_train_eq_ok _ hoptions, build_result_of_train _ hoptions⟩
  · exact (matched_run hnew requests).result_build (registered_run hnew requests) hready
  · exact exists_find_run hnew hcount
  · intro mentions k
    obtain ⟨answers, hanswers⟩ :=
      exists_mapM_eq_ok fun mention (_ : mention ∈ mentions) => exists_find_run hnew hcount mention k
    exact ⟨answers, hanswers, mapM_eq_ok_iff.mp hanswers⟩

/-- Entities whose identifiers end like keys are added, between trainings of which one fails. -/
def settling : List Request :=
  [.addAll [(Entity.ofName "N" "north").withAlias "east", Entity.ofName "N.1" "north"],
    .train {}, .build, .add (Entity.ofName "N.1.0" "north east"), .train { minFrequency := 0 }]

theorem countable_settling : plain.Countable settling := by
  -- how many aliases there are does not depend on what training and building do
  simp only [countable_iff, toEntityTable_run]
  decide +kernel

/-- The empty mapping is a valid configuration, and its linker goes on serving through all this. -/
theorem dependable_settling :
    Configuration.ofText "\x7b\x7d" = .ok {} ∧ ofConfiguration {} = .ok plain ∧
      plain.Countable settling ∧
      (plain.run settling).catalog.entries.map Prod.fst = ["N.0", "N.1", "N.1.0", "N.1.0.0"] ∧
      (plain.run settling).Dependable ∧ (plain.run settling).AnswersAll := by
  have hread : Configuration.ofText "\x7b\x7d" = .ok {} := by decide +kernel
  obtain ⟨l₀, hmade, hrun⟩ := dependable_run (Or.inr ⟨_, hread⟩)
  obtain rfl : l₀ = plain := Except.ok.inj (hmade.symm.trans ofConfiguration_plain)
  obtain ⟨-, hdependable, hanswers⟩ := hrun settling
  refine ⟨hread, hmade, countable_settling, ?_, hdependable, hanswers countable_settling⟩
  rw [toEntityTable_run]
  decide +kernel

end Linker

end Gazetteer
