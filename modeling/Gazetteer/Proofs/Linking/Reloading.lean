import Gazetteer.Proofs.Encoding.SavedBytes
import Gazetteer.Proofs.Linking.FreshStarts

/-!
# Encoders saved and loaded

There are two ways to a linker that answers. One trains the encoder of its configuration on its own
entities. The other gets an encoder that was trained elsewhere, written to bytes and read back. **If
the encoder was trained on the same aliases with the same options, the two linkers answer alike**
(`buildsAlike_reload`).

The encoder that is read back is the trained one itself, so the two linkers agree in all that their
answers depend on (`Agree`). What is left to show is that nothing goes wrong on the way: valid
settings make an encoder and a linker, and a trained encoder can be saved.
-/

set_option autoImplicit false

namespace Gazetteer

/-! ## Valid settings -/

theorem EncoderSettings.validate_eq_ok_iff {s : EncoderSettings} :
    s.validate = .ok () ↔ s.fault? = none := by
  rw [validate]
  cases s.fault? <;> simp

/-- Settings without fault describe an encoder. -/
theorem EncoderSettings.exists_build {s : EncoderSettings} (h : s.validate = .ok ()) :
    ∃ e, s.build = .ok e := by
  have hfault : s.fault? = none := validate_eq_ok_iff.mp h
  obtain ⟨hfirst, hseparator⟩ := Option.or_eq_none_iff.mp hfault
  have hsound : s.shape.fault? = none := (Option.or_eq_none_iff.mp hfirst).1
  have hshape : BucketEncoder.ofShape s.shape = .ok ⟨s.shape, none, hsound⟩ :=
    BucketEncoder.ofShape_shape ⟨s.shape, none, hsound⟩
  rw [build, h, hshape]
  simp only [bind, Except.bind]
  split
  · rename_i haspect
    have hne : s.separator ≠ "" := by
      intro hempty
      rw [if_pos ⟨haspect, hempty⟩] at hseparator
      cases hseparator
    rw [PartsEncoder.ofBase_base ⟨_, s.separator, hne⟩]
    exact ⟨_, rfl⟩
  · exact ⟨_, rfl⟩
  · exact ⟨_, rfl⟩

/-- The settings of a search pass if something is fetched and the bound is finite. -/
theorem LookupSettings.validate_eq_ok_iff {s : LookupSettings} :
    s.validate = .ok () ↔ s.oversampling ≠ 0 ∧ s.minSimilarity.isFinite = true := by
  rw [validate, fault?]
  by_cases hfetch : s.oversampling = 0
  · simp [hfetch]
  · cases hfinite : s.minSimilarity.isFinite <;> simp [hfetch]

theorem Configuration.validate_eq_ok_iff {c : Configuration} :
    c.validate = .ok () ↔ c.encoder.validate = .ok () ∧ c.lookup.validate = .ok () := by
  rw [validate]
  cases c.encoder.validate with
  | error cause => exact ⟨nofun, nofun⟩
  | ok _ => exact (and_iff_right rfl).symm

namespace Linker

/-- A configuration without fault describes a linker over the encoder of its settings. -/
theorem exists_ofConfiguration {c : Configuration} (h : c.validate = .ok ()) :
    c.lookup.validate = .ok () ∧ ∃ encoder, c.encoder.build = .ok encoder ∧
      ofConfiguration c = .ok {
        settings := c.lookup
        training := c.encoder.training
        encoder
        index := .ofSettings (TextEncoder.dimensions encoder) c.index
        catalog := .empty
        stage := .empty } := by
  obtain ⟨hencoder, hlookup⟩ := Configuration.validate_eq_ok_iff.mp h
  obtain ⟨encoder, hbuild⟩ := EncoderSettings.exists_build hencoder
  refine ⟨hlookup, encoder, hbuild, ?_⟩
  rw [ofConfiguration, h, hbuild]
  simp only [bind, Except.bind, Except.mapError, ofEncoder_eq encoder c.index hlookup]
  rfl

/-! ## Alike -/

/-- Two linkers that are built with the same report, and find the same from then on. -/
structure BuildsAlike (first second : Linker Encoder) : Prop where
  build : ∃ report, first.build.result = .ok report ∧ second.build.result = .ok report
  find : ∀ mention k, first.build.state.find mention k = second.build.state.find mention k

theorem buildsAlike_of_agree {l second : Linker Encoder} {o : TrainingOptions}
    (ho : o.fault? = none) (h : (l.train o).state.Agree second) :
    BuildsAlike (l.train o).state second := by
  have hbuild := l.build_result_of_train ho
  obtain ⟨hresult, hstate⟩ := h.build
  exact ⟨⟨_, hbuild, hresult ▸ hbuild⟩, hstate.find_eq⟩

/-- A trained linker agrees with one that was made and filled over its encoder. -/
theorem agree_train {l second : Linker Encoder} {o : TrainingOptions} (ho : o.fault? = none)
    (hsettings : second.settings = l.settings)
    (hencoder : second.encoder = (l.encoder.train l.catalog.aliasTexts o).state)
    (hindex : second.index = .ofSettings (TextEncoder.dimensions second.encoder) l.index.settings)
    (hcatalog : second.catalog = l.catalog) : (l.train o).state.Agree second := by
  obtain ⟨report, hreport⟩ := l.encoder.exists_train_eq_ok l.catalog.aliasTexts ho
  rw [train_state_of_ok hreport]
  refine ⟨hsettings.symm, hencoder.symm, ?_, hcatalog.symm⟩
  rw [hindex, hencoder]
  rfl

/--
**A saved encoder answers like the original.** One linker is made of a configuration, filled and
trained. Its encoder, trained apart on the same aliases, is saved and read back, and another linker
is made of it and filled. Nothing of this fails, and the two are built alike. All that is asked is
that the lengths in the saved encoder fit their fields.
-/
theorem buildsAlike_reload {c : Configuration} (hc : c.validate = .ok ()) {es : List Entity}
    (hes : ∀ e ∈ es, e.normalized.fault? = none) {o : TrainingOptions} (ho : o.fault? = none) :
    ∃ fresh encoder first saved,
      ofConfiguration c = .ok fresh ∧ c.encoder.build = .ok encoder ∧
      fresh.addAll es = ⟨first, [], .ok es.length⟩ ∧
      (∃ report, (first.train o).result = .ok report) ∧
      (encoder.train first.catalog.aliasTexts o).state.toSaved = .ok saved ∧
      (saved.Addressable →
        ∃ read loaded bare second,
          SavedEncoder.ofBytes saved.toBytes = .ok read ∧ read.toEncoder = .ok loaded ∧
          ofEncoder loaded c.index c.lookup = .ok bare ∧
          bare.addAll es = ⟨second, [], .ok es.length⟩ ∧
          BuildsAlike (first.train o).state second) := by
  obtain ⟨hlookup, encoder, hencoder, hfresh⟩ := exists_ofConfiguration hc
  let catalog := Catalog.empty.putAll (es.map Entity.normalized)
  let trained := (encoder.train catalog.aliasTexts o).state
  have hready : TextEncoder.isReady trained = true := encoder.isReady_train _ ho
  obtain ⟨saved, hsaved, hversion, hback⟩ := Encoder.toEncoder_toSaved hready
  refine ⟨_, encoder, _, saved, hfresh, hencoder, addAll_eq es hes, exists_train_eq_ok _ ho, hsaved,
    fun hfits => ?_⟩
  have hread : SavedEncoder.ofBytes saved.toBytes = .ok saved := by
    simpa only [List.append_nil] using SavedEncoder.ofBytes_toBytes_append hversion hfits []
  refine ⟨saved, trained, _, _, hread, hback, ofEncoder_eq trained c.index hlookup,
    addAll_eq es hes, ?_⟩
  exact buildsAlike_of_agree ho (agree_train ho rfl rfl rfl rfl)

/-- Names with parts, and vectors with few components. -/
def rivers : Configuration where
  encoder := { dimensions := 3, hashes := 1, strategy := .aspect, gramWidth := 20 }

/-- One name with two parts. -/
def thames : Entity := Entity.ofName "LON" "London / Thames"

/-- What is saved of the encoder after training on the name. -/
def savedThames : SavedEncoder where
  version := savedVersion
  shape := ⟨3, 1, .grams 20⟩
  vocabulary := ⟨.english, 1, .ofList [("<london>", 1), ("<thames>", 1)]⟩
  separator := some " / "

theorem addressable_savedThames : savedThames.Addressable := by
  refine ⟨by decide +kernel, by decide +kernel, ?_⟩
  intro s hs
  cases hs
  decide +kernel

theorem toSaved_thames {encoder : Encoder} (h : rivers.encoder.build = .ok encoder) :
    (encoder.train ["London / Thames"] {}).state.toSaved = .ok savedThames := by
  cases h
  decide +kernel

theorem buildsAlike_thames :
    rivers.validate = .ok () ∧ (∀ e ∈ [thames], e.normalized.fault? = none) ∧
      ∃ fresh first bare second, ofConfiguration rivers = .ok fresh ∧
        fresh.addAll [thames] = ⟨first, [], .ok 1⟩ ∧
        ∃ loaded, savedThames.toEncoder = .ok loaded ∧
          ofEncoder loaded rivers.index rivers.lookup = .ok bare ∧
          bare.addAll [thames] = ⟨second, [], .ok 1⟩ ∧
          BuildsAlike (first.train {}).state second := by
  have hvalid : rivers.validate = .ok () := rfl
  have hes : ∀ e ∈ [thames], e.normalized.fault? = none := by decide +kernel
  have ho : ({} : TrainingOptions).fault? = none := by decide
  obtain ⟨fresh, encoder, first, saved, hfresh, hencoder, hfirst, -, hsaved, hreload⟩ :=
    buildsAlike_reload hvalid hes ho
  have htexts : first.catalog.aliasTexts = ["London / Thames"] := by
    rw [addAll_eq [thames] hes, Step.mk.injEq] at hfirst
    rw [← hfirst.1, (isNew_of_ofConfiguration hfresh).fields.1]
    show (Catalog.empty.putAll ([thames].map Entity.normalized)).aliasTexts = ["London / Thames"]
    decide +kernel
  rw [htexts, toSaved_thames hencoder] at hsaved
  obtain rfl := Except.ok.inj hsaved
  obtain ⟨read, loaded, bare, second, hread, hloaded, hbare, hsecond, halike⟩ :=
    hreload addressable_savedThames
  have hback := SavedEncoder.ofBytes_toBytes_append rfl addressable_savedThames []
  rw [List.append_nil, hread] at hback
  obtain rfl := Except.ok.inj hback
  exact ⟨hvalid, hes, fresh, first, bare, second, hfresh, hfirst, loaded, hloaded, hbare, hsecond,
    halike⟩

end Linker

end Gazetteer
