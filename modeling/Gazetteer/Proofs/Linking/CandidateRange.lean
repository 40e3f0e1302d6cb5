import Gazetteer.Proofs.Index.SimilarityRange
import Gazetteer.Proofs.Index.Ties
import Gazetteer.Proofs.Linking.Completeness
import Gazetteer.Proofs.Linking.Thresholds

/-!
# The range of the similarities of candidates

The vectors of texts are far from all that goes wrong with vectors at large: their components are
counts, so nothing that is computed of them overflows and no cosine is below zero
(`textRange_of_encode`). An index that a linker has built holds nothing but vectors of texts, made by
the encoder of now (`StoresTexts`), also while entities wait for the next build. So **every candidate
has a number for its similarity, and it is above the bound** (`numbersOnly_run`).
-/

set_option autoImplicit false

namespace Gazetteer

open Gazetteer.Metric (cosineSimilarity inverseSimilarity)

/-! ## Vectors of texts -/

/-- What is computed of the vectors of two texts: all is finite, and no similarity is below zero. -/
structure Metric.TextRange (a b : DenseVector) : Prop extends Metric.InRange a b where
  cosine_nonneg : Binary32.zero.isAtMost (cosineSimilarity a b) = true

namespace Encoder

variable {e : Encoder} {text : String} {x y : DenseVector}

theorem moderate_of_encode (h : e.encode text = .ok x) : x.Moderate := (counts_of_encode h).moderate

theorem unsigned_of_encode (h : e.encode text = .ok x) : ∀ component ∈ x, component.Unsigned := by
  intro component hmem
  obtain ⟨i, hi, rfl⟩ := Array.mem_iff_getElem.mp hmem
  exact Binary32.unsigned_of_isNegative ((isCount_of_encode h).2 i hi).notNegative

/-- **Nothing goes wrong with the vectors of two texts.** -/
theorem textRange_of_encode {other : String} (hx : e.encode text = .ok x)
    (hy : e.encode other = .ok y) : Metric.TextRange x y := by
  have hrange := Metric.inRange_of_moderate (moderate_of_encode hx) (moderate_of_encode hy)
  refine ⟨hrange, ?_⟩
  have hnumber := (Binary32.isNaN_of_isAtMost hrange.cosine.1).2
  have hunsigned : (cosineSimilarity x y).Unsigned :=
    Metric.unsigned_cosine (unsigned_of_encode hx) (unsigned_of_encode hy)
  rw [Binary32.isAtMost_iff (by decide) hnumber]
  exact Binary32.signedPattern_nonneg (hunsigned.isNegative hnumber)

end Encoder

/-- By either metric, texts have similarities from zero to one. -/
theorem Metric.TextRange.similarity {a b : DenseVector} (h : Metric.TextRange a b) (m : Metric) :
    Binary32.zero.isAtMost (m.similarity a (DenseVector.norm a) b (DenseVector.norm b)) = true ∧
      (m.similarity a (DenseVector.norm a) b (DenseVector.norm b)).isAtMost .one = true := by
  cases m with
  | cosine => exact ⟨h.cosine_nonneg, h.cosine.2⟩
  | inverseEuclidean => exact ⟨Binary32.isAtMost_of_isBelow h.inverse.1, h.inverse.2⟩

namespace Linker

/-! ## What is in an index -/

/-- Every stored vector is one that the encoder of now makes of some text, with its norm. -/
def StoresTexts (l : Linker Encoder) : Prop :=
  ∀ s ∈ l.index.stored, s.norm = DenseVector.norm s.vector ∧
    ∃ text, l.encoder.encode text = .ok s.vector

theorem IsNew.storesTexts {l : Linker Encoder} (h : l.IsNew) : l.StoresTexts := by
  rw [StoresTexts, h.fields.2.2.1]
  exact nofun

/-- Training empties the index, or fails and leaves the encoder as it was. -/
theorem StoresTexts.train {l : Linker Encoder} (h : l.StoresTexts) (o : TrainingOptions) :
    (l.train o).state.StoresTexts := by
  cases htrain : (TextEncoder.train l.encoder l.catalog.aliasTexts o).result with
  | error cause =>
    have hsame : (TextEncoder.train l.encoder l.catalog.aliasTexts o).state = l.encoder :=
      Encoder.train_state_of_error htrain
    rw [train_state_of_error htrain, hsame]
    exact h
  | ok report =>
    rw [train_state_of_ok htrain]
    exact nofun

theorem StoresTexts.build {l : Linker Encoder} (h : l.StoresTexts) :
    l.build.state.StoresTexts := by
  rcases l.build_state_cases with hstate | ⟨-, hstate⟩
  · rw [hstate]
    exact h
  · rw [hstate]
    intro s hs
    obtain ⟨htext, -, hnorm⟩ := VectorIndex.of_mem_contentOf hs
    exact ⟨hnorm, htext⟩

theorem storesTexts_run {l₀ : Linker Encoder} (hnew : l₀.IsNew) (requests : List Request) :
    (l₀.run requests).StoresTexts :=
  run_induction (fun _ _ h _ => h) (fun _ o h => h.train o) (fun _ h => h.build)
    requests l₀ hnew.storesTexts

/-! ## Candidates -/

/-- Every hit for a text has a similarity from zero to one. -/
theorem StoresTexts.isAtMost_of_mem_scored {l : Linker Encoder} (h : l.StoresTexts)
    {mention : String} {query : DenseVector} (hquery : l.encoder.encode mention = .ok query)
    {hit : IndexHit} (hhit : hit ∈ l.index.scored query) :
    Binary32.zero.isAtMost hit.similarity = true ∧ hit.similarity.isAtMost .one = true := by
  obtain ⟨s, hs, rfl⟩ := List.mem_map.mp hhit
  obtain ⟨hnorm, text, htext⟩ := h s hs
  rw [hnorm]
  exact (Encoder.textRange_of_encode hquery htext).similarity l.index.settings.metric

/-- What is known of the candidates for a text. -/
structure NumbersOnly (bound : Binary32) (cs : List Candidate) : Prop where
  isNaN : ∀ c ∈ cs, c.similarity.isNaN = false
  above : ∀ c ∈ cs, bound.isBelow c.similarity = true
  range : ∀ c ∈ cs, Binary32.zero.isAtMost c.similarity = true ∧ c.similarity.isAtMost .one = true

theorem StoresTexts.numbersOnly_find {l : Linker Encoder} (h : l.StoresTexts)
    (hbound : l.settings.minSimilarity.isNaN = false) {mention : String} {k : Nat}
    {cs : List Candidate} (hfind : l.find mention k = .ok cs) :
    NumbersOnly l.settings.minSimilarity cs := by
  have hrange : ∀ c ∈ cs, Binary32.zero.isAtMost c.similarity = true ∧
      c.similarity.isAtMost .one = true := by
    intro c hc
    obtain ⟨-, query, hquery, hit, hhit, hsimilarity⟩ := exists_hit_of_mem_find hfind hc
    have hscored : hit ∈ l.index.scored query :=
      (sortBySimilarity_perm _).mem_iff.mp ((l.index.complete_prefix_ranked query).mem hhit)
    exact hsimilarity ▸ h.isAtMost_of_mem_scored hquery hscored
  have hnumber : ∀ c ∈ cs, c.similarity.isNaN = false := fun c hc =>
    (Binary32.isNaN_of_isAtMost (hrange c hc).1).2
  refine ⟨hnumber, fun c hc => ?_, hrange⟩
  rw [Binary32.isBelow_eq_not_isNaN hbound (exists_hit_of_mem_find hfind hc).1, hnumber c hc]
  rfl

/--
**Encoders never make a similarity that is no number**: what is computed of the vectors of two texts
is in its range, and so is every candidate of a linker over an encoder, after every run.
-/
theorem numbersOnly_run :
    (∀ e : Encoder, TextEncoder.isReady e = true → ∀ text other, ∃ x y,
        e.encode text = .ok x ∧ e.encode other = .ok y ∧ Metric.TextRange x y) ∧
      ∀ l₀ : Linker Encoder, l₀.IsNew → ∀ requests mention k cs,
        (l₀.run requests).find mention k = .ok cs → NumbersOnly l₀.settings.minSimilarity cs := by
  constructor
  · intro e hready text other
    obtain ⟨x, hx, -⟩ := Encoder.exists_encode hready text
    obtain ⟨y, hy, -⟩ := Encoder.exists_encode hready other
    exact ⟨x, y, hx, hy, Encoder.textRange_of_encode hx hy⟩
  · intro l₀ hnew requests mention k cs hfind
    have hfinite := (LookupSettings.validate_eq_ok_iff.mp hnew.validate).2
    have hsettings := (kept_run hnew requests).settings
    rw [← hsettings] at hfinite ⊢
    exact (storesTexts_run hnew requests).numbersOnly_find (Binary32.isNaN_of_isFinite hfinite)
      hfind

/-- A place on the river is compared with the names that were learned, and finds the town as well. -/
theorem numbersOnly_voyage :
    TextEncoder.isReady ((riverside none).run voyage).encoder = true ∧ (riverside none).IsNew ∧
      (∃ x y, ((riverside none).run voyage).encoder.encode "Oxford / Thames" = .ok x ∧
        ((riverside none).run voyage).encoder.encode "Isis" = .ok y ∧ Metric.TextRange x y) ∧
      ∃ cs, ((riverside none).run voyage).find "Oxford / Thames" 2 = .ok cs ∧
        (∃ c ∈ cs, c.entity = town) ∧ NumbersOnly .zero cs := by
  obtain ⟨hindexed, hencoder⟩ := stage_voyage (l := riverside none) rfl rfl
  have hready : TextEncoder.isReady ((riverside none).run voyage).encoder = true := by
    rw [hencoder]
    rfl
  have hnew : (riverside none).IsNew := ⟨_, {}, {}, _, rfl, rfl⟩
  have hfew : ((riverside none).run voyage).catalog.aliasCount = 3 := by
    rw [table_voyage]
    decide +kernel
  have hkept := kept_run hnew voyage
  have hentity : town ∈ ((riverside none).run voyage).catalog.entities := by
    rw [table_voyage]
    decide +kernel
  have halias : "Thames" ∈ town.aliases := by decide
  have hmention : "<thames>" ∈
      ((riverside none).run voyage).encoder.knownFeatures "Oxford / Thames" := by
    rw [hencoder]
    decide +kernel
  have hshared : "<thames>" ∈ ((riverside none).run voyage).encoder.knownFeatures "Thames" := by
    rw [hencoder]
    decide +kernel
  obtain ⟨cs, hfind, hfound⟩ := (matched_run hnew voyage).exists_mem_find
    (inStep_run keepsOnFailure_encoder hnew voyage) hindexed
    (readable_run hnew (hfew ▸ by decide)) (by rw [hkept.index]; rfl)
    (by rw [hkept.settings]; decide) hentity halias hmention hshared (k := 2)
    (by rw [table_voyage]; decide +kernel) (by rw [hfew, fetchCount, hkept.settings]; decide)
  exact ⟨hready, hnew, numbersOnly_run.1 _ hready _ _, cs, hfind, hfound,
    numbersOnly_run.2 _ hnew _ _ _ _ hfind⟩

end Linker

end Gazetteer
