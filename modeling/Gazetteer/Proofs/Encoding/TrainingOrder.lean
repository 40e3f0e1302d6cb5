import Gazetteer.Proofs.Encoding.Counting
import Mathlib.Data.Finset.Card

/-!
# The order of a collection

A collection of texts is a list only because it has to be gone through somehow. **In which order it
is gone through makes no difference to training**: the encoder afterwards is the same, byte for byte
when it is saved and bit for bit when it encodes, and so is the report, whose numbers are those of
sets (`TrainsAlike`, `trainsAlike_of_perm`).

The counts are made one occurrence at a time, into a map that keeps its keys in order. What a
feature looks up to in the end is known (`get?_tally`), and depends on how often it occurs and on
nothing else; and a map is no more than what its keys look up to.
-/

set_option autoImplicit false

namespace Gazetteer

namespace Vocabulary

/-! ## Counting in any order -/

theorem tally_perm {features features' : List String} (h : features.Perm features') :
    tally features = tally features' := by
  refine SortedMap.ext_get? fun f => ?_
  rw [get?_tally, get?_tally, h.count_eq]
  simp only [h.mem_iff]

theorem train_perm (kind : FeatureKind) (o : TrainingOptions) {documents documents' : List String}
    (h : documents.Perm documents') : train kind o documents = train kind o documents' := by
  have hoccurrences : (occurrences kind o documents).Perm (occurrences kind o documents') :=
    h.flatMap_right _
  rw [train, train, tally_perm hoccurrences]

/-! ## The numbers of a report -/

theorem size_tally (features : List String) : (tally features).size = features.toFinset.card := by
  refine SortedMap.size_eq_card fun f => ?_
  rw [SortedMap.contains, get?_tally, List.mem_toFinset]
  by_cases hf : f ∈ features
  · simp [hf]
  · simp [hf]

/-- A vocabulary is as large as the set of the features that are frequent enough. -/
theorem size_train (kind : FeatureKind) {o : TrainingOptions} {documents : List String}
    (ho : o.minFrequency ≠ 0) (hcount : ∀ f, (occurrences kind o documents).count f < 0x100000000) :
    (train kind o documents).1.size =
      ((occurrences kind o documents).toFinset.filter fun f =>
        o.minFrequency.toNat ≤ (occurrences kind o documents).count f).card := by
  refine SortedMap.size_eq_card fun f => ?_
  have hcontains := contains_train kind ho (hcount f)
  rw [contains] at hcontains
  rw [hcontains, decide_eq_true_eq, Finset.mem_filter, List.mem_toFinset]
  constructor
  · intro hfrequent
    refine ⟨?_, hfrequent⟩
    exact List.count_pos_iff.mp
      (Nat.lt_of_lt_of_le (TrainingOptions.minFrequency_pos ho) hfrequent)
  · exact fun h => h.2

/-- What is kept is among what was there, so the number of what is dropped is a true difference. -/
theorem size_train_le (kind : FeatureKind) (o : TrainingOptions) (documents : List String) :
    (train kind o documents).1.size ≤ (train kind o documents).2 :=
  List.length_filter_le _ _

end Vocabulary

namespace Encoder

/-! ## Training in any order -/

theorem train_perm (e : Encoder) {corpus corpus' : List String} (h : corpus.Perm corpus')
    {o : TrainingOptions} (ho : o.fault? = none) : e.train corpus o = e.train corpus' o := by
  have hdocuments : (corpus.flatMap e.documents).Perm (corpus'.flatMap e.documents) :=
    h.flatMap_right _
  have htrained : e.trained corpus o = e.trained corpus' o :=
    Vocabulary.train_perm e.base.shape.kind o hdocuments
  rw [e.train_eq corpus ho, e.train_eq corpus' ho, htrained, hdocuments.length_eq]

/-- What the report on a training says about the features of the collection. -/
structure Reports (e : Encoder) (o : TrainingOptions) (corpus : List String)
    (report : TrainingReport) : Prop where
  documents : report.documents = (corpus.flatMap e.documents).length
  distinct : report.distinct = (e.occurrences o corpus).toFinset.card
  kept : report.kept = ((e.occurrences o corpus).toFinset.filter fun f =>
    o.minFrequency.toNat ≤ (e.occurrences o corpus).count f).card
  kept_le : report.kept ≤ report.distinct
  dropped : report.dropped = ((e.occurrences o corpus).toFinset.filter fun f =>
    (e.occurrences o corpus).count f < o.minFrequency.toNat).card

theorem exists_reports (e : Encoder) {corpus : List String} {o : TrainingOptions}
    (ho : o.fault? = none) (hcorpus : ∀ f, (e.occurrences o corpus).count f < 0x100000000) :
    ∃ report, (e.train corpus o).result = .ok report ∧ e.Reports o corpus report := by
  rw [e.train_eq corpus ho]
  have hdistinct : (e.trained corpus o).2 = (e.occurrences o corpus).toFinset.card :=
    Vocabulary.size_tally _
  have hkept : (e.trained corpus o).1.size = ((e.occurrences o corpus).toFinset.filter fun f =>
      o.minFrequency.toNat ≤ (e.occurrences o corpus).count f).card :=
    Vocabulary.size_train e.base.shape.kind (TrainingOptions.minFrequency_ne_zero ho) hcorpus
  refine ⟨_, rfl,
    { documents := rfl, distinct := hdistinct, kept := hkept, kept_le := ?_, dropped := ?_ }⟩
  · exact Vocabulary.size_train_le e.base.shape.kind o (corpus.flatMap e.documents)
  · -- every feature is either frequent enough or not
    have hsplit := Finset.card_filter_add_card_filter_not (s := (e.occurrences o corpus).toFinset)
      fun f => o.minFrequency.toNat ≤ (e.occurrences o corpus).count f
    simp only [Nat.not_le] at hsplit
    rw [TrainingReport.dropped]
    simp only [hdistinct, hkept]
    omega

/-- Training on one collection or on the other comes to the same, in all that can be seen of it. -/
structure TrainsAlike (e : Encoder) (o : TrainingOptions) (corpus corpus' : List String) :
    Prop where
  /-- The state afterwards, the events on the way, and the report. -/
  step : e.train corpus o = e.train corpus' o
  report : ∃ report, (e.train corpus o).result = .ok report ∧
    (e.train corpus' o).result = .ok report ∧ e.Reports o corpus report
  saved : ∃ saved saved', (e.train corpus o).state.toSaved = .ok saved ∧
    (e.train corpus' o).state.toSaved = .ok saved' ∧ saved.toBytes = saved'.toBytes
  encode : ∀ text, ∃ vector, (e.train corpus o).state.encode text = .ok vector ∧
    (e.train corpus' o).state.encode text = .ok vector

/--
**The order of a collection does not matter.** Training with options that make sense succeeds and
comes to the same whichever way the collection is gone through. The report counts the features that
occur, and those that occur often enough, as far as a word of 32 bits can count occurrences.
-/
theorem trainsAlike_of_perm (e : Encoder) {corpus corpus' : List String}
    (h : corpus.Perm corpus') {o : TrainingOptions} (ho : o.fault? = none)
    (hcorpus : ∀ f, (e.occurrences o corpus).count f < 0x100000000) :
    e.TrainsAlike o corpus corpus' := by
  have hstep := e.train_perm h ho
  have hready := e.isReady_train corpus ho
  refine { step := hstep, report := ?_, saved := ?_, encode := ?_ }
  · obtain ⟨report, hresult, hreports⟩ := e.exists_reports ho hcorpus
    exact ⟨report, hresult, hstep ▸ hresult, hreports⟩
  · obtain ⟨saved, hsaved, -, -⟩ := toEncoder_toSaved hready
    exact ⟨saved, saved, hsaved, hstep ▸ hsaved, rfl⟩
  · intro text
    obtain ⟨vector, hvector, -⟩ := exists_encode hready text
    exact ⟨vector, hvector, hstep ▸ hvector⟩

/-- Two texts of parts, in both orders: three features occur, two of them twice. -/
theorem trainsAlike_smallParts :
    let o : TrainingOptions := { minFrequency := 2 }
    o.fault? = none ∧
      smallParts.occurrences o ["ab cd/ab", "cd/ef"] = ["ab", "cd", "ab", "cd", "ef"] ∧
      (smallParts.train ["ab cd/ab", "cd/ef"] o).result = .ok ⟨4, 3, 2⟩ ∧
      smallParts.TrainsAlike o ["ab cd/ab", "cd/ef"] ["cd/ef", "ab cd/ab"] := by
  have hoccurrences : smallParts.occurrences { minFrequency := 2 } ["ab cd/ab", "cd/ef"] =
      ["ab", "cd", "ab", "cd", "ef"] := by decide +kernel
  refine ⟨by decide, hoccurrences, by decide +kernel, ?_⟩
  refine trainsAlike_of_perm smallParts (List.Perm.swap _ _ _) (by decide) fun f => ?_
  rw [hoccurrences]
  exact Nat.lt_of_le_of_lt List.count_le_length (by decide)

end Encoder

end Gazetteer
