import Gazetteer.Encoding.SavedEncoder
import Gazetteer.Proofs.Encoding.FailedTraining

/-!
# Training that succeeds

Training with options that make sense succeeds on any collection, and all that it changes of an
encoder is the vocabulary (`Encoder.train_eq`). What the new vocabulary is depends on the
collection, the options and the rest of the encoder, never on a vocabulary that was there before.
With a vocabulary, whichever it is, every text has a vector of the right width
(`Encoder.exists_encode`), and saving loses nothing (`Encoder.toEncoder_toSaved`).
-/

set_option autoImplicit false

namespace Gazetteer

/-! ## Shapes without fault -/

/-- What a shape is tested for: components, hashes that a digest has words for, and pieces. -/
theorem Shape.fault?_eq_none_iff {s : Shape} :
    s.fault? = none ↔ s.dimensions ≠ 0 ∧ (1 ≤ s.hashes.toNat ∧ s.hashes.toNat ≤ maxHashes) ∧
      s.kind ≠ .grams 0 := by
  have hhashes : (s.hashes = 0 ∨ maxHashes < s.hashes.toNat) ↔
      ¬ (1 ≤ s.hashes.toNat ∧ s.hashes.toNat ≤ maxHashes) := by
    have hzero : s.hashes = 0 ↔ s.hashes.toNat = 0 := UInt64.toNat_inj.symm
    rw [hzero]
    omega
  have hkind : s.kind.fault? = none ↔ s.kind ≠ .grams 0 := by
    cases s.kind <;> simp [FeatureKind.fault?]
  rw [fault?, ← hkind]
  by_cases hdimensions : s.dimensions = 0
  · simp [hdimensions]
  · by_cases hcount : s.hashes = 0 ∨ maxHashes < s.hashes.toNat
    · rw [if_neg hdimensions, if_pos hcount]
      exact ⟨nofun, fun h => absurd h.2.1 (hhashes.mp hcount)⟩
    · rw [if_neg hdimensions, if_neg hcount]
      rw [hhashes, Decidable.not_not] at hcount
      exact ⟨fun h => ⟨hdimensions, hcount, h⟩, fun h => h.2.2⟩

theorem BucketEncoder.dimensions_pos (e : BucketEncoder) : 0 < e.shape.dimensions.toNat :=
  Nat.pos_of_ne_zero fun hzero =>
    (Shape.fault?_eq_none_iff.mp e.sound).1 (UInt64.toNat_inj.mp hzero)

theorem BucketEncoder.lt_of_mem_buckets {e : BucketEncoder} {feature : String} {b : Nat}
    (hb : b ∈ e.buckets feature) : b < e.shape.dimensions.toNat := by
  obtain ⟨i, -, rfl⟩ := List.mem_map.mp hb
  exact Nat.mod_lt _ e.dimensions_pos

/-! ## Vectors as hits added up -/

namespace BucketEncoder

/-- Ones added at the given components, in turn. -/
def addHits (vector : DenseVector) (hits : List Nat) : DenseVector :=
  hits.foldl (fun acc b => acc.modify b (· + Binary32.one)) vector

theorem size_addHits (hits : List Nat) :
    ∀ vector : DenseVector, (addHits vector hits).size = vector.size := by
  induction hits with
  | nil => exact fun _ => rfl
  | cons b hits ih => exact fun vector => (ih _).trans Array.size_modify

/-- All components that the parts hit, in turn. -/
def hitsOf (e : BucketEncoder) (v : Vocabulary) (parts : List String) : List Nat :=
  (parts.flatMap (e.knownFeatures v)).flatMap e.buckets

theorem foldl_addText (e : BucketEncoder) (v : Vocabulary) (parts : List String) :
    ∀ vector : DenseVector,
      parts.foldl (e.addText v) vector = addHits vector (e.hitsOf v parts) := by
  induction parts with
  | nil => exact fun _ => rfl
  | cons part parts ih =>
    intro vector
    rw [List.foldl_cons, ih, hitsOf, hitsOf, List.flatMap_cons, List.flatMap_append, addHits,
      addHits, List.foldl_append]
    rfl

theorem encodeParts_eq {e : BucketEncoder} {v : Vocabulary} (h : e.vocabulary = some v)
    (parts : List String) : e.encodeParts parts = .ok (addHits e.blank (e.hitsOf v parts)) := by
  rw [encodeParts, h]
  exact congrArg Except.ok (e.foldl_addText v parts e.blank)

theorem size_addHits_blank (e : BucketEncoder) (hits : List Nat) :
    (addHits e.blank hits).size = e.shape.dimensions.toNat := by
  rw [size_addHits, blank, Array.size_replicate]

end BucketEncoder

namespace Encoder

/-! ## Encoders and their vocabularies -/

/-- What an encoder takes the features of: the text itself, or its parts. -/
def documents : Encoder → String → List String
  | whole _, text => [text]
  | parts e, text => e.split text

/-- The encoder with another vocabulary, or with none. -/
def withVocabulary : Encoder → Option Vocabulary → Encoder
  | whole e, v => whole { e with vocabulary := v }
  | parts e, v => parts { e with base := { e.base with vocabulary := v } }

@[simp] theorem base_withVocabulary (e : Encoder) (v : Option Vocabulary) :
    (e.withVocabulary v).base = { e.base with vocabulary := v } := by
  cases e <;> rfl

@[simp] theorem documents_withVocabulary (e : Encoder) (v : Option Vocabulary) :
    (e.withVocabulary v).documents = e.documents := by
  cases e <;> rfl

@[simp] theorem withVocabulary_withVocabulary (e : Encoder) (v w : Option Vocabulary) :
    (e.withVocabulary v).withVocabulary w = e.withVocabulary w := by
  cases e <;> rfl

theorem withVocabulary_vocabulary (e : Encoder) :
    e.withVocabulary e.base.vocabulary = e := by
  cases e <;> rfl

/-! ## Encoding -/

theorem encode_eq (e : Encoder) (text : String) :
    e.encode text = e.base.encodeParts (e.documents text) := by
  cases e <;> rfl

theorem exists_encode {e : Encoder} (h : TextEncoder.isReady e = true) (text : String) :
    ∃ vector, TextEncoder.encode e text = .ok vector ∧
      vector.size = TextEncoder.dimensions e := by
  obtain ⟨v, hv⟩ := Option.isSome_iff_exists.mp h
  exact ⟨_, (e.encode_eq text).trans (BucketEncoder.encodeParts_eq hv _),
    e.base.size_addHits_blank _⟩

/-! ## Training -/

/-- What training makes of a collection. -/
def trained (e : Encoder) (texts : List String) (o : TrainingOptions) : Vocabulary × Nat :=
  Vocabulary.train e.base.shape.kind o (texts.flatMap e.documents)

@[simp] theorem trained_withVocabulary (e : Encoder) (v : Option Vocabulary) (texts : List String)
    (o : TrainingOptions) : (e.withVocabulary v).trained texts o = e.trained texts o := by
  rw [trained, base_withVocabulary, documents_withVocabulary, trained]

/-- Training replaces the vocabulary, and says how large the collection and the new one are. -/
theorem train_eq (e : Encoder) (texts : List String) {o : TrainingOptions} (ho : o.fault? = none) :
    e.train texts o =
      let report : TrainingReport := ⟨(texts.flatMap e.documents).length, (e.trained texts o).2,
        (e.trained texts o).1.size⟩
      ⟨e.withVocabulary (some (e.trained texts o).1),
        [.trainingStarted report.documents, .vocabularyFixed report.kept report.dropped],
        .ok report⟩ := by
  have htrainOn : ∀ (e : BucketEncoder) (documents : List String),
      e.trainOn documents o =
        let trained := Vocabulary.train e.shape.kind o documents
        let report : TrainingReport := ⟨documents.length, trained.2, trained.1.size⟩
        ⟨{ e with vocabulary := some trained.1 },
          [.trainingStarted documents.length, .vocabularyFixed report.kept report.dropped],
          .ok report⟩ := by
    intro e documents
    rw [BucketEncoder.trainOn, ho]
  cases e with
  | whole e =>
    have hwhole : texts.flatMap (documents (.whole e)) = texts := List.flatMap_singleton' texts
    rw [trained, hwhole, train]
    simp only [TextEncoder.train, htrainOn]
    rfl
  | parts e =>
    rw [train]
    simp only [TextEncoder.train, PartsEncoder.train, htrainOn]
    rfl

/-- A vocabulary that was there before makes no difference. -/
theorem train_withVocabulary (e : Encoder) (v : Option Vocabulary) (texts : List String)
    {o : TrainingOptions} (ho : o.fault? = none) :
    (e.withVocabulary v).train texts o = e.train texts o := by
  rw [train_eq _ _ ho, train_eq _ _ ho]
  simp only [trained_withVocabulary, documents_withVocabulary, withVocabulary_withVocabulary]

/-- Options that make no sense are refused at once. -/
theorem train_of_fault (e : Encoder) (texts : List String) {o : TrainingOptions}
    {fault : EncoderFault} (ho : o.fault? = some fault) :
    e.train texts o = .refuse e (.invalid fault) := by
  have htrainOn : ∀ (e : BucketEncoder) (documents : List String),
      e.trainOn documents o = .refuse e (.invalid fault) := by
    intro e documents
    rw [BucketEncoder.trainOn, ho]
  cases e with
  | whole e =>
    rw [train]
    simp only [TextEncoder.train, htrainOn]
    rfl
  | parts e =>
    rw [train]
    simp only [TextEncoder.train, PartsEncoder.train, htrainOn]
    rfl

theorem fault?_of_train {e : Encoder} {texts : List String} {o : TrainingOptions}
    {report : TrainingReport} (h : (e.train texts o).result = .ok report) : o.fault? = none := by
  cases ho : o.fault? with
  | none => rfl
  | some fault =>
    rw [train_of_fault e texts ho] at h
    cases h

/-- A training, whether or not it succeeds, changes nothing but the vocabulary. -/
theorem exists_train_eq_withVocabulary (e : Encoder) (texts : List String) (o : TrainingOptions) :
    ∃ v, (e.train texts o).state = e.withVocabulary v := by
  cases hresult : (e.train texts o).result with
  | ok report =>
    rw [train_eq e texts (fault?_of_train hresult)]
    exact ⟨_, rfl⟩
  | error cause =>
    rw [train_state_of_error hresult]
    exact ⟨e.base.vocabulary, e.withVocabulary_vocabulary.symm⟩

theorem isReady_train (e : Encoder) (texts : List String) {o : TrainingOptions}
    (ho : o.fault? = none) : TextEncoder.isReady (e.train texts o).state = true := by
  rw [train_eq e texts ho]
  show (e.withVocabulary _).base.vocabulary.isSome = true
  rw [base_withVocabulary]
  rfl

theorem exists_train_eq_ok (e : Encoder) (texts : List String) {o : TrainingOptions}
    (ho : o.fault? = none) : ∃ report, (TextEncoder.train e texts o).result = .ok report :=
  ⟨_, congrArg Step.result (train_eq e texts ho)⟩

end Encoder

/-! ## Saving -/

theorem BucketEncoder.ofShape_shape (e : BucketEncoder) : ofShape e.shape e.vocabulary = .ok e := by
  unfold ofShape
  split
  · rfl
  · rename_i fault hfault
    rw [e.sound] at hfault
    cases hfault

theorem PartsEncoder.ofBase_base (e : PartsEncoder) : ofBase e.base e.separator = .ok e := by
  rw [ofBase, dif_neg e.separates]

/-- What is saved of a trained encoder is all of it. -/
theorem Encoder.toEncoder_toSaved {e : Encoder} (h : TextEncoder.isReady e = true) :
    ∃ saved, e.toSaved = .ok saved ∧ saved.version = savedVersion ∧ saved.toEncoder = .ok e := by
  obtain ⟨v, hv⟩ := Option.isSome_iff_exists.mp h
  have hshape := e.base.ofShape_shape
  rw [hv] at hshape
  cases e with
  | whole e =>
    refine ⟨⟨savedVersion, e.shape, v, none⟩, ?_, rfl, ?_⟩
    · rw [toSaved, BucketEncoder.toSaved, show e.vocabulary = some v from hv]
    · rw [SavedEncoder.toEncoder, SavedEncoder.toBucketEncoder]
      simp only [base] at hshape
      rw [hshape]
      rfl
  | parts e =>
    refine ⟨⟨savedVersion, e.base.shape, v, some e.separator⟩, ?_, rfl, ?_⟩
    · rw [toSaved, PartsEncoder.toSaved, BucketEncoder.toSaved,
        show e.base.vocabulary = some v from hv]
      rfl
    · rw [SavedEncoder.toEncoder, SavedEncoder.toBucketEncoder]
      simp only [base] at hshape
      rw [hshape]
      simp only [bind, Except.bind, e.ofBase_base]
      rfl

end Gazetteer
