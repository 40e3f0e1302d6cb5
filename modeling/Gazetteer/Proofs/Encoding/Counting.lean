import Gazetteer.Proofs.Encoding.Training
import Gazetteer.Proofs.Number.Counts
import Gazetteer.Proofs.SortedMaps
import Gazetteer.Proofs.Text.Splitting
import Mathlib.Data.Int.ModEq
import Mathlib.Data.List.Induction
import Mathlib.Data.List.ProdSigma

/-!
# What a component counts

Training goes over the features of a collection, drops the rare ones and keeps the rest in a map;
encoding goes over the features of a text, looks each one up and adds one wherever its digest
points. `Encoder.hits` says what comes of this for one component: it counts pairs of an occurrence
in the text and a word of its digest, which it reads byte by byte, and knows neither maps nor vectors.

That the two agree (`Encoder.encode_train`) takes three steps. A map that is counted up feature by
feature holds the number of occurrences (`get?_tally`), as long as this fits a word. A vector to
which ones are added holds the number of hits (`isCount_addHits`), as long as this can be told from
the next. And the hits of a list of features are those pairs (`count_flatMap_buckets`).
-/

set_option autoImplicit false

namespace Gazetteer

/-! ## Counting features -/

theorem TrainingOptions.minFrequency_pos {o : TrainingOptions} (ho : o.minFrequency ≠ 0) :
    0 < o.minFrequency.toNat :=
  Nat.pos_of_ne_zero fun hzero => ho (UInt32.toNat_inj.mp hzero)

namespace Vocabulary

theorem get?_tally (features : List String) (f : String) :
    (tally features).get? f =
      if f ∈ features then some (UInt32.ofNat (features.count f)) else none := by
  -- on the list from its end, where the last feature was counted
  induction features using List.reverseRecOn with
  | nil => rfl
  | append_singleton features g ih =>
    have hstep : tally (features ++ [g]) = count (tally features) g := by
      rw [tally, List.foldl_append]
      rfl
    rw [hstep, count, SortedMap.get?_update]
    by_cases hfg : f = g
    · subst hfg
      have hpresent : ((tally features).get? f).getD 0 = UInt32.ofNat (features.count f) := by
        rw [ih]
        by_cases hf : f ∈ features
        · rw [if_pos hf, Option.getD_some]
        · rw [if_neg hf, List.count_eq_zero.mpr hf]
          rfl
      rw [if_pos rfl, if_pos (by simp), hpresent, List.count_append, List.count_singleton_self,
        UInt32.ofNat_add]
      rfl
    · have hmem : f ∈ features ++ [g] ↔ f ∈ features := by simp [hfg]
      have hcount : (features ++ [g]).count f = features.count f := by
        rw [List.count_append, List.count_singleton, beq_eq_false_iff_ne.mpr (Ne.symm hfg)]
        rfl
      rw [if_neg hfg, ih, hcount]
      simp only [hmem]

/-- A vocabulary has the features that are frequent enough, if none is too frequent for a word. -/
theorem contains_train (kind : FeatureKind) {o : TrainingOptions} {documents : List String}
    (ho : o.minFrequency ≠ 0) {f : String}
    (hcount : (occurrences kind o documents).count f < 0x100000000) :
    (train kind o documents).1.contains f =
      decide (o.minFrequency.toNat ≤ (occurrences kind o documents).count f) := by
  show ((tally (occurrences kind o documents)).filter (o.minFrequency ≤ ·)).contains f = _
  rw [SortedMap.contains, SortedMap.get?_filter, get?_tally]
  generalize occurrences kind o documents = features at hcount ⊢
  by_cases hf : f ∈ features
  · have htoNat : (UInt32.ofNat (features.count f)).toNat = features.count f :=
      UInt32.toNat_ofNat_of_lt' hcount
    rw [if_pos hf, Option.filter_some]
    simp only [UInt32.le_iff_toNat_le, htoNat]
    by_cases hle : o.minFrequency.toNat ≤ features.count f <;> simp [hle]
  · -- a feature that does not occur is less frequent than any that are kept
    rw [if_neg hf, List.count_eq_zero.mpr hf,
      decide_eq_false (Nat.not_le.mpr (TrainingOptions.minFrequency_pos ho))]
    rfl

end Vocabulary

/-! ## Counting hits -/

namespace BucketEncoder

/-- Components that stand for counts stand for these and the hits that were added. -/
theorem isCount_addHits (hits : List Nat) :
    ∀ {vector : DenseVector} {n : Nat → Nat},
      (∀ b (hb : b < vector.size), vector[b].IsCount (min Binary32.countLimit (n b))) →
      ∀ b (hb : b < (addHits vector hits).size),
        (addHits vector hits)[b].IsCount (min Binary32.countLimit (n b + hits.count b)) := by
  induction hits with
  | nil => exact fun h => h
  | cons hit hits ih =>
    intro vector n h b hb
    have hstep : ∀ b (hb : b < (vector.modify hit (· + Binary32.one)).size),
        (vector.modify hit (· + Binary32.one))[b].IsCount
          (min Binary32.countLimit (n b + [hit].count b)) := by
      intro b hb
      rw [Array.size_modify] at hb
      rw [Array.getElem_modify, List.count_singleton]
      by_cases heq : hit = b
      · simp only [heq, beq_self_eq_true, if_true]
        exact (h b hb).add_one_min
      · simp only [if_neg heq, beq_iff_eq, Nat.add_zero]
        exact h b hb
    have hsum : n b + (hit :: hits).count b = n b + [hit].count b + hits.count b := by
      rw [← List.singleton_append, List.count_append, Nat.add_assoc]
    rw [hsum]
    exact ih hstep b hb

/-- The components of a vector stand for the numbers of hits, as far as these can be counted. -/
theorem isCount_encodeParts {e : BucketEncoder} {v : Vocabulary} (h : e.vocabulary = some v)
    (parts : List String) :
    ∃ vector, e.encodeParts parts = .ok vector ∧ vector.size = e.shape.dimensions.toNat ∧
      ∀ b (hb : b < vector.size),
        vector[b].IsCount (min Binary32.countLimit ((e.hitsOf v parts).count b)) := by
  refine ⟨_, encodeParts_eq h parts, e.size_addHits_blank _, fun b hb => ?_⟩
  have hblank : ∀ b (hb : b < e.blank.size), e.blank[b].IsCount (min Binary32.countLimit 0) := by
    intro b hb
    simp only [blank, Array.getElem_replicate, Nat.min_zero]
    exact Binary32.isCount_zero
  have hcount := isCount_addHits (e.hitsOf v parts) hblank b hb
  rwa [Nat.zero_add] at hcount

/-- The `i`-th word of four bytes in a digest, least significant byte first. -/
def littleEndianWord (digest : Vector UInt8 32) (i : Nat) : Nat :=
  let byte (j : Nat) : Nat := (digest[j]?.getD 0).toNat
  byte (4 * i) + 256 * byte (4 * i + 1) + 65536 * byte (4 * i + 2) + 16777216 * byte (4 * i + 3)

/-- As many words as there are in a digest are read as they stand there. -/
theorem digestWord_eq_littleEndianWord {digest : Vector UInt8 32} {i : Nat} (hi : i < 8) :
    digestWord digest i = littleEndianWord digest i := by
  have hlength : digest.toList.length = 32 := digest.length_toList
  have hbyte : ∀ (j : Nat) (hj : j < 32), digest[j]?.getD 0 = digest.toList[j] := by
    intro j hj
    rw [Vector.getElem?_eq_getElem hj, Option.getD_some, Vector.getElem_toList]
  have hfour : (digest.toList.drop (4 * i)).take 4 =
      [digest.toList[4 * i], digest.toList[4 * i + 1], digest.toList[4 * i + 2],
        digest.toList[4 * i + 3]] := by
    rw [List.drop_eq_getElem_cons (by omega), List.drop_eq_getElem_cons (by omega),
      List.drop_eq_getElem_cons (by omega), List.drop_eq_getElem_cons (by omega)]
    rfl
  rw [digestWord, hfour]
  simp only [Bytes.toNat, littleEndianWord]
  rw [hbyte _ (by omega), hbyte _ (by omega), hbyte _ (by omega), hbyte _ (by omega)]
  omega

theorem count_buckets (e : BucketEncoder) {b : Nat} (hb : b < e.shape.dimensions.toNat)
    (f : String) :
    (e.buckets f).count b = (List.range e.shape.hashes.toNat).countP fun i =>
      Nat.ModEq e.shape.dimensions.toNat
        (littleEndianWord (Blake3.hash (Bytes.ofText f)) i) b := by
  obtain ⟨-, ⟨-, hhashes⟩, -⟩ := Shape.fault?_eq_none_iff.mp e.sound
  rw [buckets, List.count_eq_countP, List.countP_map]
  refine List.countP_congr fun i hi => ?_
  have hword : i < 8 := Nat.lt_of_lt_of_le (List.mem_range.mp hi) hhashes
  simp only [Function.comp_apply, beq_iff_eq, decide_eq_true_eq, Nat.ModEq, Nat.mod_eq_of_lt hb,
    digestWord_eq_littleEndianWord hword]

/-- The hits of a component are pairs of a feature and a word of its digest. -/
theorem count_flatMap_buckets (e : BucketEncoder) {b : Nat}
    (hb : b < e.shape.dimensions.toNat) (known : String → Bool) (features : List String) :
    ((features.filter known).flatMap e.buckets).count b =
      (features ×ˢ List.range e.shape.hashes.toNat).countP fun pair =>
        known pair.1 ∧ Nat.ModEq e.shape.dimensions.toNat
          (littleEndianWord (Blake3.hash (Bytes.ofText pair.1)) pair.2) b := by
  induction features with
  | nil => rfl
  | cons f features ih =>
    rw [List.product_cons, List.countP_append, List.countP_map, ← ih, List.filter_cons]
    by_cases hknown : known f
    · rw [if_pos hknown, List.flatMap_cons, List.count_append, count_buckets e hb]
      simp [Function.comp_def, hknown]
    · rw [if_neg hknown]
      simp [Function.comp_def, hknown]

end BucketEncoder

/-! ## Trained and encoding -/

theorem TrainingOptions.minFrequency_ne_zero {o : TrainingOptions} (ho : o.fault? = none) :
    o.minFrequency ≠ 0 := by
  intro hzero
  rw [fault?, if_pos hzero] at ho
  cases ho

namespace Encoder

/-- The features of a collection, repetitions included, as an encoder reads it. -/
def occurrences (e : Encoder) (o : TrainingOptions) (texts : List String) : List String :=
  Vocabulary.occurrences e.base.shape.kind o (texts.flatMap e.documents)

/--
How often a text hits a component after training on a collection: by each occurrence of a feature
that is frequent enough there, and by each word of its digest that leads to the component.
-/
def hits (e : Encoder) (o : TrainingOptions) (corpus : List String) (text : String) (b : Nat) :
    Nat :=
  (e.occurrences o [text] ×ˢ List.range e.base.shape.hashes.toNat).countP fun pair =>
    o.minFrequency.toNat ≤ (e.occurrences o corpus).count pair.1 ∧
      Nat.ModEq e.base.shape.dimensions.toNat
        (BucketEncoder.littleEndianWord (Blake3.hash (Bytes.ofText pair.1)) pair.2) b

theorem count_hitsOf (e : Encoder) {corpus : List String} {o : TrainingOptions}
    (ho : o.fault? = none) (hcorpus : ∀ f, (e.occurrences o corpus).count f < 0x100000000)
    (text : String) {b : Nat} (hb : b < e.base.shape.dimensions.toNat) :
    (BucketEncoder.hitsOf e.base (e.trained corpus o).1 (e.documents text)).count b =
      e.hits o corpus text b := by
  have hknown : (e.documents text).flatMap (e.base.knownFeatures (e.trained corpus o).1) =
      (e.occurrences o [text]).filter (e.trained corpus o).1.contains := by
    rw [occurrences, List.flatMap_singleton, Vocabulary.occurrences, List.filter_flatMap]
    rfl
  rw [BucketEncoder.hitsOf, hknown, e.base.count_flatMap_buckets hb, hits]
  refine List.countP_congr fun pair _ => ?_
  rw [trained, Vocabulary.contains_train e.base.shape.kind
    (TrainingOptions.minFrequency_ne_zero ho) (hcorpus pair.1)]
  simp only [decide_eq_true_eq]
  rfl

/--
**A trained encoder counts.** Training with options that make sense succeeds if no feature occurs
too often for a word of 32 bits; then every text has a vector of the right width, whose components
stand for the numbers of hits, or for the greatest number that can be counted. An encoder for parts
does so with the parts between the occurrences of its separator.
-/
theorem encode_train (e : Encoder) (corpus : List String) {o : TrainingOptions}
    (ho : o.fault? = none) (hcorpus : ∀ f, (e.occurrences o corpus).count f < 0x100000000) :
    (∃ report, (e.train corpus o).result = .ok report) ∧
      (∀ text, ∃ vector, (e.train corpus o).state.encode text = .ok vector ∧
        vector.size = e.base.shape.dimensions.toNat ∧
        ∀ b (hb : b < vector.size),
          vector[b].IsCount (min Binary32.countLimit (e.hits o corpus text b))) ∧
      ∀ p, e = .parts p → ∀ text, Text.LeftmostSplit p.separator.toList text.toList
        ((e.documents text).map String.toList) := by
  rw [e.train_eq corpus ho]
  refine ⟨⟨_, rfl⟩, fun text => ?_, ?_⟩
  · let trained := e.withVocabulary (some (e.trained corpus o).1)
    have hvocabulary : trained.base.vocabulary = some (e.trained corpus o).1 := by
      rw [base_withVocabulary]
    have hencode : trained.encode text = .ok (BucketEncoder.addHits trained.base.blank
        (trained.base.hitsOf (e.trained corpus o).1 (trained.documents text))) :=
      (trained.encode_eq text).trans (BucketEncoder.encodeParts_eq hvocabulary _)
    have hsize := trained.base.size_addHits_blank
      (trained.base.hitsOf (e.trained corpus o).1 (trained.documents text))
    simp only [trained, base_withVocabulary, documents_withVocabulary] at hencode hsize
    refine ⟨_, hencode, hsize, fun b hb => ?_⟩
    have hblank : ∀ b (hb : b < e.base.blank.size),
        e.base.blank[b].IsCount (min Binary32.countLimit 0) := by
      intro b hb
      simp only [BucketEncoder.blank, Array.getElem_replicate, Nat.min_zero]
      exact Binary32.isCount_zero
    have hcount := BucketEncoder.isCount_addHits
      (e.base.hitsOf (e.trained corpus o).1 (e.documents text)) hblank b hb
    rwa [e.count_hitsOf ho hcorpus text (hsize ▸ hb), Nat.zero_add] at hcount
  · rintro p rfl text
    exact Text.leftmostSplit_splitAround p.separates text

/-- An encoder for parts with few components. -/
def smallParts : Encoder :=
  .parts ⟨⟨{ dimensions := 3, hashes := 1, kind := .words }, none, by decide⟩, "/", by decide⟩

theorem encode_train_smallParts :
    let o : TrainingOptions := { minFrequency := 2 }
    o.fault? = none ∧ smallParts.hits o ["ab cd/ab", "cd/ef"] "ab ef" 0 = 1 ∧
      ∃ vector, (smallParts.train ["ab cd/ab", "cd/ef"] o).state.encode "ab ef" = .ok vector ∧
        vector.size = 3 ∧ ∀ b (hb : b < vector.size), vector[b].IsCount
          (min Binary32.countLimit (smallParts.hits o ["ab cd/ab", "cd/ef"] "ab ef" b)) := by
  have hlength : (smallParts.occurrences { minFrequency := 2 } ["ab cd/ab", "cd/ef"]).length <
      0x100000000 := by decide +kernel
  refine ⟨by decide, by decide +kernel, ?_⟩
  exact (encode_train smallParts ["ab cd/ab", "cd/ef"] (by decide)
    fun f => Nat.lt_of_le_of_lt List.count_le_length hlength).2.1 "ab ef"

end Encoder

end Gazetteer
