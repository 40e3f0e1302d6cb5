import Gazetteer.Proofs.Encoding.SharedFeatures
import Gazetteer.Proofs.Linking.ValidConfigurations

/-!
# No entity is missed

A linker that compares by angle and takes everything above zero finds **every entity that has an
alias with a feature of the mention**, if it may return all entities and fetch all aliases; and it
finds nothing for a mention without a feature that it knows (`answersKnown_run`).

The first is a chain from the feature to the answer. The shared feature gives alias and mention a
positive cosine (`DenseVector.between_cosine`), the alias is in the index and is fetched
(`InStep.mem_stored`), nothing ranked before it stops the walk, and the walk keeps all owners
(`exists_mem_bestPerOwner`).
-/

set_option autoImplicit false

namespace Gazetteer

/-! ## The content of an index that is up to date -/

theorem VectorIndex.mem_contentOf {ε : Type} [TextEncoder ε] {x : VectorIndex} {encoder : ε}
    {entries : List (String × String)} {key : String} {vector : DenseVector}
    (hslot : key ∈ x.slotKeys entries) (hvector : x.vectorOf? encoder entries key = some vector) :
    (⟨key, vector, DenseVector.norm vector⟩ : StoredVector) ∈ x.contentOf encoder entries :=
  List.mem_filterMap.mpr ⟨key, hslot, by rw [hvector]; rfl⟩

namespace Linker

section UpToDate

variable {ε : Type} [TextEncoder ε] {l : Linker ε}

/-- An alias with a usable vector is stored with it. -/
theorem InStep.mem_stored (h : l.InStep) (hindexed : l.stage = .indexed)
    {entry : String × String} (hentry : entry ∈ l.catalog.entries) {vector : DenseVector}
    (hvector : usable? l.index.dimensions l.encoder entry.2 = some vector) :
    (⟨entry.1, vector, DenseVector.norm vector⟩ : StoredVector) ∈ l.index.stored := by
  have hnodup := l.catalog.inverse.nodup_map_fst_entries
  rw [h.content hindexed]
  refine VectorIndex.mem_contentOf ?_ ?_
  · rw [VectorIndex.slotKeys_of_nodup h.free hnodup]
    exact List.mem_map_of_mem hentry
  · rw [VectorIndex.vectorOf?_of_nodup l.encoder hnodup hentry, hvector]

/-- The keys of the index are keys of the aliases of now. -/
theorem InStep.keys_sublist (h : l.InStep) (hindexed : l.stage = .indexed) :
    l.index.keys.Sublist (l.catalog.entries.map Prod.fst) := by
  rw [VectorIndex.keys, h.content hindexed, VectorIndex.map_key_contentOf,
    VectorIndex.slotKeys_of_nodup h.free l.catalog.inverse.nodup_map_fst_entries]
  exact List.filter_sublist

/-- Every alias of now can be read off its key. -/
def Readable (l : Linker ε) : Prop :=
  ∀ entry ∈ l.catalog.entries, ∃ e ∈ l.catalog.entities, AliasKey.owner? entry.1 = some e.id

/-- Every hit belongs to an entity of now. -/
theorem InStep.exists_owner_of_mem_ranked (h : l.InStep) (hindexed : l.stage = .indexed)
    (hread : l.Readable) {query : DenseVector} {hit : IndexHit} (hhit : hit ∈ l.index.ranked query) :
    ∃ d ∈ l.catalog.entities, AliasKey.owner? hit.key = some d.id := by
  have hkey : hit.key ∈ l.index.keys := VectorIndex.key_mem_keys_of_mem_ranked hhit
  obtain ⟨entry, hentry, hsame⟩ := List.mem_map.mp ((h.keys_sublist hindexed).subset hkey)
  exact hsame ▸ hread entry hentry

/-- So the hits can be named, and all names are those of entities. -/
theorem InStep.exists_owned (h : l.InStep) (hindexed : l.stage = .indexed) (hread : l.Readable)
    (query : DenseVector) :
    ∃ owned, (l.index.ranked query).mapM ownedHit = .ok owned ∧
      ∀ p ∈ owned, p.1 ∈ l.catalog.entities.map Entity.id := by
  obtain ⟨owned, howned⟩ : ∃ owned, (l.index.ranked query).mapM ownedHit = .ok owned := by
    refine mapM_ownedHit_of_forall fun hit hhit => ?_
    obtain ⟨d, -, hd⟩ := h.exists_owner_of_mem_ranked hindexed hread hhit
    exact ⟨d.id, hd⟩
  refine ⟨owned, howned, fun p hp => ?_⟩
  obtain ⟨i, hi⟩ := List.mem_iff_getElem?.mp hp
  obtain ⟨hit, hplace, hnamed, -⟩ := getElem?_of_mapM_ownedHit howned hi
  obtain ⟨d, hd, hid⟩ :=
    h.exists_owner_of_mem_ranked hindexed hread (List.mem_of_getElem? hplace)
  rw [hnamed, Option.some.injEq] at hid
  exact hid ▸ List.mem_map_of_mem hd

/--
An alias is found if all aliases are fetched, all entities may be returned, and nothing that is
ranked before it stops the walk.
-/
theorem InStep.exists_mem_find (h : l.InStep) (hindexed : l.stage = .indexed)
    (hread : l.Readable) {mention : String} {query : DenseVector}
    (hquery : TextEncoder.encode l.encoder mention = .ok query)
    (hnorm : (DenseVector.norm query).isSame .zero = false)
    (hwidth : query.size = l.index.dimensions)
    (haccepts : l.index.settings.metric.accepts (DenseVector.norm query) = true)
    {e : Entity} (he : e ∈ l.catalog.entities) {entry : String × String}
    (hentry : entry ∈ l.catalog.entries) (howner : AliasKey.owner? entry.1 = some e.id)
    {vector : DenseVector} (hvector : usable? l.index.dimensions l.encoder entry.2 = some vector)
    (hgo : ∀ similarity : Binary32, (l.index.settings.metric.similarity query
        (DenseVector.norm query) vector (DenseVector.norm vector)).precedes similarity = true →
      similarity.isAtMost l.settings.minSimilarity = false)
    {k : Nat} (hk : l.catalog.size ≤ k) (hfetch : l.index.size ≤ l.fetchCount k) :
    ∃ cs, l.find mention k = .ok cs ∧ ∃ c ∈ cs, c.entity = e := by
  obtain ⟨owned, howned, howners⟩ := h.exists_owned hindexed hread query
  have hfind : l.index.find query (l.fetchCount k) = .ok (l.index.ranked query) := by
    rw [VectorIndex.find_of_width hwidth, VectorIndex.complete, if_pos haccepts,
      List.take_of_length_le (l.index.length_ranked query ▸ hfetch)]
  have hhit : (⟨entry.1, l.index.settings.metric.similarity query (DenseVector.norm query) vector
      (DenseVector.norm vector)⟩ : IndexHit) ∈ l.index.ranked query :=
    (sortBySimilarity_perm _).mem_iff.mpr
      (List.mem_map_of_mem (h.mem_stored hindexed hentry hvector))
  have hwanted : (l.catalog.entities.map Entity.id).length ≤ k := by
    rw [List.length_map]
    exact hk
  have hfall := pairwise_of_mapM_ownedHit howned (pairwise_sortBySimilarity _)
  obtain ⟨best, hbest, hsame⟩ := exists_mem_bestPerOwner hfall howners hwanted
    (mem_of_mapM_ownedHit howned hhit howner) hgo
  refine ⟨_, find_eq hquery hnorm hfind howned, ⟨e, best.similarity, best.rank⟩, ?_, rfl⟩
  refine List.mem_filterMap.mpr ⟨best, hbest, ?_⟩
  rw [candidate?, hsame, (Catalog.inverse _).get?_of_mem he, Option.map_some]

end UpToDate

/-! ## Features of mentions and aliases -/

section Known

variable {l : Linker Encoder} {mention : String}

theorem isReady_of_mem_knownFeatures {e : Encoder} {feature text : String}
    (h : feature ∈ e.knownFeatures text) : TextEncoder.isReady e = true := by
  show e.base.vocabulary.isSome = true
  rw [Encoder.knownFeatures] at h
  cases hv : e.base.vocabulary with
  | none =>
    rw [hv] at h
    cases h
  | some v => rfl

/-- An entity is found for every feature that one of its aliases shares with the mention. -/
theorem Matched.exists_mem_find (hmatched : l.Matched) (hstep : l.InStep)
    (hindexed : l.stage = .indexed) (hread : l.Readable)
    (hmetric : l.index.settings.metric = .cosine)
    (hzero : l.settings.minSimilarity.isSame .zero = true) {e : Entity}
    (he : e ∈ l.catalog.entities) {text : String} (halias : text ∈ e.aliases) {feature : String}
    (hmention : feature ∈ l.encoder.knownFeatures mention)
    (hshared : feature ∈ l.encoder.knownFeatures text) {k : Nat} (hk : l.catalog.size ≤ k)
    (hfetch : l.catalog.aliasCount ≤ l.fetchCount k) :
    ∃ cs, l.find mention k = .ok cs ∧ ∃ c ∈ cs, c.entity = e := by
  have hready := isReady_of_mem_knownFeatures hmention
  obtain ⟨query, hquery, hwidth⟩ := Encoder.exists_encode hready mention
  obtain ⟨vector, hvector, hsize⟩ := Encoder.exists_encode hready text
  -- the shared feature makes the cosine positive
  have hmeet := Encoder.meet_of_encode hquery hvector hmention hshared
  have hcosine := DenseVector.between_cosine (Encoder.counts_of_encode hquery)
    (Encoder.counts_of_encode hvector) hmeet
  have hnorm := DenseVector.between_norm (Encoder.counts_of_encode hquery) hmeet.left
  have hlength : 0 < (DenseVector.norm query).pattern :=
    Nat.lt_of_lt_of_le (by decide) hnorm.low_le
  -- the alias has a key, and the key names the entity
  obtain ⟨ordinal, hordinal⟩ := List.mem_iff_getElem?.mp halias
  have hentry : ((AliasKey.mk e.id ordinal).toText, text) ∈ l.catalog.entries :=
    EntityTable.mem_entries_iff.mpr ⟨e, he, ordinal, hordinal, rfl⟩
  obtain ⟨d, -, hd⟩ := hread _ hentry
  have howner : AliasKey.owner? (AliasKey.mk e.id ordinal).toText = some e.id := by
    have hid : d.id = e.id := AliasKey.owner?_toText hd
    exact hid ▸ hd
  have hsizes : l.index.size ≤ l.catalog.aliasCount := by
    have hle := (hstep.keys_sublist hindexed).length_le
    rwa [VectorIndex.keys, List.length_map, List.length_map, EntityTable.length_entries] at hle
  refine hstep.exists_mem_find hindexed hread hquery ?_ (hwidth.trans hmatched.width.symm) ?_ he
    hentry howner (usable?_eq_some_iff.mpr ⟨hvector, hsize.trans hmatched.width.symm⟩) ?_ hk
    (Nat.le_trans hsizes hfetch)
  · rw [Bool.eq_false_iff, ne_eq, hnorm.isSame_iff .between_zero]
    exact Nat.ne_of_gt hlength
  · rw [hmetric]
    exact (Binary32.Between.between_zero.isBelow_iff hnorm).mpr hlength
  · rw [hmetric]
    exact fun similarity hbefore =>
      hcosine.isAtMost_eq_false_of_precedes Nat.one_pos hbefore hzero

/-- Nothing is found for a mention without a known feature. -/
theorem Matched.find_eq_nil (h : l.Matched) (hnone : l.encoder.knownFeatures mention = [])
    (k : Nat) : l.find mention k = .ok [] := by
  refine find_of_passes ?_
  cases hstored : l.index.isEmpty with
  | true => exact Or.inr (Or.inl hstored)
  | false =>
    obtain ⟨query, hquery, -⟩ := Encoder.exists_encode (h.trained hstored) mention
    exact Or.inr (Or.inr ⟨query, hquery,
      DenseVector.isSame_norm_zero (Encoder.eq_zero_of_encode hquery hnone)⟩)

end Known

/-! ## After every run -/

theorem readable_run {ε : Type} [TextEncoder ε] {l₀ : Linker ε} (hnew : l₀.IsNew)
    {requests : List Request} (hfit : (l₀.run requests).catalog.aliasCount < Whole.wordBound) :
    (l₀.run requests).Readable := by
  intro entry hentry
  obtain ⟨e, he, ordinal, halias, hkey⟩ := EntityTable.mem_entries_iff.mp hentry
  refine ⟨e, he, AliasKey.owner?_eq_some_iff.mpr ⟨⟨e.id, ordinal⟩, ?_, rfl⟩⟩
  rw [hkey]
  exact ofText_toText_run hnew hfit he halias

/-- What the known features of a mention say about the answer. -/
structure AnswersKnown (c : Configuration) (l : Linker Encoder) : Prop where
  /-- Compared by angle and with zero as the bound, every entity is found that has an alias with a
  feature of the mention, if all entities may be returned and all aliases are fetched. The number of
  aliases is a word of 64 bits. -/
  shared : c.index.metric = .cosine → c.lookup.minSimilarity.isSame .zero = true →
    l.stage = .indexed → l.catalog.aliasCount < Whole.wordBound →
    ∀ mention, ∀ e ∈ l.catalog.entities, ∀ text ∈ e.aliases,
    (∃ feature ∈ l.encoder.knownFeatures mention, feature ∈ l.encoder.knownFeatures text) →
    ∀ k, l.catalog.size ≤ k → l.catalog.aliasCount ≤ k * c.lookup.oversampling.toNat →
    ∃ cs, l.find mention k = .ok cs ∧ ∃ c ∈ cs, c.entity = e
  /-- Whatever the settings, nothing is found for a mention without a known feature. -/
  unknown : ∀ mention, l.encoder.knownFeatures mention = [] → ∀ k, l.find mention k = .ok []

/--
**No entity that shares a known feature with the mention is missed**, and without a known feature
nothing is found, after every run of a linker that was made of a valid configuration.
-/
theorem answersKnown_run {c : Configuration} (hc : c.validate = .ok ()) :
    ∃ l₀, ofConfiguration c = .ok l₀ ∧ ∀ requests, AnswersKnown c (l₀.run requests) := by
  obtain ⟨-, encoder, -, hmade⟩ := exists_ofConfiguration hc
  refine ⟨_, hmade, fun requests => ?_⟩
  have hnew := isNew_of_ofConfiguration hmade
  have hkept := kept_run hnew requests
  have hmatched := matched_run hnew requests
  refine ⟨?_, fun mention hnone k => hmatched.find_eq_nil hnone k⟩
  rintro hmetric hzero hindexed hfit mention e he text halias ⟨feature, hmention, hshared⟩ k hk
    hfetch
  refine hmatched.exists_mem_find (inStep_run keepsOnFailure_encoder hnew requests) hindexed
    (readable_run hnew hfit) (by rw [hkept.index]; exact hmetric)
    (by rw [hkept.settings]; exact hzero) he halias hmention hshared hk ?_
  rw [fetchCount, hkept.settings]
  exact Nat.le_min.mpr ⟨hfetch, Nat.le_pred_of_lt hfit⟩

/-- The linker that the configuration for rivers describes, with a vocabulary if there is one. -/
def riverside (vocabulary : Option Vocabulary) : Linker Encoder where
  settings := {}
  training := {}
  encoder := .parts ⟨⟨⟨3, 1, .grams 20⟩, vocabulary, by decide⟩, " / ", by decide⟩
  index := .ofSettings 3 {}
  catalog := .empty
  stage := .empty

/-- A river with two names. -/
def river : Entity := (Entity.ofName "RIV" "Isis").withAlias "Thames"

/-- A town that has one of them. -/
def town : Entity := Entity.ofName "TWN" "Thames"

/-- Both are added, their names are learned, and they are indexed. -/
def voyage : List Request := [.addAll [river, town], .train {}, .build]

/-- What is learned on the way. -/
def riverNames : Vocabulary := ⟨.english, 1, .ofList [("<isis>", 1), ("<thames>", 2)]⟩

theorem train_riverNames :
    ((riverside none).encoder.train ["Isis", "Thames", "Thames"] {}).state =
      (riverside (some riverNames)).encoder := by
  decide +kernel

/-- That the build succeeds and what it leaves alone is known without encoding anything. -/
theorem stage_voyage {l : Linker Encoder} (hencoder : l.encoder = (riverside none).encoder)
    (hcatalog : l.catalog = .empty) :
    (l.run voyage).stage = .indexed ∧
      (l.run voyage).encoder = (riverside (some riverNames)).encoder := by
  have ho : ({} : TrainingOptions).fault? = none := by decide
  have hadded : l.addAll [river, town] =
      ⟨{ l with catalog := Catalog.empty.putAll [river, town], stage := .populated }, [], .ok 2⟩ := by
    have hsound : ∀ e ∈ [river, town], e.normalized.fault? = none := by decide +kernel
    have hsame : [river, town].map Entity.normalized = [river, town] := by decide +kernel
    rw [addAll_eq _ hsound, hsame, hcatalog]
    rfl
  have hnames : (Catalog.empty.putAll [river, town]).aliasTexts = ["Isis", "Thames", "Thames"] := by
    decide +kernel
  have hrun : l.run voyage = ((l.addAll [river, town]).state.train {}).state.build.state := rfl
  rw [hrun, build_state_of_ok (build_result_of_train _ ho)]
  refine ⟨rfl, ?_⟩
  rw [encoder_train, hadded, hnames, ← train_riverNames, ← hencoder]
  rfl

theorem table_voyage :
    ((riverside none).run voyage).catalog.toEntityTable =
      EntityTable.empty.putAll [river, town] := by
  rw [toEntityTable_run]
  decide +kernel

/-- A place on the river finds what is called like it, and one that shares no part finds nothing. -/
theorem answersKnown_voyage :
    rivers.validate = .ok () ∧ ofConfiguration rivers = .ok (riverside none) ∧
      ((riverside none).run voyage).stage = .indexed ∧
      (∀ e ∈ [river, town],
        ∃ cs, ((riverside none).run voyage).find "Oxford / Thames" 2 = .ok cs ∧
          ∃ c ∈ cs, c.entity = e) ∧
      ((riverside none).run voyage).find "Oxford" 2 = .ok [] := by
  have hvalid : rivers.validate = .ok () := rfl
  have hriverside : ofConfiguration rivers = .ok (riverside none) := rfl
  obtain ⟨l₀, hmade, hrun⟩ := answersKnown_run hvalid
  obtain rfl : l₀ = riverside none := Except.ok.inj (hmade.symm.trans hriverside)
  obtain ⟨hindexed, hencoder⟩ := stage_voyage (l := riverside none) rfl rfl
  have hknown := hrun voyage
  have hmention : "<thames>" ∈
      ((riverside none).run voyage).encoder.knownFeatures "Oxford / Thames" := by
    rw [hencoder]
    decide +kernel
  have hshared : "<thames>" ∈ ((riverside none).run voyage).encoder.knownFeatures "Thames" := by
    rw [hencoder]
    decide +kernel
  refine ⟨hvalid, hriverside, hindexed, fun e he => ?_, hknown.unknown _ ?_ 2⟩
  · have halias : "Thames" ∈ e.aliases := by
      revert e
      decide
    refine hknown.shared rfl (by decide) hindexed ?_ "Oxford / Thames" e ?_ "Thames" halias
      ⟨"<thames>", hmention, hshared⟩ 2 ?_ ?_
    · rw [table_voyage]
      decide +kernel
    · rw [table_voyage]
      exact he
    · rw [table_voyage]
      decide +kernel
    · rw [table_voyage]
      decide +kernel
  · rw [hencoder]
    decide +kernel

end Linker

end Gazetteer
