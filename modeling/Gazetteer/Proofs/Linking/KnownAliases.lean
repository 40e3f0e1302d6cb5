import Gazetteer.Proofs.Index.SelfSimilarity
import Gazetteer.Proofs.Linking.CandidateRange

/-!
# Aliases as mentions

A mention may be an alias, letter by letter. Its vector is then in the index, because alias and
mention take the same way through the encoder. **So it is found** (`aliasFound_run`): by angle nothing
is much above it, so the first candidate has a similarity of more than 0.99. By distance the first
candidate has a similarity of exactly one, and it is the entity with the earliest alias of this vector
(`aliasFoundExactly_run`); aliases of another vector are at most half as similar.

What comes first is decided in two places, and each has one lemma here. The index puts the earliest of
the most similar aliases first (`exists_sortBySimilarity_eq_cons`), and the search returns the owner
of what the index has put first (`InStep.exists_find_eq_cons`).
-/

set_option autoImplicit false

namespace Gazetteer

open Gazetteer.Metric (cosineSimilarity inverseSimilarity)

namespace Encoder

variable {e : Encoder} {text : String} {x : DenseVector}

theorem counted_of_encode (h : e.encode text = .ok x) : x.Counted := by
  intro component hmem
  obtain ⟨i, hi, rfl⟩ := Array.mem_iff_getElem.mp hmem
  exact ⟨_, Nat.min_le_left _ _, (isCount_of_encode h).2 i hi⟩

/-- A text with a known feature has a component that is not zero. -/
theorem exists_ne_zero_of_encode (h : e.encode text = .ok x) {feature : String}
    (hknown : feature ∈ e.knownFeatures text) : ∃ component ∈ x, component ≠ .zero := by
  obtain ⟨i, hi, -, hlow, -⟩ := meet_of_encode h h hknown hknown
  refine ⟨x[i], Array.getElem_mem hi, fun hzero => ?_⟩
  rw [hzero] at hlow
  exact absurd hlow (by decide)

/-- By distance, texts are exactly as similar as one, or at most half as similar. -/
theorem inverseSimilarity_cases {other : String} {y : DenseVector} (hx : e.encode text = .ok x)
    (hy : e.encode other = .ok y) :
    y = x ∧ inverseSimilarity x y = .one ∨
      y ≠ x ∧ (inverseSimilarity x y).Between 1 Binary32.half.pattern := by
  by_cases hsame : y = x
  · subst hsame
    exact Or.inl ⟨rfl, Metric.inverseSimilarity_self (moderate_of_encode hx).allFinite⟩
  · have hsize : x.size = y.size := (isCount_of_encode hx).1.trans (isCount_of_encode hy).1.symm
    exact Or.inr ⟨hsame, Metric.between_inverseSimilarity_of_ne (counted_of_encode hx)
      (counted_of_encode hy) hsize (Ne.symm hsame)⟩

end Encoder

namespace Linker

/-! ## The first candidate -/

/-- Something is fetched for every candidate, because the settings passed their check. -/
theorem one_le_fetchCount {ε : Type} {l : Linker ε} (hvalid : l.settings.validate = .ok ())
    {k : Nat} (hk : 1 ≤ k) : 1 ≤ l.fetchCount k := by
  have hsampling := (LookupSettings.validate_eq_ok_iff.mp hvalid).1
  have hpos : 0 < l.settings.oversampling.toNat :=
    Nat.pos_of_ne_zero fun hzero => hsampling (UInt64.toNat_inj.mp hzero)
  exact Nat.le_min.mpr ⟨Nat.mul_pos hk hpos, by decide⟩

/-- The first candidate is the owner of what the index puts first, if that is above the bound. -/
theorem InStep.exists_find_eq_cons {ε : Type} [TextEncoder ε] {l : Linker ε} (h : l.InStep)
    (hindexed : l.stage = .indexed) (hread : l.Readable)
    (hvalid : l.settings.validate = .ok ()) {mention : String} {query : DenseVector}
    (hquery : TextEncoder.encode l.encoder mention = .ok query)
    (hnorm : (DenseVector.norm query).isSame .zero = false)
    (hwidth : query.size = l.index.dimensions)
    (haccepts : l.index.settings.metric.accepts (DenseVector.norm query) = true)
    {first : IndexHit} {rest : List IndexHit} (hranked : l.index.ranked query = first :: rest)
    (hgo : first.similarity.isAtMost l.settings.minSimilarity = false) {owner : Entity}
    (howner : owner ∈ l.catalog.entities) (hkey : AliasKey.owner? first.key = some owner.id)
    {k : Nat} (hk : 1 ≤ k) :
    ∃ cs, l.find mention k = .ok (⟨owner, first.similarity, 1⟩ :: cs) := by
  obtain ⟨owned, howned, -⟩ := h.exists_owned hindexed hread query
  have hfind : l.index.find query (l.fetchCount k) =
      .ok ((l.index.ranked query).take (l.fetchCount k)) := by
    rw [VectorIndex.find_of_width hwidth, VectorIndex.complete, if_pos haccepts]
  -- the first owned hit is the first hit, and it is fetched
  have hreading := mapM_ownedHit_eq_ok_iff.mp howned
  rw [hranked, List.map_cons, reading, hkey] at hreading
  cases owned with
  | nil => cases hreading
  | cons hit more =>
    obtain ⟨hid, hsimilarity⟩ := Prod.ext_iff.mp (List.cons.inj hreading).1
    obtain rfl : hit = (owner.id, first.similarity) := Prod.ext (Option.some.inj hid) hsimilarity
    obtain ⟨fetched, hfetched⟩ : ∃ n, l.fetchCount k = n + 1 :=
      ⟨_, (Nat.sub_add_cancel (one_le_fetchCount hvalid hk)).symm⟩
    have htaken := mapM_ownedHit_take (l.fetchCount k) howned
    rw [find_eq hquery hnorm hfind htaken, hfetched, List.take_succ_cons]
    obtain ⟨others, hbest⟩ : ∃ others, bestPerOwner ((owner.id, first.similarity) ::
        more.take fetched) k l.settings.minSimilarity = ⟨owner.id, first.similarity, 1⟩ :: others :=
      exists_bestPerOwner_eq_cons (Nat.ne_of_gt hk) hgo
    rw [hbest, List.filterMap_cons_some]
    · exact ⟨_, rfl⟩
    · rw [candidate?, (Catalog.inverse _).get?_of_mem howner, Option.map_some]

/-- Where there is a hit, there is a first one, and none is more similar. -/
theorem exists_ranked_eq_cons {x : VectorIndex} {query : DenseVector} {hit : IndexHit}
    (hhit : hit ∈ x.scored query) :
    ∃ first rest, x.ranked query = first :: rest ∧ first ∈ x.scored query ∧
      hit.similarity.precedes first.similarity = true := by
  have hperm : (x.ranked query).Perm (x.scored query) := sortBySimilarity_perm _
  have hranked := hperm.mem_iff.mpr hhit
  obtain ⟨i, hi⟩ := List.mem_iff_getElem?.mp hranked
  cases hcons : x.ranked query with
  | nil =>
    rw [hcons] at hranked
    cases hranked
  | cons first rest =>
    have hfirst : (x.ranked query)[0]? = some first := by rw [hcons, List.getElem?_cons_zero]
    exact ⟨first, rest, rfl, hperm.mem_iff.mp (hcons ▸ List.mem_cons_self),
      precedes_of_getElem?_sortBySimilarity (Nat.zero_le i) hfirst hi⟩

/-! ## An index that is up to date -/

/-- Only a trained encoder gets as far as an index. -/
theorem isReady_of_indexed_run {l₀ : Linker Encoder} (hnew : l₀.IsNew) (requests : List Request) :
    (l₀.run requests).stage = .indexed →
      TextEncoder.isReady (l₀.run requests).encoder = true := by
  refine run_induction (P := fun l => l.stage = .indexed → TextEncoder.isReady l.encoder = true)
    ?_ ?_ ?_ requests l₀ ?_
  · exact fun _ _ _ _ => nofun
  · intro l o hl
    cases htrain : (TextEncoder.train l.encoder l.catalog.aliasTexts o).result with
    | error cause =>
      have hsame : (TextEncoder.train l.encoder l.catalog.aliasTexts o).state = l.encoder :=
        Encoder.train_state_of_error htrain
      rw [train_state_of_error htrain, hsame]
      exact hl
    | ok report =>
      rw [train_state_of_ok htrain]
      intro hstage
      simp only at hstage
      split at hstage <;> cases hstage
  · intro l hl
    by_cases hready : TextEncoder.isReady l.encoder = true
    · intro _
      rcases l.build_state_cases with hstate | ⟨-, hstate⟩
      · rw [hstate]
        exact hready
      · rw [hstate]
        exact hready
    · rw [build_of_not_ready hready]
      exact hl
  · intro hstage
    rw [hnew.fields.2.1] at hstage
    cases hstage

/-- A linker over an encoder whose index is up to date, with all that a run is known to keep. -/
structure UpToDate (l : Linker Encoder) : Prop where
  indexed : l.stage = .indexed
  ready : TextEncoder.isReady l.encoder = true
  valid : l.settings.validate = .ok ()
  inStep : l.InStep
  matched : l.Matched
  stores : l.StoresTexts
  readable : l.Readable

/-- The number of aliases has to be a word of 64 bits, or their keys cannot be read. -/
theorem upToDate_run {l₀ : Linker Encoder} (hnew : l₀.IsNew) {requests : List Request}
    (hindexed : (l₀.run requests).stage = .indexed)
    (hfit : (l₀.run requests).catalog.aliasCount < Whole.wordBound) :
    (l₀.run requests).UpToDate where
  indexed := hindexed
  ready := isReady_of_indexed_run hnew requests hindexed
  valid := (kept_run hnew requests).settings ▸ hnew.validate
  inStep := inStep_run keepsOnFailure_encoder hnew requests
  matched := matched_run hnew requests
  stores := storesTexts_run hnew requests
  readable := readable_run hnew hfit

/-- Every alias of now has an owner, whom its key names. -/
theorem Readable.exists_owner {ε : Type} {l : Linker ε} (h : l.Readable)
    {entry : String × String} (hentry : entry ∈ l.catalog.entries) :
    ∃ owner ∈ l.catalog.entities, entry ∈ EntityTable.entriesOf owner ∧
      AliasKey.owner? entry.1 = some owner.id := by
  obtain ⟨owner, howner, hmem⟩ := List.mem_flatMap.mp hentry
  obtain ⟨d, -, hd⟩ := h entry hentry
  refine ⟨owner, howner, hmem, ?_⟩
  obtain ⟨ordinal, hordinal, rfl⟩ := List.mem_mapIdx.mp hmem
  have hid : d.id = owner.id := AliasKey.owner?_toText hd
  exact hid ▸ hd

/-- The encoder gives every text this vector, which is as wide as the index. -/
def VectorsBy (l : Linker Encoder) (vectorOf : String → DenseVector) : Prop :=
  ∀ text, l.encoder.encode text = .ok (vectorOf text) ∧ (vectorOf text).size = l.index.dimensions

namespace UpToDate

variable {l : Linker Encoder} {vectorOf : String → DenseVector} {text : String}
  {query : DenseVector} {k : Nat}

theorem exists_vectorOf (h : l.UpToDate) : ∃ vectorOf, l.VectorsBy vectorOf := by
  have hencode : ∀ text, ∃ vector, l.encoder.encode text = .ok vector ∧
      vector.size = l.index.dimensions := by
    intro text
    obtain ⟨vector, hvector, hsize⟩ := Encoder.exists_encode h.ready text
    exact ⟨vector, hvector, hsize.trans h.matched.width.symm⟩
  exact ⟨fun text => (hencode text).choose, fun text => (hencode text).choose_spec⟩

/-- The index has every alias with its vector, in the order of the aliases. -/
theorem stored_eq (h : l.UpToDate) (hvectorOf : l.VectorsBy vectorOf) :
    l.index.stored = l.catalog.entries.map fun entry =>
      ⟨entry.1, vectorOf entry.2, DenseVector.norm (vectorOf entry.2)⟩ := by
  have hnodup := l.catalog.inverse.nodup_map_fst_entries
  rw [h.inStep.content h.indexed, VectorIndex.contentOf,
    VectorIndex.slotKeys_of_nodup h.inStep.free hnodup, List.filterMap_map,
    ← List.filterMap_eq_map]
  refine List.filterMap_congr fun entry hentry => ?_
  have husable : usable? l.index.dimensions l.encoder entry.2 = some (vectorOf entry.2) :=
    usable?_eq_some_iff.mpr (hvectorOf entry.2)
  rw [Function.comp_apply, VectorIndex.vectorOf?_of_nodup l.encoder hnodup hentry, husable]
  rfl

theorem scored_eq (h : l.UpToDate) (hvectorOf : l.VectorsBy vectorOf) (query : DenseVector) :
    l.index.scored query = l.catalog.entries.map fun entry =>
      ⟨entry.1, l.index.settings.metric.similarity query (DenseVector.norm query)
        (vectorOf entry.2) (DenseVector.norm (vectorOf entry.2))⟩ := by
  rw [VectorIndex.scored, h.stored_eq hvectorOf, List.map_map]
  rfl

/-- A text with a feature can be compared by either metric, so what the index puts first is found. -/
theorem exists_find_eq_cons (h : l.UpToDate) (hquery : l.encoder.encode text = .ok query)
    (hcounted : ∃ x ∈ query, x ≠ .zero) {first : IndexHit} {rest : List IndexHit}
    (hranked : l.index.ranked query = first :: rest)
    (hgo : first.similarity.isAtMost l.settings.minSimilarity = false) {owner : Entity}
    (howner : owner ∈ l.catalog.entities) (hkey : AliasKey.owner? first.key = some owner.id)
    (hk : 1 ≤ k) : ∃ cs, l.find text k = .ok (⟨owner, first.similarity, 1⟩ :: cs) := by
  have hcounts := Encoder.counts_of_encode hquery
  have hmeet := (Encoder.counted_of_encode hquery).meet_self hcounted
  obtain ⟨vector, hvector, hsize⟩ := Encoder.exists_encode h.ready text
  obtain rfl := Except.ok.inj (hquery.symm.trans hvector)
  refine h.inStep.exists_find_eq_cons h.indexed h.readable h.valid hquery
    (DenseVector.isSame_norm_eq_false hcounts hmeet) (hsize.trans h.matched.width.symm) ?_ hranked
    hgo howner hkey hk
  cases l.index.settings.metric with
  | cosine => exact DenseVector.isBelow_norm hcounts hmeet
  | inverseEuclidean => rfl

end UpToDate

/-! ## A voyage by either metric -/

/-- The configuration for rivers, with a metric of its own. -/
def riversBy (metric : Metric) : Configuration := { rivers with index := { metric } }

/-- The linker that it describes. -/
def riversideBy (metric : Metric) : Linker Encoder :=
  { riverside none with index := .ofSettings 3 { metric } }

theorem ofConfiguration_riversBy (metric : Metric) :
    ofConfiguration (riversBy metric) = .ok (riversideBy metric) := rfl

theorem table_voyageBy (metric : Metric) :
    ((riversideBy metric).run voyage).catalog.toEntityTable =
      EntityTable.empty.putAll [river, town] := by
  rw [toEntityTable_run]
  cases metric <;> decide +kernel

theorem stage_voyageBy (metric : Metric) :
    ((riversideBy metric).run voyage).stage = .indexed ∧
      ((riversideBy metric).run voyage).encoder = (riverside (some riverNames)).encoder :=
  stage_voyage rfl rfl

/-- After the voyage the shared name is known, with a vector that is not zero. -/
theorem known_voyage (metric : Metric) :
    ((riversideBy metric).run voyage).catalog.aliasCount < Whole.wordBound ∧
      "Thames" ∈ ((riversideBy metric).run voyage).catalog.aliasTexts ∧
      ∀ query, ((riversideBy metric).run voyage).encoder.encode "Thames" = .ok query →
        ∃ x ∈ query, x ≠ .zero := by
  have hknown : "<thames>" ∈
      ((riversideBy metric).run voyage).encoder.knownFeatures "Thames" := by
    rw [(stage_voyageBy metric).2]
    decide +kernel
  rw [table_voyageBy]
  exact ⟨by decide +kernel, by decide +kernel,
    fun query hquery => Encoder.exists_ne_zero_of_encode hquery hknown⟩

/-! ## By angle -/

/-- The number of 32 bits that is nearest to 0.99. -/
def nearOne : Binary32 := ⟨0x3F7D70A4⟩

/-- By angle an alias is so similar to itself that what comes first is above any lower bound. -/
theorem UpToDate.exists_first_of_cosine {l : Linker Encoder} (h : l.UpToDate)
    (hmetric : l.index.settings.metric = .cosine)
    (hbound : l.settings.minSimilarity.isBelow nearOne = true) {text : String}
    (halias : text ∈ l.catalog.aliasTexts) {query : DenseVector}
    (hquery : l.encoder.encode text = .ok query) (hcounted : ∃ x ∈ query, x ≠ .zero) {k : Nat}
    (hk : 1 ≤ k) :
    ∃ first cs, l.find text k = .ok (first :: cs) ∧ first.rank = 1 ∧
      nearOne.isBelow first.similarity = true := by
  obtain ⟨vectorOf, hvectorOf⟩ := h.exists_vectorOf
  obtain rfl : vectorOf text = query := Except.ok.inj ((hvectorOf text).1.symm.trans hquery)
  rw [← EntityTable.map_snd_entries] at halias
  obtain ⟨entry, hentry, rfl⟩ := List.mem_map.mp halias
  -- the alias is among the hits, with its similarity to itself
  have hself : (⟨entry.1, cosineSimilarity (vectorOf entry.2) (vectorOf entry.2)⟩ : IndexHit) ∈
      l.index.scored (vectorOf entry.2) := by
    rw [h.scored_eq hvectorOf, hmetric]
    exact List.mem_map_of_mem hentry
  have hcosine := Metric.between_cosine_self (Encoder.counts_of_encode hquery)
    ((Encoder.counted_of_encode hquery).meet_self hcounted)
  have hnear : nearOne.isBelow (cosineSimilarity (vectorOf entry.2) (vectorOf entry.2)) = true := by
    rw [Binary32.isBelow_iff (by decide) hcosine.isNaN, hcosine.signedPattern]
    exact Int.lt_of_lt_of_le (by decide) (Int.ofNat_le.mpr hcosine.low_le)
  obtain ⟨first, rest, hranked, hfirst, hbefore⟩ := exists_ranked_eq_cons hself
  have hnumber := (Binary32.isNaN_of_isAtMost (h.stores.isAtMost_of_mem_scored hquery hfirst).1).2
  have habove := Binary32.isBelow_of_precedes (by decide) hcosine.isNaN hnumber hnear hbefore
  have hgo := Binary32.isAtMost_eq_false_of_isBelow (Binary32.isBelow_trans hbound habove)
  have hmem : first ∈ l.index.ranked (vectorOf entry.2) := hranked ▸ List.mem_cons_self
  obtain ⟨owner, howner, hkey⟩ :=
    h.inStep.exists_owner_of_mem_ranked h.indexed h.readable hmem
  obtain ⟨cs, hcs⟩ := h.exists_find_eq_cons hquery hcounted hranked hgo howner hkey hk
  exact ⟨_, cs, hcs, rfl, habove⟩

/--
**An alias is found by angle.** If the bound is below 0.99, an alias that has a feature at all finds
something, and the first candidate has rank 1 and a similarity above 0.99.
-/
theorem aliasFound_run {c : Configuration} (hc : c.validate = .ok ())
    (hmetric : c.index.metric = .cosine) (hbound : c.lookup.minSimilarity.isBelow nearOne = true) :
    ∃ l₀, ofConfiguration c = .ok l₀ ∧ ∀ requests, (l₀.run requests).stage = .indexed →
      (l₀.run requests).catalog.aliasCount < Whole.wordBound →
      ∀ text ∈ (l₀.run requests).catalog.aliasTexts,
        ∃ query, (l₀.run requests).encoder.encode text = .ok query ∧
          ((∃ x ∈ query, x ≠ .zero) → ∀ k, 1 ≤ k → ∃ first cs,
            (l₀.run requests).find text k = .ok (first :: cs) ∧ first.rank = 1 ∧
              nearOne.isBelow first.similarity = true) := by
  obtain ⟨-, encoder, -, hmade⟩ := exists_ofConfiguration hc
  refine ⟨_, hmade, fun requests hindexed hfit text halias => ?_⟩
  have hnew := isNew_of_ofConfiguration hmade
  have hkept := kept_run hnew requests
  have h := upToDate_run hnew hindexed hfit
  obtain ⟨query, hquery, -⟩ := Encoder.exists_encode h.ready text
  exact ⟨query, hquery, fun hcounted k hk => h.exists_first_of_cosine
    (by rw [hkept.index]; exact hmetric) (by rw [hkept.settings]; exact hbound) halias hquery
    hcounted hk⟩

/-- The name that river and town share is found, with the other name of the river before it. -/
theorem aliasFound_voyage :
    (riversBy .cosine).validate = .ok () ∧
      ((riversideBy .cosine).run voyage).stage = .indexed ∧
      ((riversideBy .cosine).run voyage).catalog.aliasTexts = ["Isis", "Thames", "Thames"] ∧
      ∃ first cs, ((riversideBy .cosine).run voyage).find "Thames" 5 = .ok (first :: cs) ∧
        first.rank = 1 ∧ nearOne.isBelow first.similarity = true := by
  have hvalid : (riversBy .cosine).validate = .ok () := rfl
  have hindexed := (stage_voyageBy .cosine).1
  obtain ⟨hfew, halias, hcounted⟩ := known_voyage .cosine
  obtain ⟨l₀, hmade, hrun⟩ := aliasFound_run hvalid rfl (by decide)
  obtain rfl : l₀ = riversideBy .cosine :=
    Except.ok.inj (hmade.symm.trans (ofConfiguration_riversBy .cosine))
  obtain ⟨query, hquery, hfound⟩ := hrun voyage hindexed hfew _ halias
  refine ⟨hvalid, hindexed, ?_, hfound (hcounted query hquery) 5 (by decide)⟩
  rw [table_voyageBy]
  decide +kernel

/-! ## By distance -/

/-- The entity owns the earliest alias, in the order of all aliases, that has this vector. -/
def OwnsEarliest (l : Linker Encoder) (vector : DenseVector) (owner : Entity) : Prop :=
  ∃ before entry after, l.catalog.entries = before ++ entry :: after ∧
    owner ∈ l.catalog.entities ∧ entry ∈ EntityTable.entriesOf owner ∧
    l.encoder.encode entry.2 = .ok vector ∧ ∀ other ∈ before, l.encoder.encode other.2 ≠ .ok vector

/-- How the aliases of a linker are scored for a query, if what is not the same is far from it. -/
def ScoresApart (l : Linker Encoder) (query : DenseVector) : Prop :=
  ∀ entry ∈ l.catalog.entries, ∃ vector, l.encoder.encode entry.2 = .ok vector ∧
    ∃ hit ∈ l.index.scored query, hit.key = entry.1 ∧
      (vector = query → hit.similarity = .one) ∧
      (vector ≠ query → hit.similarity.isAtMost .half = true)

namespace UpToDate

variable {l : Linker Encoder} {vectorOf : String → DenseVector} {text : String}
  {query : DenseVector}

theorem scoresApart (h : l.UpToDate) (hmetric : l.index.settings.metric = .inverseEuclidean)
    (hquery : l.encoder.encode text = .ok query) : l.ScoresApart query := by
  obtain ⟨vectorOf, hvectorOf⟩ := h.exists_vectorOf
  intro entry hentry
  have hhit : (⟨entry.1, inverseSimilarity query (vectorOf entry.2)⟩ : IndexHit) ∈
      l.index.scored query := by
    rw [h.scored_eq hvectorOf, hmetric]
    exact List.mem_map_of_mem hentry
  refine ⟨vectorOf entry.2, (hvectorOf entry.2).1, _, hhit, rfl, ?_⟩
  rcases Encoder.inverseSimilarity_cases hquery (hvectorOf entry.2).1 with
    ⟨hsame, hone⟩ | ⟨hne, hhalf⟩
  · exact ⟨fun _ => hone, fun hne => absurd hsame hne⟩
  · refine ⟨fun hsame => absurd hsame hne, fun _ => ?_⟩
    rw [Binary32.isAtMost_iff hhalf.isNaN (by decide), hhalf.signedPattern]
    exact Int.ofNat_le.mpr hhalf.le_high

/-- Among the aliases with the vector of an alias there is an earliest. -/
theorem exists_earliest (hvectorOf : l.VectorsBy vectorOf) (halias : text ∈ l.catalog.aliasTexts)
    (hquery : l.encoder.encode text = .ok query) :
    ∃ before entry after, l.catalog.entries = before ++ entry :: after ∧
      vectorOf entry.2 = query ∧ ∀ other ∈ before, vectorOf other.2 ≠ query := by
  have hmem : query ∈ l.catalog.entries.map fun entry => vectorOf entry.2 := by
    rw [← EntityTable.map_snd_entries] at halias
    obtain ⟨own, hown, rfl⟩ := List.mem_map.mp halias
    exact List.mem_map.mpr
      ⟨own, hown, Except.ok.inj ((hvectorOf own.2).1.symm.trans hquery)⟩
  obtain ⟨front, back, hvectors, hnew⟩ := List.eq_append_cons_of_mem hmem
  obtain ⟨before, rest, hentries, rfl, hrest⟩ := List.map_eq_append_iff.mp hvectors
  obtain ⟨entry, after, rfl, hsame, -⟩ := List.map_eq_cons_iff.mp hrest
  exact ⟨before, entry, after, hentries, hsame, fun other hother hother' =>
    hnew (List.mem_map.mpr ⟨other, hother, hother'⟩)⟩

/-- The index puts the earliest first, because nothing is more similar than one. -/
theorem exists_ranked_eq_cons_of_earliest (h : l.UpToDate)
    (hmetric : l.index.settings.metric = .inverseEuclidean) (hvectorOf : l.VectorsBy vectorOf)
    (hquery : l.encoder.encode text = .ok query) {before after : List (String × String)}
    {entry : String × String} (hentries : l.catalog.entries = before ++ entry :: after)
    (hsame : vectorOf entry.2 = query) (hbefore : ∀ other ∈ before, vectorOf other.2 ≠ query) :
    ∃ rest, l.index.ranked query = ⟨entry.1, .one⟩ :: rest := by
  have hcases := fun entry : String × String =>
    Encoder.inverseSimilarity_cases hquery (hvectorOf entry.2).1
  have hone : inverseSimilarity query (vectorOf entry.2) = .one :=
    (hcases entry).elim And.right fun hne => absurd hsame hne.1
  have hscored : l.index.scored query = l.catalog.entries.map fun entry =>
      ⟨entry.1, inverseSimilarity query (vectorOf entry.2)⟩ := by
    rw [h.scored_eq hvectorOf, hmetric]
    rfl
  have hmost : ∀ hit ∈ l.index.scored query, hit.similarity.precedes .one = true := by
    rw [hscored]
    intro hit hhit
    obtain ⟨other, -, rfl⟩ := List.mem_map.mp hhit
    rcases hcases other with ⟨-, hother⟩ | ⟨-, hhalf⟩
    · rw [hother]
      exact Binary32.precedes_refl _
    · exact hhalf.precedes .between_one (by decide) (by decide)
  rw [hentries, List.map_append, List.map_cons, hone] at hscored
  rw [VectorIndex.ranked, hscored]
  refine exists_sortBySimilarity_eq_cons (hscored ▸ hmost) fun hit hhit => ?_
  -- before the earliest there are other vectors only, and these are not as similar
  obtain ⟨other, hother, rfl⟩ := List.mem_map.mp hhit
  have hhalf := ((hcases other).resolve_left fun hsame => hbefore other hother hsame.1).2
  intro (heq : inverseSimilarity query (vectorOf other.2) = .one)
  rw [heq] at hhalf
  exact absurd hhalf.le_high (by decide)

/-- By distance what comes first is the earliest alias of the same vector. -/
theorem exists_first_of_distance (h : l.UpToDate)
    (hmetric : l.index.settings.metric = .inverseEuclidean)
    (hbound : l.settings.minSimilarity.isBelow .one = true) (halias : text ∈ l.catalog.aliasTexts)
    (hquery : l.encoder.encode text = .ok query) (hcounted : ∃ x ∈ query, x ≠ .zero) :
    ∃ owner, l.OwnsEarliest query owner ∧
      ∀ k, 1 ≤ k → ∃ cs, l.find text k = .ok (⟨owner, .one, 1⟩ :: cs) := by
  obtain ⟨vectorOf, hvectorOf⟩ := h.exists_vectorOf
  obtain ⟨before, entry, after, hentries, hsame, hbefore⟩ :=
    exists_earliest hvectorOf halias hquery
  obtain ⟨rest, hranked⟩ :=
    h.exists_ranked_eq_cons_of_earliest hmetric hvectorOf hquery hentries hsame hbefore
  have hentry : entry ∈ l.catalog.entries := hentries ▸ List.mem_append_cons_self
  obtain ⟨owner, howner, hown, hkey⟩ := h.readable.exists_owner hentry
  refine ⟨owner, ⟨before, entry, after, hentries, howner, hown, ?_, ?_⟩, fun k hk => ?_⟩
  · rw [← hsame]
    exact (hvectorOf entry.2).1
  · intro other hother hvector
    exact hbefore other hother (Except.ok.inj ((hvectorOf other.2).1.symm.trans hvector))
  · exact h.exists_find_eq_cons hquery hcounted hranked
      (Binary32.isAtMost_eq_false_of_isBelow hbound) howner hkey hk

end UpToDate

/--
**An alias is found exactly by distance.** If the bound is below one, the first candidate for an alias
that has a feature at all is the entity with the earliest alias of the same vector, with a similarity
of exactly one. Aliases of another vector are at most half as similar.
-/
theorem aliasFoundExactly_run {c : Configuration} (hc : c.validate = .ok ())
    (hmetric : c.index.metric = .inverseEuclidean)
    (hbound : c.lookup.minSimilarity.isBelow .one = true) :
    ∃ l₀, ofConfiguration c = .ok l₀ ∧ ∀ requests, (l₀.run requests).stage = .indexed →
      (l₀.run requests).catalog.aliasCount < Whole.wordBound →
      ∀ text ∈ (l₀.run requests).catalog.aliasTexts,
        ∃ query, (l₀.run requests).encoder.encode text = .ok query ∧
          (l₀.run requests).ScoresApart query ∧
          ((∃ x ∈ query, x ≠ .zero) → ∃ owner, (l₀.run requests).OwnsEarliest query owner ∧
            ∀ k, 1 ≤ k → ∃ cs, (l₀.run requests).find text k = .ok (⟨owner, .one, 1⟩ :: cs)) := by
  obtain ⟨-, encoder, -, hmade⟩ := exists_ofConfiguration hc
  refine ⟨_, hmade, fun requests hindexed hfit text halias => ?_⟩
  have hnew := isNew_of_ofConfiguration hmade
  have hkept := kept_run hnew requests
  have h := upToDate_run hnew hindexed hfit
  have hsame : (_ : Linker Encoder).index.settings.metric = .inverseEuclidean :=
    (congrArg IndexSettings.metric hkept.index).trans hmetric
  obtain ⟨query, hquery, -⟩ := Encoder.exists_encode h.ready text
  exact ⟨query, hquery, h.scoresApart hsame hquery, fun hcounted =>
    h.exists_first_of_distance hsame (by rw [hkept.settings]; exact hbound) halias hquery hcounted⟩

/-- The river owns the earlier of the two aliases with the shared name. -/
theorem eq_river_of_ownsEarliest {query : DenseVector} {owner : Entity}
    (hquery : ((riversideBy .inverseEuclidean).run voyage).encoder.encode "Thames" = .ok query)
    (h : ((riversideBy .inverseEuclidean).run voyage).OwnsEarliest query owner) :
    owner = river := by
  obtain ⟨before, entry, after, hentries, howner, hown, -, hbefore⟩ := h
  have hall : EntityTable.entries (EntityTable.empty.putAll [river, town]) =
      [("RIV.0", "Isis"), ("RIV.1", "Thames"), ("TWN.0", "Thames")] := by decide +kernel
  rw [table_voyageBy] at hentries howner
  rw [hall] at hentries
  have hcases : owner = river ∨ owner = town := by
    have hmem : owner ∈ [river, town] := howner
    simpa using hmem
  refine hcases.resolve_right fun htown => ?_
  rw [htown] at hown
  -- both aliases of the river come first, and the second of them has the vector
  rcases before with _ | ⟨first, _ | ⟨second, rest⟩⟩
  · obtain ⟨rfl, -⟩ := List.cons.inj hentries
    revert hown
    decide +kernel
  · obtain ⟨rfl, -⟩ := List.cons.inj (List.cons.inj hentries).2
    revert hown
    decide +kernel
  · obtain ⟨rfl, -⟩ := List.cons.inj (List.cons.inj hentries).2
    exact hbefore _ (List.mem_cons_of_mem _ List.mem_cons_self) hquery

/-- The name that river and town share finds the river, with one; its other name is not the same. -/
theorem aliasFoundExactly_voyage :
    (riversBy .inverseEuclidean).validate = .ok () ∧
      ((riversideBy .inverseEuclidean).run voyage).stage = .indexed ∧
      ((riversideBy .inverseEuclidean).run voyage).catalog.aliasTexts =
        ["Isis", "Thames", "Thames"] ∧
      ((riversideBy .inverseEuclidean).run voyage).encoder.encode "Isis" ≠
        ((riversideBy .inverseEuclidean).run voyage).encoder.encode "Thames" ∧
      ∃ cs, ((riversideBy .inverseEuclidean).run voyage).find "Thames" 5 =
        .ok (⟨river, .one, 1⟩ :: cs) := by
  have hvalid : (riversBy .inverseEuclidean).validate = .ok () := rfl
  obtain ⟨hindexed, hencoder⟩ := stage_voyageBy .inverseEuclidean
  obtain ⟨hfew, halias, hcounted⟩ := known_voyage .inverseEuclidean
  obtain ⟨l₀, hmade, hrun⟩ := aliasFoundExactly_run hvalid rfl (by decide)
  obtain rfl : l₀ = riversideBy .inverseEuclidean :=
    Except.ok.inj (hmade.symm.trans (ofConfiguration_riversBy .inverseEuclidean))
  obtain ⟨query, hquery, -, hfound⟩ := hrun voyage hindexed hfew _ halias
  obtain ⟨owner, howner, hfirst⟩ := hfound (hcounted query hquery)
  obtain rfl := eq_river_of_ownsEarliest hquery howner
  refine ⟨hvalid, hindexed, ?_, ?_, hfirst 5 (by decide)⟩
  · rw [table_voyageBy]
    decide +kernel
  · rw [hencoder]
    decide +kernel

end Linker

end Gazetteer
