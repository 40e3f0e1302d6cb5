import Gazetteer.Proofs.Linking.Finding
import Gazetteer.Proofs.Linking.Runs

/-!
# What an answer says

An answer is a list of candidates with similarities and ranks, drawn from an index that may be older
than the catalog. `SoundAnswer` says what can be read off it: above all that the similarity of a
candidate is that of the most similar alias of its entity *among all in the index*, although only
some of them were fetched, and that its rank counts the aliases before that one. `soundAnswer_run`
shows this of every answer after every run.

The second result is about the cut itself. A search fetches `k` times as many aliases as the
oversampling of the settings says; **where no entity has more aliases than that in the index,
nothing is lost by it** (`answersFromAll_run`): the answer is that of the complete ranking.

All that a run contributes to either is that the entities named by keys are registered
(`OwnersRegistered`); the rest is about one linker at one moment.
-/

set_option autoImplicit false

namespace Gazetteer

/-! ## Best hits and their places -/

section Best

variable {x : VectorIndex} {query : DenseVector} {hits : List IndexHit}
  {owned : List (String × Binary32)} {wanted : Nat} {bound : Binary32}

/-- The rank of a best hit is its place in the ranking of all keys. -/
theorem VectorIndex.getElem?_ranked_of_mem_bestPerOwner (hfront : hits <+: x.ranked query)
    (howned : hits.mapM Linker.ownedHit = .ok owned) {h : RankedHit}
    (hm : h ∈ bestPerOwner owned wanted bound) :
    ∃ hit, (x.ranked query)[h.rank - 1]? = some hit ∧
      AliasKey.owner? hit.key = some h.owner ∧ hit.similarity = h.similarity := by
  obtain ⟨-, hget, -⟩ := of_mem_bestPerOwner hm
  obtain ⟨hit, hhit, howner, hsimilarity⟩ := Linker.getElem?_of_mapM_ownedHit howned hget
  exact ⟨hit, getElem?_of_front hfront hhit, howner, hsimilarity⟩

theorem VectorIndex.pairwise_similarity_bestPerOwner (hfront : hits <+: x.ranked query)
    (howned : hits.mapM Linker.ownedHit = .ok owned) :
    (bestPerOwner owned wanted bound).Pairwise fun a b =>
      b.similarity.precedes a.similarity = true := by
  refine (pairwise_rank_bestPerOwner owned wanted bound).imp_of_mem ?_
  intro a b ha hb hlt
  -- both stand in the ranking at their ranks, and there similarities do not increase
  obtain ⟨hitA, hA, -, hsimA⟩ := getElem?_ranked_of_mem_bestPerOwner hfront howned ha
  obtain ⟨hitB, hB, -, hsimB⟩ := getElem?_ranked_of_mem_bestPerOwner hfront howned hb
  rw [← hsimA, ← hsimB]
  exact precedes_of_getElem?_sortBySimilarity (by omega) hA hB

/--
What the best hit of an owner says about all keys of an index. It is the hit of one slot; no key
of the owner is more similar; and the rank counts, from 1, the keys that stand before it.
-/
structure VectorIndex.PlacedAt (x : VectorIndex) (query : DenseVector) (h : RankedHit) (slot : Nat)
    (hit : IndexHit) : Prop where
  scored : (x.scored query)[slot]? = some hit
  owner : AliasKey.owner? hit.key = some h.owner
  similarity : hit.similarity = h.similarity
  greatest : ∀ other ∈ x.scored query, AliasKey.owner? other.key = some h.owner →
    other.similarity.precedes h.similarity = true
  rank : h.rank = (x.scored query).zipIdx.countP
    (fun other => outranks IndexHit.similarity other (hit, slot)) + 1

/-- A best hit among the head of a ranking is the best of its owner in the whole index. -/
theorem VectorIndex.exists_placedAt (hfront : hits <+: x.ranked query)
    (howned : hits.mapM Linker.ownedHit = .ok owned) {h : RankedHit}
    (hm : h ∈ bestPerOwner owned wanted bound) :
    ∃ slot hit, x.PlacedAt query h slot hit := by
  obtain ⟨hpos, hget, hfirst⟩ := of_mem_bestPerOwner hm
  obtain ⟨hit, hhit, howner, hsimilarity⟩ := getElem?_ranked_of_mem_bestPerOwner hfront howned hm
  obtain ⟨slot, hslot, hcount⟩ := countP_outranks hhit
  refine ⟨slot, hit, hslot, howner, hsimilarity, ?_, by omega⟩
  intro other hother hsame
  obtain ⟨j, hj⟩ : ∃ j, (x.ranked query)[j]? = some other :=
    List.mem_iff_getElem?.mp ((sortBySimilarity_perm _).mem_iff.mpr hother)
  rw [← hsimilarity]
  refine precedes_of_getElem?_sortBySimilarity (Nat.le_of_not_lt fun hlt => ?_) hhit hj
  -- were it before the best hit, it had been fetched too, and would be the first of its owner
  obtain ⟨p, hp⟩ : ∃ p, owned[j]? = some p :=
    ⟨_, List.getElem?_eq_getElem (Nat.lt_trans hlt (List.getElem?_eq_some_iff.mp hget).1)⟩
  obtain ⟨hit', hhit', howner', -⟩ := Linker.getElem?_of_mapM_ownedHit howned hp
  have hsamePlace : hit' = other :=
    Option.some.inj ((getElem?_of_front hfront hhit').symm.trans hj)
  rw [hsamePlace, hsame, Option.some.injEq] at howner'
  exact hfirst j hlt p hp howner'.symm

end Best

namespace Linker

variable {ε : Type}

/-! ## Owners and the catalog -/

/-- Every entity that a key of the index names is registered. -/
def OwnersRegistered (l : Linker ε) : Prop :=
  ∀ key ∈ l.index.keys, ∀ id, AliasKey.owner? key = some id → (l.catalog.get? id).isSome = true

/-- The owners of the best among hits of the index are registered. -/
theorem OwnersRegistered.isSome_get?_owner {l : Linker ε} (hl : l.OwnersRegistered)
    {hits : List IndexHit} (hkeys : ∀ hit ∈ hits, hit.key ∈ l.index.keys)
    {owned : List (String × Binary32)} (howned : hits.mapM ownedHit = .ok owned) {wanted : Nat}
    {bound : Binary32} {h : RankedHit} (hm : h ∈ bestPerOwner owned wanted bound) :
    (l.catalog.get? h.owner).isSome = true := by
  obtain ⟨-, hget, -⟩ := of_mem_bestPerOwner hm
  obtain ⟨hit, hhit, howner, -⟩ := getElem?_of_mapM_ownedHit howned hget
  exact hl hit.key (hkeys hit (List.mem_of_getElem? hhit)) h.owner howner

/-- Where owners are registered, the candidates of a walk are its hits: the catalog drops none. -/
theorem OwnersRegistered.map_asHit {l : Linker ε} (hl : l.OwnersRegistered)
    {hits : List IndexHit} (hkeys : ∀ hit ∈ hits, hit.key ∈ l.index.keys)
    {owned : List (String × Binary32)} (howned : hits.mapM ownedHit = .ok owned) (wanted : Nat)
    (bound : Binary32) :
    ((bestPerOwner owned wanted bound).filterMap l.candidate?).map Candidate.asHit =
      bestPerOwner owned wanted bound :=
  map_asHit_filterMap fun _ hm => hl.isSome_get?_owner hkeys howned hm

variable [TextEncoder ε]

theorem ownersRegistered_run {l₀ : Linker ε} (hnew : l₀.IsNew) (requests : List Request) :
    (l₀.run requests).OwnersRegistered := by
  intro key hkey id howner
  obtain ⟨k, rfl, hregistered⟩ := exists_toText_of_mem_keys hnew requests hkey
  rwa [AliasKey.owner?_toText howner]

/-! ## Sound answers -/

/-- What can be read off the answer to a mention. -/
structure SoundAnswer (l : Linker ε) (mention : String) (k : Nat) (cs : List Candidate) : Prop where
  length_le : cs.length ≤ k
  /-- No entity stands twice in the answer. -/
  distinct : (cs.map fun c => c.entity.id).Nodup
  /-- The records are those of now. -/
  current : ∀ c ∈ cs, l.catalog.get? c.entity.id = some c.entity
  ranks_rise : cs.Pairwise fun a b => a.rank < b.rank
  rank_bounds : ∀ c ∈ cs,
    1 ≤ c.rank ∧ c.rank ≤ min (k * l.settings.oversampling.toNat) l.index.size
  similarities_fall : cs.Pairwise fun a b => b.similarity.precedes a.similarity = true
  /-- Similarity and rank are those of the best alias of the entity in the whole index. -/
  best : ∀ c ∈ cs, ∃ query, TextEncoder.encode l.encoder mention = .ok query ∧
    ∃ slot hit, l.index.PlacedAt query c.asHit slot hit
  /-- The search was not made at all, or the answer has every hit that the walk kept. -/
  none_dropped : (l.Passes mention k ∧ cs = []) ∨
    ∃ query hits owned, TextEncoder.encode l.encoder mention = .ok query ∧
      l.index.find query (l.fetchCount k) = .ok hits ∧ hits.mapM ownedHit = .ok owned ∧
      cs.map Candidate.asHit = bestPerOwner owned k l.settings.minSimilarity

theorem SoundAnswer.nil {l : Linker ε} {mention : String} {k : Nat} (h : l.Passes mention k) :
    l.SoundAnswer mention k [] where
  length_le := Nat.zero_le k
  distinct := List.nodup_nil
  current := nofun
  ranks_rise := List.Pairwise.nil
  rank_bounds := nofun
  similarities_fall := List.Pairwise.nil
  best := nofun
  none_dropped := Or.inl ⟨h, rfl⟩

/-- A linker whose owners are registered gives sound answers. -/
theorem OwnersRegistered.soundAnswer {l : Linker ε} (hl : l.OwnersRegistered) {mention : String}
    {k : Nat} {cs : List Candidate} (h : l.find mention k = .ok cs) :
    l.SoundAnswer mention k cs := by
  rcases find_eq_ok h with ⟨hpasses, rfl⟩ | ⟨query, hits, owned, hquery, hhits, howned, hcs⟩
  · exact SoundAnswer.nil hpasses
  · obtain ⟨hfront, hfetched⟩ := VectorIndex.find_eq_ok hhits
    -- everything is known of the walk already, so each clause is carried over along this
    have hmap : cs.map Candidate.asHit = bestPerOwner owned k l.settings.minSimilarity := by
      rw [hcs]
      exact hl.map_asHit (fun hit hm => VectorIndex.key_mem_keys_of_find hhits hm) howned k _
    have hbest : ∀ c ∈ cs, c.asHit ∈ bestPerOwner owned k l.settings.minSimilarity :=
      fun c hc => hmap ▸ List.mem_map_of_mem hc
    have hlength : owned.length ≤ min (k * l.settings.oversampling.toNat) l.index.size := by
      rw [length_of_mapM_ownedHit howned]
      refine Nat.le_min.mpr ⟨Nat.le_trans hfetched (l.fetchCount_le k), ?_⟩
      exact l.index.length_ranked query ▸ hfront.length_le
    refine
      { length_le := ?_, distinct := ?_, current := ?_, ranks_rise := ?_, rank_bounds := ?_
        similarities_fall := ?_, best := ?_
        none_dropped := Or.inr ⟨query, hits, owned, hquery, hhits, howned, hmap⟩ }
    · rw [← List.length_map (f := Candidate.asHit), hmap]
      exact length_bestPerOwner_le _ _ _
    · have hnodup := nodup_owner_bestPerOwner owned k l.settings.minSimilarity
      rwa [← hmap, List.map_map] at hnodup
    · intro c hc
      rw [hcs] at hc
      obtain ⟨hit, -, hcandidate⟩ := List.mem_filterMap.mp hc
      exact (candidate?_eq_some hcandidate).1
    · have hranks := pairwise_rank_bestPerOwner owned k l.settings.minSimilarity
      rwa [← hmap, List.pairwise_map] at hranks
    · intro c hc
      obtain ⟨hpos, hget, -⟩ := of_mem_bestPerOwner (hbest c hc)
      have hlt := (List.getElem?_eq_some_iff.mp hget).1
      exact ⟨hpos, Nat.le_trans (Nat.le_of_pred_lt hlt) hlength⟩
    · have hfall : (bestPerOwner owned k l.settings.minSimilarity).Pairwise _ :=
        VectorIndex.pairwise_similarity_bestPerOwner hfront howned
      rwa [← hmap, List.pairwise_map] at hfall
    · intro c hc
      exact ⟨query, hquery, VectorIndex.exists_placedAt hfront howned (hbest c hc)⟩

/-- **Every answer after every run is sound.** -/
theorem soundAnswer_run {l₀ : Linker ε} (hnew : l₀.IsNew) (requests : List Request)
    {mention : String} {k : Nat} {cs : List Candidate}
    (h : (l₀.run requests).find mention k = .ok cs) :
    (l₀.run requests).SoundAnswer mention k cs :=
  (ownersRegistered_run hnew requests).soundAnswer h

/-- After the survey one entity gets another record. The index is older and does not know it. -/
def resurvey : List Request :=
  survey ++ [.add ((Entity.ofName "NE" "north east").withDescription "where roads cross")]

theorem find_resurvey :
    (compass.run resurvey).find "north east" 2 =
      .ok [⟨(Entity.ofName "NE" "north east").withDescription "where roads cross", .one, 1⟩,
        ⟨Entity.ofName "N.1" "north", ⟨0x3F3504F3⟩, 3⟩] := by
  have hscored : (compass.run resurvey).index.scored #[.one, .one] =
      [⟨"NE.0", .one⟩, ⟨"NE.1", ⟨0x3F3504F3⟩⟩, ⟨"N.1.0", ⟨0x3F3504F3⟩⟩] := by
    decide +kernel
  have hquery : TextEncoder.encode (compass.run resurvey).encoder "north east" =
      .ok #[.one, .one] := rfl
  rw [find_eq_of_pairwise hscored hquery (by decide +kernel) (by decide +kernel)
    (by decide +kernel) (by decide +kernel) rfl]
  refine congrArg Except.ok ?_
  decide +kernel

/-- An answer of that older index is sound: it has the record of now. -/
theorem soundAnswer_resurvey :
    compass.IsNew ∧ (compass.run resurvey).stage = .populated ∧
      ∃ cs, cs ≠ [] ∧ (compass.run resurvey).find "north east" 2 = .ok cs ∧
        (compass.run resurvey).SoundAnswer "north east" 2 cs :=
  ⟨isNew_compass, by decide +kernel, _, List.cons_ne_nil _ _, find_resurvey,
    soundAnswer_run isNew_compass resurvey find_resurvey⟩

/-! ## Cutting without loss -/

/--
The answer to a mention is that of the complete ranking: the same owners, similarities and ranks.
-/
def AnswersFromAll (l : Linker ε) (mention : String) (query : DenseVector) (k : Nat) : Prop :=
  ∃ hits owned cs, l.index.find query l.index.size = .ok hits ∧
    hits.mapM ownedHit = .ok owned ∧ l.find mention k = .ok cs ∧
    cs.map Candidate.asHit = bestPerOwner owned k l.settings.minSimilarity

/-- The cut loses nothing where owners are registered, keys can be read, and none owns too many. -/
theorem OwnersRegistered.answersFromAll {l : Linker ε} (hl : l.OwnersRegistered)
    (hreadable : ∀ key ∈ l.index.keys, ∃ id, AliasKey.owner? key = some id)
    (hfit : l.index.size < Whole.wordBound) {mention : String} {query : DenseVector}
    (hquery : TextEncoder.encode l.encoder mention = .ok query)
    (hnorm : (DenseVector.norm query).isSame .zero = false)
    (hwidth : query.size = l.index.dimensions)
    (hfew : ∀ id, l.index.keyCount id ≤ l.settings.oversampling.toNat) (k : Nat) :
    l.AnswersFromAll mention query k := by
  have hkeys : ∀ hit ∈ l.index.complete query, hit.key ∈ l.index.keys :=
    fun _ => VectorIndex.key_mem_keys_of_mem_complete
  obtain ⟨owned, howned⟩ : ∃ owned, (l.index.complete query).mapM ownedHit = .ok owned :=
    mapM_ownedHit_of_forall fun hit hm => hreadable hit.key (hkeys hit hm)
  have hcut : bestPerOwner (owned.take (l.fetchCount k)) k l.settings.minSimilarity =
      bestPerOwner owned k l.settings.minSimilarity := by
    refine bestPerOwner_take_fetchCount (fun owner => ?_) ?_ k _
    · rw [countP_of_mapM_ownedHit howned]
      exact Nat.le_trans (l.index.countP_key_complete_le query _) (hfew owner)
    · rw [length_of_mapM_ownedHit howned]
      exact Nat.lt_of_le_of_lt (l.index.length_complete_le query) hfit
  refine ⟨l.index.complete query, owned,
    (bestPerOwner owned k l.settings.minSimilarity).filterMap l.candidate?,
    VectorIndex.find_size hwidth, howned, ?_, hl.map_asHit hkeys howned k _⟩
  rw [find_eq hquery hnorm (VectorIndex.find_of_width hwidth _) (mapM_ownedHit_take _ howned), hcut]

/--
**Where no entity has more keys in the index than the oversampling says, the cut loses nothing.**
-/
theorem answersFromAll_run {l₀ : Linker ε} (hnew : l₀.IsNew) {requests : List Request}
    (hcount : l₀.Countable requests) {mention : String} {query : DenseVector}
    (hquery : TextEncoder.encode (l₀.run requests).encoder mention = .ok query)
    (hnorm : (DenseVector.norm query).isSame .zero = false)
    (hwidth : query.size = (l₀.run requests).index.dimensions)
    (hfew : ∀ id, (l₀.run requests).index.keyCount id ≤
      (l₀.run requests).settings.oversampling.toNat) (k : Nat) :
    (l₀.run requests).AnswersFromAll mention query k := by
  have hreadable : ∀ key ∈ (l₀.run requests).index.keys, ∃ id, AliasKey.owner? key = some id :=
    fun _ => exists_owner?_of_countable hnew hcount
  exact (ownersRegistered_run hnew requests).answersFromAll hreadable
    (size_lt_of_countable hnew hcount) hquery hnorm hwidth hfew k

theorem keyCount_survey_le (id : String) : (compass.run survey).index.keyCount id ≤ 2 := by
  have hkeys : (compass.run survey).index.keys = ["NE.0", "NE.1", "N.1.0"] := by decide +kernel
  have howners : ["NE.0", "NE.1", "N.1.0"].map AliasKey.owner? =
      [some "NE", some "NE", some "N.1"] := by decide +kernel
  rw [VectorIndex.keyCount, hkeys]
  have hcount : (["NE.0", "NE.1", "N.1.0"].map AliasKey.owner?).countP (· == some id) ≤ 2 := by
    rw [howners]
    by_cases hid : id = "NE"
    · subst hid
      decide
    · simp only [List.countP_cons, List.countP_nil, beq_iff_eq, Option.some.injEq, Ne.symm hid,
        if_false]
      split <;> omega
  rwa [List.countP_map] at hcount

/-- Two of three hits are enough for one candidate: no entity has more than two keys. -/
theorem answersFromAll_survey :
    compass.IsNew ∧ compass.Countable survey ∧
      (compass.run survey).fetchCount 1 < (compass.run survey).index.size ∧
      (compass.run survey).AnswersFromAll "north east" #[.one, .one] 1 :=
  ⟨isNew_compass, countable_survey, by decide +kernel,
    answersFromAll_run isNew_compass countable_survey rfl (by decide +kernel) (by decide +kernel)
      keyCount_survey_le 1⟩

end Linker

end Gazetteer
