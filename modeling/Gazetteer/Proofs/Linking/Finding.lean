import Gazetteer.Proofs.Fallible
import Gazetteer.Proofs.Index.Searching
import Gazetteer.Proofs.Linking.AliasKeys
import Gazetteer.Linking.Linker

/-!
# One search, step by step

A search encodes the mention, ranks the aliases of the index, reads the keys of those fetched, keeps
the best hit of each owner and looks up the records of the owners. Here each step gets the equation
by which it is used later: `VectorIndex.find_of_width` and `eq_take_of_find` for the ranking,
`mapM_ownedHit_eq_ok_iff` for the keys, `map_asHit_filterMap` for the records.

All steps but the last make up `bestHits`: `bestHits_eq` says what these are, `bestHits_eq_ok` how
they come about, and `bestHits_eq_error` what can fail. A search adds the records and no way to fail
(`find_eq_map_bestHits`), so the same three things are known of it.
-/

set_option autoImplicit false

namespace Gazetteer

/-! ## Keys that name an entity -/

/-- How many keys of an index name an entity. -/
def VectorIndex.keyCount (x : VectorIndex) (id : String) : Nat :=
  x.keys.countP fun key => AliasKey.owner? key == some id

namespace Linker

/-! ## Reading the keys of hits -/

/-- What a hit says: the entity that its key names, if it can be read, and the similarity. -/
def reading (hit : IndexHit) : Option String × Binary32 := (AliasKey.owner? hit.key, hit.similarity)

theorem ownedHit_eq_ok_iff {hit : IndexHit} {p : String × Binary32} :
    ownedHit hit = .ok p ↔ Prod.map some id p = reading hit := by
  obtain ⟨owner, similarity⟩ := p
  unfold ownedHit reading AliasKey.owner?
  cases AliasKey.ofText hit.key with
  | error e => exact ⟨nofun, nofun⟩
  | ok key =>
    constructor
    · intro h
      cases h
      rfl
    · intro h
      cases h
      rfl

/-- The keys of all hits can be read, and this is what they say. -/
theorem mapM_ownedHit_eq_ok_iff {hits : List IndexHit} {owned : List (String × Binary32)} :
    hits.mapM ownedHit = .ok owned ↔ owned.map (Prod.map some id) = hits.map reading := by
  have hread : ∀ hit p, ownedHit hit = .ok p ↔ reading hit = Prod.map some id p :=
    fun _ _ => ownedHit_eq_ok_iff.trans eq_comm
  have hmap : owned.map (Prod.map some id) = hits.map reading ↔
      List.Forall₂ (fun hit p => reading hit = Prod.map some id p) hits owned := by
    rw [eq_comm, ← List.forall₂_eq_eq_eq, List.forall₂_map_left_iff, List.forall₂_map_right_iff]
  rw [hmap, mapM_eq_ok_iff]
  simp only [hread]

theorem mapM_ownedHit_of_forall {hits : List IndexHit}
    (h : ∀ hit ∈ hits, ∃ id, AliasKey.owner? hit.key = some id) :
    ∃ owned, hits.mapM ownedHit = .ok owned := by
  refine exists_mapM_eq_ok fun hit hhit => ?_
  obtain ⟨id, hid⟩ := h hit hhit
  exact ⟨(id, hit.similarity), ownedHit_eq_ok_iff.mpr (by rw [reading, hid]; rfl)⟩

section Owned

variable {hits : List IndexHit} {owned : List (String × Binary32)}

theorem mapM_ownedHit_take (n : Nat) (h : hits.mapM ownedHit = .ok owned) :
    (hits.take n).mapM ownedHit = .ok (owned.take n) := by
  rw [mapM_ownedHit_eq_ok_iff, List.map_take, List.map_take, mapM_ownedHit_eq_ok_iff.mp h]

theorem length_of_mapM_ownedHit (h : hits.mapM ownedHit = .ok owned) :
    owned.length = hits.length := by
  have hlength := congrArg List.length (mapM_ownedHit_eq_ok_iff.mp h)
  rwa [List.length_map, List.length_map] at hlength

/-- Behind an owned hit at a place stands the hit at that place. -/
theorem getElem?_of_mapM_ownedHit (h : hits.mapM ownedHit = .ok owned) {i : Nat}
    {p : String × Binary32} (hp : owned[i]? = some p) :
    ∃ hit, hits[i]? = some hit ∧ AliasKey.owner? hit.key = some p.1 ∧ hit.similarity = p.2 := by
  have hplace := congrArg (fun l => l[i]?) (mapM_ownedHit_eq_ok_iff.mp h)
  simp only [List.getElem?_map, hp, Option.map_some] at hplace
  obtain ⟨hit, hhit, hreading⟩ := Option.map_eq_some_iff.mp hplace.symm
  obtain ⟨howner, hsimilarity⟩ := Prod.ext_iff.mp hreading
  exact ⟨hit, hhit, howner, hsimilarity⟩

/-- A hit whose key names an owner is among the owned hits. -/
theorem mem_of_mapM_ownedHit (h : hits.mapM ownedHit = .ok owned) {hit : IndexHit}
    (hhit : hit ∈ hits) {owner : String} (howner : AliasKey.owner? hit.key = some owner) :
    (owner, hit.similarity) ∈ owned := by
  have hreading := List.mem_map_of_mem (f := reading) hhit
  rw [← mapM_ownedHit_eq_ok_iff.mp h, reading, howner] at hreading
  obtain ⟨p, hp, heq⟩ := List.mem_map.mp hreading
  obtain ⟨hfst, hsnd⟩ := Prod.ext_iff.mp heq
  have hsame : p = (owner, hit.similarity) := Prod.ext (Option.some.inj hfst) hsnd
  exact hsame ▸ hp

/-- Reading the keys of hits leaves their order as it is. -/
theorem pairwise_of_mapM_ownedHit (h : hits.mapM ownedHit = .ok owned)
    (hfall : hits.Pairwise fun a b => b.similarity.precedes a.similarity = true) :
    owned.Pairwise fun a b => b.2.precedes a.2 = true := by
  have hreading : (hits.map reading).Pairwise fun a b => b.2.precedes a.2 = true :=
    List.pairwise_map.mpr hfall
  rw [← mapM_ownedHit_eq_ok_iff.mp h] at hreading
  exact List.pairwise_map.mp hreading

/-- An owner has as many owned hits as there are keys that name it. -/
theorem countP_of_mapM_ownedHit (h : hits.mapM ownedHit = .ok owned) (owner : String) :
    owned.countP (fun p => p.1 == owner) =
      (hits.map IndexHit.key).countP fun key => AliasKey.owner? key == some owner := by
  have hcount := congrArg (List.countP fun p => p.1 == some owner) (mapM_ownedHit_eq_ok_iff.mp h)
  rw [List.countP_map, List.countP_map] at hcount
  rw [List.countP_map]
  exact hcount

end Owned

end Linker

/-! ## The records of owners -/

/-- A candidate as a ranked hit: the identifier in place of the record. -/
def Candidate.asHit (c : Candidate) : RankedHit := ⟨c.entity.id, c.similarity, c.rank⟩

namespace Linker

variable {ε : Type}

theorem candidate?_eq_some {l : Linker ε} {h : RankedHit} {c : Candidate}
    (hc : l.candidate? h = some c) :
    l.catalog.get? c.entity.id = some c.entity ∧ c.asHit = h := by
  obtain ⟨e, he, rfl⟩ := Option.map_eq_some_iff.mp hc
  have hid : e.id = h.owner := (l.catalog.inverse.get?_eq_some_iff.mp he).2
  refine ⟨hid ▸ he, ?_⟩
  rw [Candidate.asHit, hid]

/-- Where all owners are registered, looking up their records drops no hit. -/
theorem map_asHit_filterMap {l : Linker ε} :
    ∀ {hits : List RankedHit}, (∀ h ∈ hits, (l.catalog.get? h.owner).isSome = true) →
      (hits.filterMap l.candidate?).map Candidate.asHit = hits := by
  intro hits
  induction hits with
  | nil => intro _; rfl
  | cons h rest ih =>
    intro hall
    -- the head is registered, so it becomes a candidate and stays
    have hhead : (l.candidate? h).isSome = true := by
      rw [candidate?, Option.isSome_map]
      exact hall h List.mem_cons_self
    obtain ⟨c, hc⟩ := Option.isSome_iff_exists.mp hhead
    rw [List.filterMap_cons_some hc, List.map_cons, (candidate?_eq_some hc).2,
      ih fun h' hh' => hall h' (List.mem_cons_of_mem _ hh')]

/-! ## How much is fetched -/

theorem fetchCount_le (l : Linker ε) (k : Nat) :
    l.fetchCount k ≤ k * l.settings.oversampling.toNat := Nat.min_le_left _ _

/-- What is fetched for `k` candidates holds the best hits of `k` owners, if none has too many. -/
theorem bestPerOwner_take_fetchCount {l : Linker ε} {owned : List (String × Binary32)}
    (hfew : ∀ owner, owned.countP (fun p => p.1 == owner) ≤ l.settings.oversampling.toNat)
    (hfit : owned.length < Whole.wordBound) (k : Nat) (bound : Binary32) :
    bestPerOwner (owned.take (l.fetchCount k)) k bound = bestPerOwner owned k bound := by
  by_cases hword : k * l.settings.oversampling.toNat ≤ Whole.wordBound - 1
  · refine bestPerOwner_take k bound hfew ?_
    rw [fetchCount, Nat.min_eq_left hword]
  · -- the product does not fit into a word, but then everything is fetched
    rw [List.take_of_length_le]
    rw [fetchCount, Nat.min_eq_right (Nat.le_of_not_le hword)]
    omega

/-! ## All of a search but the records -/

section Hits

variable [TextEncoder ε] {l : Linker ε} {mention : String} {k : Nat}

/-- A mention is answered without a look at the index: nothing is wanted, nothing is indexed, or the
mention has no feature. -/
def Passes (l : Linker ε) (mention : String) (k : Nat) : Prop :=
  k = 0 ∨ l.index.isEmpty = true ∨
    ∃ query, TextEncoder.encode l.encoder mention = .ok query ∧
      (DenseVector.norm query).isSame .zero = true

/-- The best hits for a mention, one for each owner. -/
def bestHits (l : Linker ε) (mention : String) (k : Nat) : Except LinkError (List RankedHit) := do
  if k = 0 ∨ l.index.isEmpty then return []
  let query ← (TextEncoder.encode l.encoder mention).mapError (.mention mention)
  if (DenseVector.norm query).isSame .zero then return []
  let hits ← (l.index.find query (l.fetchCount k)).mapError .index
  let owned ← hits.mapM ownedHit
  return bestPerOwner owned k l.settings.minSimilarity

/-- A mention that is passed over has no hits. -/
theorem bestHits_of_passes (h : l.Passes mention k) : l.bestHits mention k = .ok [] := by
  unfold bestHits
  by_cases hnone : k = 0 ∨ l.index.isEmpty = true
  · rw [if_pos hnone]
    rfl
  · obtain ⟨query, hquery, hnorm⟩ := (h.resolve_left (not_or.mp hnone).1).resolve_left
      (not_or.mp hnone).2
    rw [if_neg hnone, hquery, Except.mapError]
    simp only [bind, Except.bind, hnorm, if_true]
    rfl

/-- The best hits for a mention whose vector is not zero. -/
theorem bestHits_eq {query : DenseVector} {hits : List IndexHit} {owned : List (String × Binary32)}
    (hquery : TextEncoder.encode l.encoder mention = .ok query)
    (hnorm : (DenseVector.norm query).isSame .zero = false)
    (hhits : l.index.find query (l.fetchCount k) = .ok hits)
    (howned : hits.mapM ownedHit = .ok owned) :
    l.bestHits mention k = .ok (bestPerOwner owned k l.settings.minSimilarity) := by
  unfold bestHits
  by_cases hnone : k = 0 ∨ l.index.isEmpty = true
  · -- nothing was fetched, so the walk has nothing to walk down
    have hfetch : hits = [] := by
      rw [VectorIndex.find, if_pos] at hhits
      · exact (Except.ok.inj hhits).symm
      · refine hnone.imp_left fun hk => ?_
        rw [hk, fetchCount, Nat.zero_mul, Nat.zero_min]
    have hnothing : owned = [] := by
      rw [hfetch] at howned
      exact (Except.ok.inj howned).symm
    rw [if_pos hnone, hnothing]
    rfl
  · rw [if_neg hnone, hquery, Except.mapError]
    simp only [bind, Except.bind, hnorm, Bool.false_eq_true, if_false, hhits, Except.mapError,
      howned, pure, Except.pure]

/-- The steps to best hits that succeed. -/
theorem bestHits_eq_ok {best : List RankedHit} (h : l.bestHits mention k = .ok best) :
    (l.Passes mention k ∧ best = []) ∨
      ∃ query hits owned, TextEncoder.encode l.encoder mention = .ok query ∧
        l.index.find query (l.fetchCount k) = .ok hits ∧ hits.mapM ownedHit = .ok owned ∧
        best = bestPerOwner owned k l.settings.minSimilarity := by
  unfold bestHits at h
  by_cases hnone : k = 0 ∨ l.index.isEmpty = true
  · rw [if_pos hnone] at h
    exact Or.inl ⟨hnone.imp_right Or.inl, (Except.ok.inj h).symm⟩
  · rw [if_neg hnone] at h
    -- from here on each step either fails, which `h` excludes, or hands its result to the next
    cases hquery : TextEncoder.encode l.encoder mention with
    | error e =>
      rw [hquery] at h
      cases h
    | ok query =>
      rw [hquery, Except.mapError] at h
      simp only [bind, Except.bind] at h
      cases hnorm : (DenseVector.norm query).isSame .zero with
      | true =>
        rw [hnorm, if_pos rfl] at h
        exact Or.inl ⟨Or.inr (Or.inr ⟨query, hquery, hnorm⟩), (Except.ok.inj h).symm⟩
      | false =>
        rw [hnorm, if_neg Bool.false_ne_true] at h
        cases hhits : l.index.find query (l.fetchCount k) with
        | error e =>
          rw [hhits] at h
          cases h
        | ok hits =>
          rw [hhits, Except.mapError] at h
          cases howned : hits.mapM ownedHit with
          | error e =>
            simp only [howned] at h
            cases h
          | ok owned =>
            simp only [howned] at h
            exact Or.inr ⟨query, hits, owned, rfl, hhits, howned, (Except.ok.inj h).symm⟩

/-- What can fail on the way to best hits: the mention, the index, or the keys of the hits. -/
theorem bestHits_eq_error {error : LinkError} (h : l.bestHits mention k = .error error) :
    l.index.isEmpty = false ∧
      ((∃ cause, TextEncoder.encode l.encoder mention = .error cause ∧
          error = .mention mention cause) ∨
        ∃ query, TextEncoder.encode l.encoder mention = .ok query ∧
          ((∃ cause, l.index.find query (l.fetchCount k) = .error cause ∧ error = .index cause) ∨
            ∃ hits, l.index.find query (l.fetchCount k) = .ok hits ∧
              hits.mapM ownedHit = .error error)) := by
  unfold bestHits at h
  by_cases hnone : k = 0 ∨ l.index.isEmpty = true
  · rw [if_pos hnone] at h
    cases h
  · rw [if_neg hnone] at h
    refine ⟨by simpa using (not_or.mp hnone).2, ?_⟩
    -- each step either is the one that failed, or hands its result to the next
    cases hquery : TextEncoder.encode l.encoder mention with
    | error cause =>
      rw [hquery] at h
      exact Or.inl ⟨cause, rfl, (Except.error.inj h).symm⟩
    | ok query =>
      rw [hquery, Except.mapError] at h
      simp only [bind, Except.bind] at h
      refine Or.inr ⟨query, rfl, ?_⟩
      cases hnorm : (DenseVector.norm query).isSame .zero with
      | true =>
        rw [hnorm, if_pos rfl] at h
        cases h
      | false =>
        rw [hnorm, if_neg Bool.false_ne_true] at h
        cases hhits : l.index.find query (l.fetchCount k) with
        | error cause =>
          rw [hhits] at h
          exact Or.inl ⟨cause, rfl, (Except.error.inj h).symm⟩
        | ok hits =>
          rw [hhits, Except.mapError] at h
          refine Or.inr ⟨hits, rfl, ?_⟩
          cases howned : hits.mapM ownedHit with
          | error cause =>
            simp only [howned] at h
            exact congrArg Except.error (Except.error.inj h)
          | ok owned =>
            simp only [howned] at h
            cases h

end Hits

/-! ## The search as a whole -/

variable [TextEncoder ε] {l : Linker ε} {mention : String} {k : Nat}

/-- A search looks up the records of its best hits, and does nothing else with the catalog. -/
theorem find_eq_map_bestHits (l : Linker ε) (mention : String) (k : Nat) :
    l.find mention k = (l.bestHits mention k).map (List.filterMap l.candidate?) := by
  unfold find bestHits
  by_cases hnone : k = 0 ∨ l.index.isEmpty = true
  · rw [if_pos hnone, if_pos hnone]
    rfl
  · rw [if_neg hnone, if_neg hnone]
    -- the two go the same way until one step fails for both, or the last is done
    cases TextEncoder.encode l.encoder mention with
    | error cause => rfl
    | ok query =>
      simp only [Except.mapError, bind, Except.bind]
      cases (DenseVector.norm query).isSame .zero with
      | true => rfl
      | false =>
        simp only [Bool.false_eq_true, if_false]
        cases l.index.find query (l.fetchCount k) with
        | error cause => rfl
        | ok hits =>
          cases howned : hits.mapM ownedHit with
          | error cause =>
            simp only [howned]
            rfl
          | ok owned =>
            simp only [howned]
            rfl

/-- A mention that is passed over is answered by nothing. -/
theorem find_of_passes (h : l.Passes mention k) : l.find mention k = .ok [] := by
  rw [find_eq_map_bestHits, bestHits_of_passes h]
  rfl

/-- What is found for a mention whose vector is not zero. -/
theorem find_eq {query : DenseVector} {hits : List IndexHit} {owned : List (String × Binary32)}
    (hquery : TextEncoder.encode l.encoder mention = .ok query)
    (hnorm : (DenseVector.norm query).isSame .zero = false)
    (hhits : l.index.find query (l.fetchCount k) = .ok hits)
    (howned : hits.mapM ownedHit = .ok owned) :
    l.find mention k =
      .ok ((bestPerOwner owned k l.settings.minSimilarity).filterMap l.candidate?) := by
  rw [find_eq_map_bestHits, bestHits_eq hquery hnorm hhits howned]
  rfl

/-- Where similarities fall along the slots as it is, nothing has to be sorted. -/
theorem find_eq_of_pairwise {query : DenseVector} {scored : List IndexHit}
    {owned : List (String × Binary32)} (hscored : l.index.scored query = scored)
    (hquery : TextEncoder.encode l.encoder mention = .ok query)
    (hnorm : (DenseVector.norm query).isSame .zero = false)
    (hwidth : query.size = l.index.dimensions)
    (haccepts : l.index.settings.metric.accepts (DenseVector.norm query) = true)
    (hfall : scored.Pairwise fun a b => b.similarity.precedes a.similarity = true)
    (howned : (scored.take (l.fetchCount k)).mapM ownedHit = .ok owned) :
    l.find mention k =
      .ok ((bestPerOwner owned k l.settings.minSimilarity).filterMap l.candidate?) := by
  refine find_eq hquery hnorm ?_ howned
  rw [VectorIndex.find_of_width hwidth, VectorIndex.complete, if_pos haccepts, VectorIndex.ranked,
    hscored, sortBySimilarity_of_pairwise hfall]

/-- The steps of a search that succeeds. -/
theorem find_eq_ok {cs : List Candidate} (h : l.find mention k = .ok cs) :
    (l.Passes mention k ∧ cs = []) ∨
      ∃ query hits owned, TextEncoder.encode l.encoder mention = .ok query ∧
        l.index.find query (l.fetchCount k) = .ok hits ∧ hits.mapM ownedHit = .ok owned ∧
        cs = (bestPerOwner owned k l.settings.minSimilarity).filterMap l.candidate? := by
  rw [find_eq_map_bestHits] at h
  cases hbest : l.bestHits mention k with
  | error e =>
    rw [hbest] at h
    cases h
  | ok best =>
    rw [hbest] at h
    obtain rfl := Except.ok.inj h
    rcases bestHits_eq_ok hbest with
      ⟨hpasses, rfl⟩ | ⟨query, hits, owned, hquery, hhits, howned, rfl⟩
    · exact Or.inl ⟨hpasses, rfl⟩
    · exact Or.inr ⟨query, hits, owned, hquery, hhits, howned, rfl⟩

/-- What a search that fails fails at: the mention, the index, or the keys of the hits. -/
theorem find_eq_error {error : LinkError} (h : l.find mention k = .error error) :
    l.index.isEmpty = false ∧
      ((∃ cause, TextEncoder.encode l.encoder mention = .error cause ∧
          error = .mention mention cause) ∨
        ∃ query, TextEncoder.encode l.encoder mention = .ok query ∧
          ((∃ cause, l.index.find query (l.fetchCount k) = .error cause ∧ error = .index cause) ∨
            ∃ hits, l.index.find query (l.fetchCount k) = .ok hits ∧
              hits.mapM ownedHit = .error error)) := by
  rw [find_eq_map_bestHits] at h
  cases hbest : l.bestHits mention k with
  | error cause =>
    rw [hbest] at h
    obtain rfl : cause = error := Except.error.inj h
    exact bestHits_eq_error hbest
  | ok best =>
    rw [hbest] at h
    cases h

end Linker

end Gazetteer
