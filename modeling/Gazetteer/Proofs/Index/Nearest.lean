import Gazetteer.Proofs.Index.Runs

/-!
# A search is exact

Some indexes answer quickly and approximately. This one compares the query with every vector, and so
its answer can be said without the search: **there is one way to arrange all keys by descending
similarity and, where that is the same, by slot** (`NearestFirst.unique`), **and a search finds the
head of this arrangement** (`exactSearch_run`).

The arrangement is described by what can be looked up, the keys with their slots and the vectors
under the keys, and not by the columns that the search goes through. The order is that of
`Binary32.precedes`; it has a place for every similarity, also for those that are no numbers, and no
two places for one. That is why the arrangement exists and why there is no other.
-/

set_option autoImplicit false

namespace Gazetteer

namespace VectorIndex

variable {dimensions : Nat} {x : VectorIndex} {query : DenseVector}

/-! ## The arrangement -/

/-- All keys of an index with their slots and their similarities to a query, the nearest first. -/
structure NearestFirst (x : VectorIndex) (query : DenseVector)
    (arrangement : List (IndexHit × Nat)) : Prop where
  /-- Each key stands in it once, with its slot. -/
  all : (arrangement.map fun hit => (hit.1.key, hit.2)).Perm x.keys.zipIdx
  /-- It has the similarity of the vector under the key. -/
  similarity : ∀ hit ∈ arrangement, ∃ vector, x.get? hit.1.key = some vector ∧
    hit.1.similarity = x.settings.metric.similarity query (DenseVector.norm query) vector
      (DenseVector.norm vector)
  /-- What is more similar stands first, and of the equally similar what has the earlier slot. -/
  descends : arrangement.Pairwise fun a b => outranks IndexHit.similarity a b = true

/-- Key and slot determine the hit, because the key determines the similarity. -/
theorem NearestFirst.map_eq {arrangement : List (IndexHit × Nat)}
    (h : x.NearestFirst query arrangement) :
    (arrangement.map fun hit => (hit.1.key, hit.2)).map (fun p =>
        (IndexHit.mk p.1 (((x.get? p.1).map fun vector => x.settings.metric.similarity query
          (DenseVector.norm query) vector (DenseVector.norm vector)).getD .zero), p.2)) =
      arrangement := by
  rw [List.map_map]
  refine (List.map_congr_left fun hit hhit => ?_).trans (List.map_id arrangement)
  obtain ⟨vector, hget, hsimilarity⟩ := h.similarity hit hhit
  obtain ⟨⟨key, similarity⟩, slot⟩ := hit
  simp only [Function.comp_apply, hget, Option.map_some, Option.getD_some, id_eq]
  exact congrArg (fun s => (IndexHit.mk key s, slot)) hsimilarity.symm

/-- There is only one such arrangement. -/
theorem NearestFirst.unique {one other : List (IndexHit × Nat)} (h : x.NearestFirst query one)
    (h' : x.NearestFirst query other) : other = one := by
  have hperm : other.Perm one := by
    rw [← h'.map_eq, ← h.map_eq]
    exact (h'.all.trans h.all.symm).map _
  exact eq_of_pairwise_outranks hperm h'.descends h.descends

/-! ## The search and the arrangement -/

theorem Filled.get?_of_mem (h : x.Filled dimensions) {s : StoredVector} (hs : s ∈ x.stored) :
    x.get? s.key = some s.vector := by
  have hkey : s.key ∈ x.keys := List.mem_map_of_mem hs
  obtain ⟨t, ht⟩ := Option.isSome_iff_exists.mp
    (Option.isSome_map.symm.trans ((x.isSome_get?_iff s.key).mpr hkey))
  have hsame : t = s := by
    refine List.inj_on_of_nodup_map h.once (List.mem_of_find?_eq_some ht) hs ?_
    simpa using List.find?_some ht
  rw [get?, ht, hsame, Option.map_some]

/-- Sorting the scores of all slots makes the arrangement. -/
theorem Filled.nearestFirst_rankedSlots (h : x.Filled dimensions) (query : DenseVector) :
    x.NearestFirst query (rankedSlots IndexHit.similarity (x.scored query)) where
  all := by
    rw [← map_key_scored x query, List.zipIdx_map]
    exact (rankedSlots_perm _).map _
  similarity := by
    rintro hit hhit
    have hscored : hit.1 ∈ x.scored query :=
      List.fst_mem_of_mem_zipIdx ((rankedSlots_perm _).mem_iff.mp hhit)
    obtain ⟨s, hs, heq⟩ := List.mem_map.mp hscored
    rw [← heq]
    refine ⟨s.vector, h.get?_of_mem hs, ?_⟩
    rw [(h.rows s hs).2]
  descends := pairwise_rankedSlots _

/-- A search that compares at all finds the head of the arrangement. -/
theorem Filled.find_of_nearestFirst (h : x.Filled dimensions)
    {arrangement : List (IndexHit × Nat)} (harrangement : x.NearestFirst query arrangement)
    (hwidth : query.size = x.dimensions)
    (haccepts : x.settings.metric.accepts (DenseVector.norm query) = true) (k : Nat) :
    x.find query k = .ok ((arrangement.take k).map Prod.fst) := by
  rw [find_of_width hwidth, complete, if_pos haccepts, ranked, ← map_fst_rankedSlots,
    harrangement.unique (h.nearestFirst_rankedSlots query), List.map_take]

/-! ## Every search -/

/-- What a search says, for any query and any number of hits. -/
structure ExactSearch (x : VectorIndex) (query : DenseVector) (k : Nat) : Prop where
  /-- It fails only for the width of the query, and only if there is something to find. -/
  error : ∀ e, x.find query k = .error e ↔
    (k ≠ 0 ∧ x.isEmpty = false ∧ query.size ≠ x.dimensions) ∧
      e = .queryWidth x.dimensions query.size
  /-- It finds nothing only if nothing is wanted or stored, or the query cannot be compared. -/
  nothing : x.find query k = .ok [] ↔
    k = 0 ∨ x.isEmpty = true ∨ query.size = x.dimensions ∧
      x.settings.metric.accepts (DenseVector.norm query) = false
  /-- Else it finds the head of the one arrangement of all keys, as much as there is of it, and
  every key that it leaves out stands behind those that it finds. -/
  nearest : query.size = x.dimensions →
    x.settings.metric.accepts (DenseVector.norm query) = true →
    ∃ arrangement, x.NearestFirst query arrangement ∧
      (∀ other, x.NearestFirst query other → other = arrangement) ∧
      x.find query k = .ok ((arrangement.take (min k x.size)).map Prod.fst) ∧
      ∀ found ∈ arrangement.take (min k x.size), ∀ left ∈ arrangement.drop (min k x.size),
        outranks IndexHit.similarity found left = true ∧
          outranks IndexHit.similarity left found = false
  /-- As far as similarities are numbers, they fall. -/
  falls : ∀ hits, x.find query k = .ok hits → hits.Pairwise fun a b =>
    a.similarity.isNaN = false → b.similarity.isNaN = false →
      b.similarity.isAtMost a.similarity = true
  /-- What is no number comes before all numbers, or with a sign bit behind them. -/
  ends : ∀ hits, x.find query k = .ok hits → hits.Pairwise fun a b =>
    (b.similarity.isNaN = true → a.similarity.isNaN = false → b.similarity.isNegative = true) ∧
      (b.similarity.isNaN = false → a.similarity.isNaN = true → a.similarity.isNegative = false)

/-- A search that compares at all finds something if there is anything to find. -/
theorem find_eq_ok_nil_iff {k : Nat} :
    x.find query k = .ok [] ↔
      k = 0 ∨ x.isEmpty = true ∨ query.size = x.dimensions ∧
        x.settings.metric.accepts (DenseVector.norm query) = false := by
  rw [find]
  by_cases hnone : k = 0 ∨ x.isEmpty = true
  · rw [if_pos hnone]
    exact ⟨fun _ => hnone.imp_right Or.inl, fun _ => rfl⟩
  · obtain ⟨hk, hempty⟩ := not_or.mp hnone
    rw [if_neg hnone]
    simp only [hk, hempty, false_or]
    by_cases hwidth : query.size = x.dimensions
    · rw [if_neg (not_not_intro hwidth)]
      cases haccepts : x.settings.metric.accepts (DenseVector.norm query) with
      | false => simp [hwidth]
      | true =>
        -- the ranking has a first hit, because it is as long as the index
        have hstored : x.stored ≠ [] := fun h => hempty (List.isEmpty_iff.mpr h)
        have hranked : x.ranked query ≠ [] := fun h => hstored
          (List.eq_nil_of_length_eq_zero ((x.length_ranked query).symm.trans (by rw [h]; rfl)))
        simp [hk, hranked]
    · simp [hwidth]

/-- The arrangement has one place for each key. -/
theorem NearestFirst.length_eq {arrangement : List (IndexHit × Nat)}
    (h : x.NearestFirst query arrangement) : arrangement.length = x.size := by
  have hlength := h.all.length_eq
  rwa [List.length_map, List.length_zipIdx, keys, List.length_map] at hlength

/-- Wherever the arrangement is cut, all of the front outranks all of the rest. -/
theorem NearestFirst.outranks_of_take {arrangement : List (IndexHit × Nat)}
    (h : x.NearestFirst query arrangement) (n : Nat) {found left : IndexHit × Nat}
    (hfound : found ∈ arrangement.take n) (hleft : left ∈ arrangement.drop n) :
    outranks IndexHit.similarity found left = true := by
  have hdescends := h.descends
  rw [← List.take_append_drop n arrangement, List.pairwise_append] at hdescends
  exact hdescends.2.2 found hfound left hleft

/-- Hits descend in the total order. -/
theorem pairwise_precedes_of_find {k : Nat} {hits : List IndexHit}
    (h : x.find query k = .ok hits) :
    hits.Pairwise fun a b => b.similarity.precedes a.similarity = true :=
  (pairwise_sortBySimilarity _).sublist (find_eq_ok h).1.sublist

/-- **Every search is exact**, after every run and for every query. -/
theorem exactSearch_run (dimensions : Nat) (settings : IndexSettings) (requests : List Request)
    (query : DenseVector) (k : Nat) :
    ExactSearch ((ofSettings dimensions settings).run requests) query k := by
  have h := (filled_ofSettings dimensions settings).run requests
  generalize (ofSettings dimensions settings).run requests = x at h
  exact {
    error := fun e => find_eq_error_iff
    nothing := find_eq_ok_nil_iff
    falls := fun hits hfind => (pairwise_precedes_of_find hfind).imp
      fun hprecedes ha hb => Binary32.isAtMost_of_precedes hb ha hprecedes
    ends := fun hits hfind => (pairwise_precedes_of_find hfind).imp
      Binary32.isNegative_of_precedes
    nearest := by
      intro hwidth haccepts
      have harrangement := h.nearestFirst_rankedSlots query
      refine ⟨_, harrangement, fun other hother => harrangement.unique hother, ?_, ?_⟩
      · -- beyond its end there is nothing to take
        rw [← harrangement.length_eq, ← List.take_eq_take_min]
        exact h.find_of_nearestFirst harrangement hwidth haccepts k
      · intro found hfound left hleft
        have houtranks := harrangement.outranks_of_take _ hfound hleft
        exact ⟨houtranks, outranks_asymm houtranks⟩ }

end VectorIndex

end Gazetteer
