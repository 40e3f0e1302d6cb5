import Gazetteer.Proofs.Index.Ranking
import Gazetteer.Index.VectorIndex

/-!
# What a search of the index returns

A search scores all keys, sorts them and cuts the list. A query whose width is not that of the index
is an error (`find_eq_error_iff`), and one that the metric cannot compare finds nothing. With these
cases put into `complete`, a search is a front part of one ranking (`find_of_width`,
`eq_take_of_find`), so that a search for fewer hits is a front part of it (`find_of_le`), and this
ranking has each key once (`map_key_ranked_perm`).
-/

set_option autoImplicit false

namespace Gazetteer

namespace VectorIndex

variable {x : VectorIndex} {query : DenseVector}

theorem map_key_scored (x : VectorIndex) (query : DenseVector) :
    (x.scored query).map IndexHit.key = x.keys := by
  simp [scored, keys]

theorem length_ranked (x : VectorIndex) (query : DenseVector) :
    (x.ranked query).length = x.size := by
  rw [ranked, (sortBySimilarity_perm _).length_eq, scored, List.length_map, size]

/-- The ranking of all keys, as far as the metric can compare the query at all. -/
def complete (x : VectorIndex) (query : DenseVector) : List IndexHit :=
  if x.settings.metric.accepts (DenseVector.norm query) then x.ranked query else []

theorem length_complete_le (x : VectorIndex) (query : DenseVector) :
    (x.complete query).length ≤ x.size := by
  unfold complete
  split
  · exact Nat.le_of_eq (x.length_ranked query)
  · exact Nat.zero_le _

theorem complete_of_isEmpty (h : x.isEmpty = true) : x.complete query = [] := by
  have hsize : x.size = 0 := by
    rw [size, List.isEmpty_iff.mp h, List.length_nil]
  exact List.eq_nil_of_length_eq_zero (Nat.le_zero.mp (hsize ▸ x.length_complete_le query))

/-- A search with a query of the right width cuts the complete ranking. -/
theorem find_of_width (hwidth : query.size = x.dimensions) (k : Nat) :
    x.find query k = .ok ((x.complete query).take k) := by
  unfold find
  by_cases hnone : k = 0 ∨ x.isEmpty = true
  · rw [if_pos hnone]
    rcases hnone with rfl | hempty
    · rw [List.take_zero]
    · rw [complete_of_isEmpty hempty, List.take_nil]
  · rw [if_neg hnone, if_neg (not_not_intro hwidth), complete]
    cases x.settings.metric.accepts (DenseVector.norm query) <;> simp

theorem find_size (hwidth : query.size = x.dimensions) :
    x.find query x.size = .ok (x.complete query) := by
  rw [find_of_width hwidth, List.take_of_length_le (x.length_complete_le query)]

theorem complete_prefix_ranked (x : VectorIndex) (query : DenseVector) :
    x.complete query <+: x.ranked query := by
  unfold complete
  split
  · exact List.prefix_rfl
  · exact List.nil_prefix

/-- Whatever a search returns is the head of the complete ranking. -/
theorem eq_take_of_find {k : Nat} {hits : List IndexHit} (h : x.find query k = .ok hits) :
    hits = (x.complete query).take k := by
  by_cases hwidth : query.size = x.dimensions
  · rw [find_of_width hwidth] at h
    exact (Except.ok.inj h).symm
  · -- with a query of another width a search succeeds only where there is nothing to find
    rw [find] at h
    by_cases hnone : k = 0 ∨ x.isEmpty = true
    · rw [if_pos hnone] at h
      obtain rfl := Except.ok.inj h
      rcases hnone with rfl | hempty
      · rw [List.take_zero]
      · rw [complete_of_isEmpty hempty, List.take_nil]
    · rw [if_neg hnone, if_pos hwidth] at h
      cases h

/-- A search that succeeds does so for fewer hits too, and finds the first of those. -/
theorem find_of_le {k wanted : Nat} (hle : k ≤ wanted) {hits : List IndexHit}
    (h : x.find query wanted = .ok hits) : x.find query k = .ok (hits.take k) := by
  rw [eq_take_of_find h, List.take_take, Nat.min_eq_left hle]
  by_cases hwidth : query.size = x.dimensions
  · exact find_of_width hwidth k
  · rw [find] at h ⊢
    by_cases hnone : wanted = 0 ∨ x.isEmpty = true
    · have hnone' : k = 0 ∨ x.isEmpty = true := hnone.imp_left fun hw => by omega
      rw [if_pos hnone']
      rcases hnone' with rfl | hempty
      · rw [List.take_zero]
      · rw [complete_of_isEmpty hempty, List.take_nil]
    · rw [if_neg hnone, if_pos hwidth] at h
      cases h

/-- A search fails if there is something to find for a query of another width. -/
theorem find_eq_error_iff {k : Nat} {e : IndexError} :
    x.find query k = .error e ↔
      (k ≠ 0 ∧ x.isEmpty = false ∧ query.size ≠ x.dimensions) ∧
        e = .queryWidth x.dimensions query.size := by
  rw [find]
  by_cases hnone : k = 0 ∨ x.isEmpty = true
  · rw [if_pos hnone]
    refine ⟨nofun, fun ⟨⟨hk, hempty, _⟩, _⟩ => ?_⟩
    rcases hnone with hzero | hisEmpty
    · exact absurd hzero hk
    · exact absurd (hisEmpty.symm.trans hempty) (by decide)
  · obtain ⟨hk, hempty⟩ := not_or.mp hnone
    rw [if_neg hnone]
    by_cases hwidth : query.size = x.dimensions
    · rw [if_neg (not_not_intro hwidth)]
      refine ⟨fun h => ?_, fun ⟨⟨_, _, hother⟩, _⟩ => absurd hwidth hother⟩
      split at h <;> cases h
    · rw [if_pos hwidth, Except.error.injEq]
      exact ⟨fun h => ⟨⟨hk, Bool.eq_false_iff.mpr hempty, hwidth⟩, h.symm⟩, fun h => h.2.symm⟩

/-- What a search returns is the head of the ranking, and no longer than it was asked for. -/
theorem find_eq_ok {k : Nat} {hits : List IndexHit} (h : x.find query k = .ok hits) :
    hits <+: x.ranked query ∧ hits.length ≤ k := by
  rw [eq_take_of_find h]
  exact ⟨(List.take_prefix _ _).trans (x.complete_prefix_ranked query), List.length_take_le _ _⟩

theorem map_key_ranked_perm (x : VectorIndex) (query : DenseVector) :
    ((x.ranked query).map IndexHit.key).Perm x.keys := by
  rw [← map_key_scored x query]
  exact (sortBySimilarity_perm _).map _

theorem countP_key_complete_le (x : VectorIndex) (query : DenseVector) (p : String → Bool) :
    ((x.complete query).map IndexHit.key).countP p ≤ x.keys.countP p := by
  unfold complete
  split
  · exact Nat.le_of_eq ((x.map_key_ranked_perm query).countP_eq p)
  · exact Nat.zero_le _

theorem key_mem_keys_of_mem_ranked {hit : IndexHit} (h : hit ∈ x.ranked query) :
    hit.key ∈ x.keys :=
  (x.map_key_ranked_perm query).mem_iff.mp (List.mem_map_of_mem h)

theorem key_mem_keys_of_mem_complete {hit : IndexHit} (h : hit ∈ x.complete query) :
    hit.key ∈ x.keys :=
  key_mem_keys_of_mem_ranked ((x.complete_prefix_ranked query).mem h)

theorem key_mem_keys_of_find {k : Nat} {hits : List IndexHit} (h : x.find query k = .ok hits)
    {hit : IndexHit} (hhit : hit ∈ hits) : hit.key ∈ x.keys :=
  key_mem_keys_of_mem_ranked ((find_eq_ok h).1.mem hhit)

end VectorIndex

end Gazetteer
