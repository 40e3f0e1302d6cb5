import Gazetteer.Proofs.Linking.Serving

/-!
# Asking for more

Who asks for more candidates gets the same ones first: **an answer is the front of every longer
answer to the same mention**, with the same records, similarities and ranks
(`exists_prefix_find_run`).

That is not plain, because the number wanted has two effects on a search. The walk down the ranking
stops at that number, and the ranking that it walks down is cut at a multiple of it. But the shorter
ranking is a front of the longer one, and the walk keeps the first hit of each owner, so that a hit
it keeps in the one ranking it keeps in the other (`bestPerOwner_take_eq_filter`). A candidate is
missing from the shorter answer for one of two reasons, and both can be read off the longer one: it
is not among the first `k`, or its rank is past the cut (`bestHits_of_le`).
-/

set_option autoImplicit false

namespace Gazetteer

namespace Linker

/-! ## Candidates in front -/

section Front

variable {ε : Type} {l : Linker ε} {k wanted : Nat}

theorem fetchCount_mono (l : Linker ε) (hle : k ≤ wanted) :
    l.fetchCount k ≤ l.fetchCount wanted := by
  have hproduct := Nat.mul_le_mul_right l.settings.oversampling.toNat hle
  unfold fetchCount
  omega

/-- The candidates of an answer that are left when fewer are wanted. -/
def front (l : Linker ε) (k : Nat) (cs : List Candidate) : List Candidate :=
  (cs.take k).filter fun c => c.rank ≤ l.fetchCount k

/-- Ranks rise, so those past the cut stand at the end. -/
theorem front_prefix {cs : List Candidate} (hrise : cs.Pairwise fun a b => a.rank < b.rank) :
    l.front k cs <+: cs := by
  rw [front, ← takeWhile_rank_eq_filter (hrise.sublist (List.take_sublist _ _))]
  exact (List.takeWhile_prefix _).trans (List.take_prefix _ _)

/-- Records can be looked up before or after hits are cut off, if every owner has one. -/
theorem filterMap_candidate?_take :
    ∀ {best : List RankedHit} (k : Nat), (∀ h ∈ best, (l.catalog.get? h.owner).isSome = true) →
      (best.take k).filterMap l.candidate? = (best.filterMap l.candidate?).take k := by
  intro best
  induction best with
  | nil => intro k _; rw [List.take_nil, List.filterMap_nil, List.take_nil]
  | cons h rest ih =>
    intro k hregistered
    cases k with
    | zero => rfl
    | succ k =>
      -- the head becomes a candidate, so it takes a place in both lists
      obtain ⟨e, he⟩ := Option.isSome_iff_exists.mp (hregistered h List.mem_cons_self)
      have hhead : l.candidate? h = some ⟨e, h.similarity, h.rank⟩ := by
        rw [candidate?, he, Option.map_some]
      rw [List.take_succ_cons, List.filterMap_cons_some hhead, List.filterMap_cons_some hhead,
        List.take_succ_cons, ih k fun h' hm => hregistered h' (List.mem_cons_of_mem _ hm)]

/-- A candidate has the rank of its hit. -/
theorem filterMap_candidate?_filter (best : List RankedHit) (cut : Nat) :
    (best.filter fun h => h.rank ≤ cut).filterMap l.candidate? =
      (best.filterMap l.candidate?).filter fun c => c.rank ≤ cut := by
  rw [List.filterMap_filter, List.filter_filterMap]
  refine List.filterMap_congr fun h _ => ?_
  rw [candidate?]
  cases l.catalog.get? h.owner with
  | none => simp
  | some e => by_cases hcut : h.rank ≤ cut <;> simp [hcut, Option.filter]

end Front

variable {ε : Type} [TextEncoder ε] {l : Linker ε} {mention : String} {k wanted : Nat}

/-! ## Fewer wanted -/

theorem Passes.of_le (hle : k ≤ wanted) (h : l.Passes mention wanted) : l.Passes mention k :=
  h.imp_left fun hzero => Nat.le_zero.mp (Nat.le_trans hle (Nat.le_of_eq hzero))

/-- The best hits when fewer are wanted: those in front, as far as they are fetched then. -/
theorem bestHits_of_le (hle : k ≤ wanted) {best : List RankedHit}
    (h : l.bestHits mention wanted = .ok best) :
    l.bestHits mention k = .ok ((best.take k).filter fun h => h.rank ≤ l.fetchCount k) := by
  by_cases hpasses : l.Passes mention wanted
  · rw [bestHits_of_passes hpasses] at h
    rw [bestHits_of_passes (hpasses.of_le hle), ← Except.ok.inj h, List.take_nil, List.filter_nil]
  · rcases bestHits_eq_ok h with ⟨hpasses', -⟩ | ⟨query, hits, owned, hquery, hhits, howned, rfl⟩
    · exact absurd hpasses' hpasses
    · have hnorm : (DenseVector.norm query).isSame .zero = false :=
        Bool.eq_false_iff.mpr fun hzero => hpasses (Or.inr (Or.inr ⟨query, hquery, hzero⟩))
      -- what is fetched for fewer is the front of what is fetched for more
      have hfetch := VectorIndex.find_of_le (l.fetchCount_mono hle) hhits
      rw [bestHits_eq hquery hnorm hfetch (mapM_ownedHit_take _ howned),
        bestPerOwner_take_eq_filter hle]

theorem OwnersRegistered.find_of_le (hl : l.OwnersRegistered) (hle : k ≤ wanted)
    {more : List Candidate} (h : l.find mention wanted = .ok more) :
    l.find mention k = .ok (l.front k more) := by
  rw [find_eq_map_bestHits] at h ⊢
  cases hbest : l.bestHits mention wanted with
  | error e =>
    rw [hbest] at h
    cases h
  | ok best =>
    rw [hbest] at h
    rw [bestHits_of_le hle hbest, ← Except.ok.inj h, front,
      ← filterMap_candidate?_take k (hl.of_bestHits hbest), ← filterMap_candidate?_filter]
    rfl

/-! ## After every run -/

/--
**An answer is the front of every longer answer**: the candidates among the first `k` whose ranks
are not past what is fetched for `k`. Where there is the longer answer, there is the shorter one.
-/
theorem exists_prefix_find_run {l₀ : Linker ε} (hnew : l₀.IsNew) (requests : List Request)
    {mention : String} {k wanted : Nat} (hle : k ≤ wanted) {more : List Candidate}
    (h : (l₀.run requests).find mention wanted = .ok more) :
    ∃ cs, (l₀.run requests).find mention k = .ok cs ∧ cs <+: more ∧
      cs = (l₀.run requests).front k more := by
  have hl := ownersRegistered_run hnew requests
  exact ⟨_, hl.find_of_le hle h, front_prefix (hl.soundAnswer h).ranks_rise, rfl⟩

/-- Of the two directions that are found when two are wanted, the first is found when one is. -/
theorem exists_prefix_find_resurvey :
    compass.IsNew ∧ 1 ≤ 2 ∧
      ∃ c more, (compass.run resurvey).find "north east" 2 = .ok (c :: more) ∧ more ≠ [] ∧
        (compass.run resurvey).find "north east" 1 = .ok [c] ∧ [c] <+: c :: more := by
  obtain ⟨cs, hfind, hfront, hcs⟩ :=
    exists_prefix_find_run isNew_compass resurvey (Nat.le_succ 1) find_resurvey
  have hone : cs = [⟨(Entity.ofName "NE" "north east").withDescription "where roads cross", .one,
      1⟩] := by
    rw [hcs]
    decide +kernel
  subst hone
  exact ⟨isNew_compass, by decide, _, _, find_resurvey, List.cons_ne_nil _ _, hfind, hfront⟩

end Linker

end Gazetteer
