import Gazetteer.Proofs.Index.Ranking

/-!
# Nothing is lost by stopping early

The walk down a ranking stops for two reasons: a hit that is at or below the bound, or enough
owners. `bestAbove` is the answer of somebody who never stops: it takes all hits above the bound,
wherever they stand, and keeps the first of each owner, with its place among all hits.

**The walk finds the head of that list** (`stopsWithoutLoss_sortBySimilarity`), so an owner with a hit
above the bound is missed only if there are enough others before it. It takes three things for this:
hits that are ranked, similarities that are numbers, and a bound that is one. In the order of the
ranking the two zeros are different and as values they are not, so the argument is that values do not
rise along a ranking (`Binary32.isBelow_of_precedes`), although places may fall where values stay.
-/

set_option autoImplicit false

namespace Gazetteer

/-! ## First hits as first occurrences -/

/-- A hit with the number of hits before it, as a ranked hit. -/
def asRanked (hit : (String × Binary32) × Nat) : RankedHit := ⟨hit.1.1, hit.1.2, hit.2 + 1⟩

def sameOwner (a b : (String × Binary32) × Nat) : Bool := a.1.1 == b.1.1

/-- First hits are what is left when later hits of an owner are erased. -/
theorem firstHitsFrom_eq :
    ∀ (hits : List (String × Binary32)) (seen : List String) (position : Nat),
      firstHitsFrom seen position hits =
        (((hits.zipIdx position).filter fun hit => decide (hit.1.1 ∉ seen)).eraseDupsBy
          sameOwner).map asRanked := by
  intro hits
  induction hits with
  | nil => intro seen position; rfl
  | cons hit rest ih =>
    intro seen position
    obtain ⟨owner, similarity⟩ := hit
    rw [firstHitsFrom, List.zipIdx_cons]
    by_cases hseen : owner ∈ seen
    · rw [if_pos hseen, List.filter_cons_of_neg (by simp [hseen]), ih]
    · -- from here on this owner counts as seen, which is to say that its later hits are erased
      have herase : ((rest.zipIdx (position + 1)).filter fun hit =>
            decide (hit.1.1 ∉ owner :: seen)) =
          ((rest.zipIdx (position + 1)).filter fun hit => decide (hit.1.1 ∉ seen)).filter
            fun hit => sameOwner hit ((owner, similarity), position) = false := by
        rw [List.filter_filter]
        refine List.filter_congr fun hit _ => ?_
        simp only [sameOwner, List.mem_cons, not_or, beq_eq_false_iff_ne, ne_eq,
          Bool.decide_and]
      rw [if_neg hseen, List.filter_cons_of_pos (by simp [hseen]), List.eraseDupsBy_cons,
        List.map_cons, ih, herase]
      rfl

/-! ## Stopping and leaving out -/

theorem zipIdx_takeWhile {α : Type} (p : α → Bool) :
    ∀ (l : List α) (n : Nat),
      (l.takeWhile p).zipIdx n = (l.zipIdx n).takeWhile fun hit => p hit.1 := by
  intro l
  induction l with
  | nil => intro n; rfl
  | cons a l ih =>
    intro n
    rw [List.zipIdx_cons]
    by_cases hp : p a = true
    · rw [List.takeWhile_cons_of_pos hp, List.zipIdx_cons, ih,
        List.takeWhile_cons_of_pos (by exact hp)]
    · rw [List.takeWhile_cons_of_neg hp, List.takeWhile_cons_of_neg (by exact hp)]
      rfl

/-! ## The walk and its specification -/

/-- The first hit of each owner among those above the bound, wherever they stand. -/
def bestAbove (hits : List (String × Binary32)) (bound : Binary32) : List RankedHit :=
  ((hits.zipIdx.filter fun hit => bound.isBelow hit.1.2).eraseDupsBy sameOwner).map asRanked

section Walk

variable {hits : List (String × Binary32)} {bound : Binary32}

/-- In a ranking of numbers, what stands before the first hit that stops the walk is above the
bound, and nothing else is. -/
theorem zipIdx_takeWhile_eq_filter (hnumbers : ∀ hit ∈ hits, hit.2.isNaN = false)
    (hbound : bound.isNaN = false)
    (hfall : hits.Pairwise fun a b => b.2.precedes a.2 = true) :
    (hits.takeWhile fun hit => !hit.2.isAtMost bound).zipIdx =
      hits.zipIdx.filter fun hit => bound.isBelow hit.1.2 := by
  have hplaced : ∀ {hit : (String × Binary32) × Nat}, hit ∈ hits.zipIdx → hit.1 ∈ hits :=
    fun h => List.fst_mem_of_mem_zipIdx h
  have htest : ∀ hit ∈ hits.zipIdx, (!hit.1.2.isAtMost bound) = bound.isBelow hit.1.2 :=
    fun hit h => Binary32.not_isAtMost_eq_isBelow (hnumbers _ (hplaced h)) hbound
  have hzip : hits.zipIdx.Pairwise fun a b => b.1.2.precedes a.1.2 = true := by
    rw [← List.zipIdx_map_fst 0 hits] at hfall
    exact List.pairwise_map.mp hfall
  have hkept : hits.zipIdx.Pairwise fun a b =>
      (!b.1.2.isAtMost bound) = true → (!a.1.2.isAtMost bound) = true := by
    refine hzip.imp_of_mem fun {a b} ha hb hprecedes hpassed => ?_
    rw [htest b hb] at hpassed
    rw [htest a ha]
    exact Binary32.isBelow_of_precedes hbound (hnumbers _ (hplaced hb)) (hnumbers _ (hplaced ha))
      hpassed hprecedes
  rw [zipIdx_takeWhile, takeWhile_eq_filter hkept]
  exact List.filter_congr htest

theorem firstHits_eq_bestAbove (hnumbers : ∀ hit ∈ hits, hit.2.isNaN = false)
    (hbound : bound.isNaN = false)
    (hfall : hits.Pairwise fun a b => b.2.precedes a.2 = true) :
    firstHitsFrom [] 0 (hits.takeWhile fun hit => !hit.2.isAtMost bound) =
      bestAbove hits bound := by
  rw [firstHitsFrom_eq, zipIdx_takeWhile_eq_filter hnumbers hbound hfall, bestAbove]
  refine congrArg (fun l => (List.eraseDupsBy sameOwner l).map asRanked) ?_
  rw [List.filter_eq_self]
  exact fun hit _ => by simp

/-- An owner whose hit is not stopped at is missed only if enough others stand before that hit. -/
theorem ranks_le_of_missed {wanted i : Nat} {hit : String × Binary32}
    (hhit : (hits.takeWhile fun hit => !hit.2.isAtMost bound)[i]? = some hit)
    (hmissed : ∀ h ∈ bestPerOwner hits wanted bound, h.owner ≠ hit.1) :
    (bestPerOwner hits wanted bound).length = wanted ∧
      ∀ h ∈ bestPerOwner hits wanted bound, h.rank ≤ i := by
  rw [bestPerOwner_eq_take] at hmissed ⊢
  have hrise := pairwise_rank_firstHitsFrom (hits.takeWhile fun hit => !hit.2.isAtMost bound) [] 0
  obtain ⟨first, hfirst, howner⟩ :=
    exists_mem_firstHitsFrom 0 (List.mem_of_getElem? hhit) List.not_mem_nil
  obtain ⟨-, j, hrank, -, hbefore⟩ := of_mem_firstHitsFrom hfirst
  have hle : first.rank ≤ i + 1 := by
    rw [hrank]
    refine Nat.le_of_not_lt fun hlt => ?_
    exact hbefore i (by omega) hit hhit howner.symm
  generalize firstHitsFrom [] 0 (hits.takeWhile fun hit => !hit.2.isAtMost bound) = all
    at hmissed hrise hfirst ⊢
  -- the first hit of the owner is among all first hits, and if it is missed it was cut off
  rw [← List.take_append_drop wanted all, List.mem_append] at hfirst
  have hcut : first ∈ all.drop wanted :=
    hfirst.resolve_left fun htaken => hmissed first htaken howner
  constructor
  · have hlength := List.length_pos_of_mem hcut
    rw [List.length_drop] at hlength
    rw [List.length_take]
    omega
  · intro h hm
    rw [← List.take_append_drop wanted all] at hrise
    have := (List.pairwise_append.mp hrise).2.2 h hm first hcut
    omega

end Walk

/-- What is known of the walk down a ranking, whatever number of owners is wanted. -/
structure StopsWithoutLoss (hits : List (String × Binary32)) (bound : Binary32) : Prop where
  /-- It finds the head of the list that is made without stopping. -/
  walk : ∀ wanted, bestPerOwner hits wanted bound = (bestAbove hits bound).take wanted
  /-- It misses the owner of a hit above the bound only if enough others are found before that. -/
  missed : ∀ wanted i hit, hits[i]? = some hit → bound.isBelow hit.2 = true →
    (∀ h ∈ bestPerOwner hits wanted bound, h.owner ≠ hit.1) →
    (bestPerOwner hits wanted bound).length = wanted ∧
      ∀ h ∈ bestPerOwner hits wanted bound, h.rank ≤ i

/-- **The walk down a ranking of numbers loses nothing by stopping early.** -/
theorem stopsWithoutLoss_sortBySimilarity {hits : List (String × Binary32)}
    (hnumbers : ∀ hit ∈ hits, hit.2.isNaN = false) {bound : Binary32}
    (hbound : bound.isNaN = false) :
    StopsWithoutLoss (sortBySimilarity Prod.snd hits) bound := by
  have hfall : (sortBySimilarity Prod.snd hits).Pairwise fun a b => b.2.precedes a.2 = true :=
    pairwise_sortBySimilarity hits
  replace hnumbers : ∀ hit ∈ sortBySimilarity Prod.snd hits, hit.2.isNaN = false :=
    fun hit h => hnumbers hit ((sortBySimilarity_perm hits).mem_iff.mp h)
  generalize sortBySimilarity Prod.snd hits = ranking at hfall hnumbers
  constructor
  · intro wanted
    rw [bestPerOwner_eq_take, firstHits_eq_bestAbove hnumbers hbound hfall]
  · intro wanted i hit hhit habove hmissed
    refine ranks_le_of_missed ?_ hmissed
    -- a hit above the bound stands at the same place among those before which nothing stops
    have hplace : (hit, i) ∈ (ranking.takeWhile fun hit => !hit.2.isAtMost bound).zipIdx := by
      rw [zipIdx_takeWhile_eq_filter hnumbers hbound hfall]
      exact List.mem_filter.mpr ⟨List.mk_mem_zipIdx_iff_getElem?.mpr hhit, habove⟩
    exact List.mk_mem_zipIdx_iff_getElem?.mp hplace

/-- Hits of four owners. Both zeros occur, and values that are equal but not the same. -/
def crossing : List (String × Binary32) :=
  [("N", .negativeZero), ("E", .one), ("S", .negativeOne), ("E", .zero), ("N", ⟨0x3F000000⟩),
    ("W", .zero)]

theorem sortBySimilarity_crossing :
    sortBySimilarity Prod.snd crossing =
      [("E", .one), ("N", ⟨0x3F000000⟩), ("E", .zero), ("W", .zero), ("N", .negativeZero),
        ("S", .negativeOne)] := by
  have hranking : [(("E", Binary32.one), 1), (("N", ⟨0x3F000000⟩), 4), (("E", .zero), 3),
      (("W", .zero), 5), (("N", .negativeZero), 0), (("S", .negativeOne), 2)] =
        rankedSlots Prod.snd crossing := by
    apply eq_of_pairwise_outranks _ _ (pairwise_rankedSlots crossing)
    · exact List.Perm.trans (by decide) (rankedSlots_perm crossing).symm
    · decide
  rw [← map_fst_rankedSlots, ← hranking]
  rfl

/-- No zero is above the other, so of four owners two are above a bound of zero. -/
theorem stopsWithoutLoss_crossing :
    (∀ hit ∈ crossing, hit.2.isNaN = false) ∧ Binary32.negativeZero.isNaN = false ∧
      StopsWithoutLoss (sortBySimilarity Prod.snd crossing) .negativeZero ∧
      bestPerOwner (sortBySimilarity Prod.snd crossing) 3 .negativeZero =
        [⟨"E", .one, 1⟩, ⟨"N", ⟨0x3F000000⟩, 2⟩] := by
  refine ⟨by decide, by decide, stopsWithoutLoss_sortBySimilarity (by decide) (by decide), ?_⟩
  rw [sortBySimilarity_crossing]
  decide

end Gazetteer
