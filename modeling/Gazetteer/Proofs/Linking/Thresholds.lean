import Gazetteer.Proofs.Linking.Finding
import Gazetteer.Proofs.Linking.Runs
import Gazetteer.Proofs.Number.NotANumber
import Mathlib.Data.List.TakeWhile

/-!
# Candidates above the bound

Candidates have to be more similar to the mention than a bound. The walk down a ranking sees to that
by stopping at the first similarity that is *at or below* the bound, and a not-a-number is neither
at, nor below, nor above anything. So the walk does not stop there, and what holds is this: **a
candidate is above the bound exactly if its similarity is a number** (`isBelow_similarity_find`).

Encoders are free to produce components for which similarities are no numbers, and large components
are enough for that. `not_isBelow_similarity_find` is a search over a vector with a finite component
that returns such a candidate, although the bound is zero.
-/

set_option autoImplicit false

namespace Gazetteer

/-! ## Numbers at and above a bound -/

namespace Binary32

/-- What is not at or below a number is above it, if it is a number at all. -/
theorem isBelow_eq_not_isNaN {bound x : Binary32} (hbound : bound.isNaN = false)
    (h : x.isAtMost bound = false) : bound.isBelow x = !x.isNaN := by
  cases hx : x.isNaN with
  | true => simp [isBelow, hx]
  | false =>
    rw [isAtMost, hx, hbound] at h
    have hlt : bound.signedPattern < x.signedPattern := by simpa using h
    simp [isBelow, hx, hbound, hlt]

end Binary32

/-! ## The walk down a ranking -/

/-- The walk keeps nothing at or below the bound. -/
theorem isAtMost_of_mem_bestPerOwner {hits : List (String × Binary32)} {wanted : Nat}
    {bound : Binary32} {h : RankedHit} (hm : h ∈ bestPerOwner hits wanted bound) :
    h.similarity.isAtMost bound = false := by
  rw [bestPerOwner_eq_take] at hm
  -- a kept hit is one of those before the first that stops the walk
  obtain ⟨-, i, -, hget, -⟩ := of_mem_firstHitsFrom (List.mem_of_mem_take hm)
  have hpassed := List.mem_takeWhile_imp (List.mem_of_getElem? hget)
  simpa using hpassed

namespace Linker

variable {ε : Type} [TextEncoder ε] {l : Linker ε} {mention : String} {k : Nat}
  {cs : List Candidate}

/-- Behind a candidate stands a hit of the index with the same similarity, which the walk kept. -/
theorem exists_hit_of_mem_find (h : l.find mention k = .ok cs) {c : Candidate} (hc : c ∈ cs) :
    c.similarity.isAtMost l.settings.minSimilarity = false ∧
      ∃ query, TextEncoder.encode l.encoder mention = .ok query ∧
        ∃ hit ∈ l.index.complete query, hit.similarity = c.similarity := by
  rcases find_eq_ok h with ⟨-, rfl⟩ | ⟨query, hits, owned, hquery, hhits, howned, rfl⟩
  · cases hc
  · obtain ⟨best, hbest, hcandidate⟩ := List.mem_filterMap.mp hc
    obtain ⟨-, rfl⟩ := candidate?_eq_some hcandidate
    obtain ⟨-, hget, -⟩ := of_mem_bestPerOwner hbest
    obtain ⟨hit, hhit, -, hsimilarity⟩ := getElem?_of_mapM_ownedHit howned hget
    have hindexed := List.mem_of_getElem? hhit
    rw [VectorIndex.eq_take_of_find hhits] at hindexed
    exact ⟨isAtMost_of_mem_bestPerOwner hbest, query, hquery, hit, List.mem_of_mem_take hindexed,
      hsimilarity⟩

/--
**A candidate is above the bound exactly if its similarity is a number.** So all candidates are
above it where all similarities to the mention are numbers.
-/
theorem isBelow_similarity_find (hbound : l.settings.minSimilarity.isFinite = true)
    (h : l.find mention k = .ok cs) :
    (∀ c ∈ cs, l.settings.minSimilarity.isBelow c.similarity = !c.similarity.isNaN) ∧
      ((∀ query, TextEncoder.encode l.encoder mention = .ok query →
          ∀ hit ∈ l.index.complete query, hit.similarity.isNaN = false) →
        ∀ c ∈ cs, l.settings.minSimilarity.isBelow c.similarity = true) := by
  have habove : ∀ c ∈ cs,
      l.settings.minSimilarity.isBelow c.similarity = !c.similarity.isNaN := by
    intro c hc
    exact Binary32.isBelow_eq_not_isNaN (Binary32.isNaN_of_isFinite hbound)
      (exists_hit_of_mem_find h hc).1
  refine ⟨habove, fun hnumbers c hc => ?_⟩
  obtain ⟨-, query, hquery, hit, hhit, hsimilarity⟩ := exists_hit_of_mem_find h hc
  rw [habove c hc, ← hsimilarity, hnumbers query hquery hit hhit]
  rfl

/-! ## A candidate without a similarity -/

/-- A linker over an encoder with two vectors, one of them so long that its norm is infinite. -/
def horizon (bound : Binary32) : Linker TableEncoder where
  settings := { minSimilarity := bound }
  training := {}
  encoder := { width := 1, rows := [("near", #[.one]), ("far", #[⟨0x7F7FFFFF⟩])] }
  index := .ofSettings 1 {}
  catalog := .empty
  stage := .empty

/-- The similarity of what is far to itself is infinity divided by infinity. -/
theorem find_horizon :
    ((horizon .zero).run [.add (Entity.ofName "F" "far"), .build]).find "far" 1 =
      .ok [⟨Entity.ofName "F" "far", .invalid, 1⟩] := by
  have hscored : ((horizon .zero).run [.add (Entity.ofName "F" "far"), .build]).index.scored
      #[⟨0x7F7FFFFF⟩] = [⟨"F.0", .invalid⟩] := by decide +kernel
  rw [find_eq_of_pairwise hscored rfl (by decide +kernel) (by decide +kernel)
    (by decide +kernel) (by decide +kernel) rfl]
  refine congrArg Except.ok ?_
  decide +kernel

/-- Not every candidate is above the bound, even if the bound and all components are finite. -/
theorem not_isBelow_similarity_find :
    (horizon .zero).IsNew ∧ (horizon .zero).settings.minSimilarity.isFinite = true ∧
      (∀ row ∈ (horizon .zero).encoder.rows, ∀ x ∈ row.2, x.isFinite = true) ∧
      ¬ ∀ requests mention k cs, ((horizon .zero).run requests).find mention k = .ok cs →
        ∀ c ∈ cs, (horizon .zero).settings.minSimilarity.isBelow c.similarity = true := by
  refine ⟨⟨_, {}, {}, horizon .zero, rfl, rfl⟩, by decide, by decide,
    fun h => ?_⟩
  have habove := h _ _ _ _ find_horizon _ List.mem_cons_self
  exact absurd habove (by decide)

/-- Where the bound is low, what is near is found first and is above it; what is far comes last. -/
theorem isBelow_similarity_horizon :
    (horizon .negativeOne).settings.minSimilarity.isFinite = true ∧
      ∃ near far, ((horizon .negativeOne).run
          [.addAll [Entity.ofName "N" "near", Entity.ofName "F" "far"], .build]).find "far" 2 =
            .ok [near, far] ∧
        Binary32.negativeOne.isBelow near.similarity = !near.similarity.isNaN ∧
        Binary32.negativeOne.isBelow far.similarity = !far.similarity.isNaN ∧
        near.similarity = .zero ∧ far.similarity = .invalid := by
  have hscored : ((horizon .negativeOne).run
      [.addAll [Entity.ofName "N" "near", Entity.ofName "F" "far"], .build]).index.scored
        #[⟨0x7F7FFFFF⟩] = [⟨"N.0", .zero⟩, ⟨"F.0", .invalid⟩] := by decide +kernel
  have hfind : ((horizon .negativeOne).run
      [.addAll [Entity.ofName "N" "near", Entity.ofName "F" "far"], .build]).find "far" 2 =
        .ok [⟨Entity.ofName "N" "near", .zero, 1⟩, ⟨Entity.ofName "F" "far", .invalid, 2⟩] := by
    rw [find_eq_of_pairwise hscored rfl (by decide +kernel) (by decide +kernel)
      (by decide +kernel) (by decide +kernel) rfl]
    refine congrArg Except.ok ?_
    decide +kernel
  have h := (isBelow_similarity_find (by decide) hfind).1
  exact ⟨by decide, _, _, hfind, h _ List.mem_cons_self,
    h _ (List.mem_cons_of_mem _ List.mem_cons_self), rfl, rfl⟩

end Linker

end Gazetteer
