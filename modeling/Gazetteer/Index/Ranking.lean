import Gazetteer.Number.Binary32

/-!
# Ranking

Hits are ranked by descending similarity. The order is total, also over values that are no numbers,
and hits of equal similarity keep the order in which they came.

Several hits can stand for one thing. `bestPerOwner` walks down a ranking and keeps the first hit of
each owner, until it has enough or the similarities are no longer above a bound.
-/

set_option autoImplicit false

namespace Gazetteer

/-- Sorts by descending similarity; ties keep their order. -/
def sortBySimilarity {α : Type} (similarity : α → Binary32) (hits : List α) : List α :=
  hits.mergeSort fun a b => (similarity b).precedes (similarity a)

/-- The best hit of an owner. -/
structure RankedHit where
  owner : String
  similarity : Binary32
  /-- The position of the hit among all hits, counted from 1. -/
  rank : Nat
  deriving DecidableEq, Repr

/--
The first hits of owners not yet `seen`, at most `wanted` of them; `position` hits have been passed.
-/
def bestPerOwnerFrom (seen : List String) (position : Nat) (wanted : Nat) (bound : Binary32) :
    List (String × Binary32) → List RankedHit
  | [] => []
  | (owner, similarity) :: rest =>
    if wanted = 0 ∨ similarity.isAtMost bound then []
    else if owner ∈ seen then bestPerOwnerFrom seen (position + 1) wanted bound rest
    else
      ⟨owner, similarity, position + 1⟩ ::
        bestPerOwnerFrom (owner :: seen) (position + 1) (wanted - 1) bound rest

/--
The first hit of each owner, at most `wanted` of them. The list ends before the first hit whose
similarity is at or below the bound.
-/
def bestPerOwner (hits : List (String × Binary32)) (wanted : Nat) (bound : Binary32) :
    List RankedHit :=
  bestPerOwnerFrom [] 0 wanted bound hits

end Gazetteer
