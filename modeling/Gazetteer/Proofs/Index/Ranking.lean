import Gazetteer.Index.Ranking
import Gazetteer.Proofs.Number.TotalOrder
import Mathlib.Data.List.Basic

/-!
# What a ranking says

Five facts carry everything that is said of search results later, one about `sortBySimilarity` and
four about `bestPerOwner`.

* **A place in a ranking is a count.** The hit at place `i` is the one that exactly `i` hits
  outrank: those of greater similarity, and those of the same similarity in an earlier slot
  (`countP_outranks`). This holds for values that are no numbers as well, because it is about the
  total order.
* **Stopping early is cutting.** Walking down a ranking with a list of owners already seen, a number
  of hits still wanted and a bound to stop at gives a prefix of the list of all first hits
  (`bestPerOwnerFrom_eq_take`). What is true of first hits is proved of `firstHitsFrom`, which knows
  neither bound nor number.
* **A walk that may keep every owner misses none** in front of what stops it
  (`exists_mem_bestPerOwner`).
* **A ranking that is cut gives the front of the answer**, that is what has a rank before the cut
  (`bestPerOwner_take_eq_filter`).
* **Nothing is lost by this when no owner has too many hits** (`bestPerOwner_take`).
-/

set_option autoImplicit false

namespace Gazetteer

/-! ## Ranked hits and their slots -/

section Sorting

variable {α : Type} {similarity : α → Binary32}

/--
Whether one hit stands before another in a ranking: it is more similar, or just as similar and in an
earlier slot. A hit comes with its slot.
-/
def outranks (similarity : α → Binary32) (a b : α × Nat) : Bool :=
  (similarity b.1).place < (similarity a.1).place ||
    (similarity a.1 == similarity b.1 && a.2 < b.2)

theorem outranks_iff {a b : α × Nat} :
    outranks similarity a b = true ↔
      (similarity b.1).place < (similarity a.1).place ∨
        similarity a.1 = similarity b.1 ∧ a.2 < b.2 := by
  simp [outranks]

/-- Nothing stands both before and after another hit; in particular none before itself. -/
theorem outranks_asymm {a b : α × Nat} (h : outranks similarity a b = true) :
    outranks similarity b a = false := by
  rw [Bool.eq_false_iff]
  intro hba
  rw [outranks_iff] at h hba
  -- in three of the four cases the similarities contradict each other, in the last one the slots do
  rcases h with h | ⟨heq, hlt⟩ <;> rcases hba with h' | ⟨heq', hlt'⟩
  · omega
  · rw [heq'] at h
    omega
  · rw [heq] at h'
    omega
  · omega

def descends (similarity : α → Binary32) (a b : α) : Bool :=
  (similarity b).precedes (similarity a)

theorem descends_trans (a b c : α) (hab : descends similarity a b = true)
    (hbc : descends similarity b c = true) : descends similarity a c = true :=
  Binary32.precedes_trans hbc hab

theorem descends_total (a b : α) :
    (descends similarity a b || descends similarity b a) = true :=
  Binary32.precedes_total _ _

/-- The ranking with the slot of every hit beside it. -/
def rankedSlots (similarity : α → Binary32) (hits : List α) : List (α × Nat) :=
  hits.zipIdx.mergeSort (List.zipIdxLE (descends similarity))

theorem map_fst_rankedSlots (hits : List α) :
    (rankedSlots similarity hits).map Prod.fst = sortBySimilarity similarity hits :=
  List.mergeSort_zipIdx

theorem rankedSlots_perm (hits : List α) : (rankedSlots similarity hits).Perm hits.zipIdx :=
  List.mergeSort_perm _ _

/-- In a ranking every hit outranks all that follow. -/
theorem pairwise_rankedSlots (hits : List α) :
    (rankedSlots similarity hits).Pairwise fun a b => outranks similarity a b = true := by
  have hsorted : (rankedSlots similarity hits).Pairwise fun a b =>
      List.zipIdxLE (descends similarity) a b = true :=
    List.pairwise_mergeSort (List.zipIdxLE_trans descends_trans)
      (List.zipIdxLE_total descends_total) _
  -- sorting alone gives no more than `≤`; no slot occurs twice, so ties are strict as well
  have hslots : (rankedSlots similarity hits).Pairwise fun a b => a.2 ≠ b.2 := by
    refine ((rankedSlots_perm hits).pairwise_iff (fun h => Ne.symm h)).mpr ?_
    have hnodup : (hits.zipIdx.map Prod.snd).Nodup := by
      rw [List.zipIdx_map_snd]
      exact List.nodup_range'
    exact List.pairwise_map.mp hnodup
  refine (hsorted.and hslots).imp ?_
  intro a b ⟨hle, hne⟩
  rw [outranks_iff]
  simp only [List.zipIdxLE, descends, Binary32.precedes_iff] at hle
  split at hle
  · rename_i hba
    split at hle
    · rename_i hab
      have hslot := of_decide_eq_true hle
      exact Or.inr ⟨Binary32.eq_of_place_eq (Int.le_antisymm hab hba), by omega⟩
    · rename_i hab
      exact Or.inl (Int.not_le.mp hab)
  · exact absurd hle (by simp)

/-- There is only one ranking of the same hits. -/
theorem eq_of_pairwise_outranks {ranking other : List (α × Nat)} (hperm : ranking.Perm other)
    (h : ranking.Pairwise fun a b => outranks similarity a b = true)
    (h' : other.Pairwise fun a b => outranks similarity a b = true) : ranking = other := by
  apply hperm.eq_of_pairwise _ h h'
  intro a b _ _ hab hba
  -- nothing stands both before and after another hit
  rw [outranks_asymm hab] at hba
  cases hba

/-- What stands in the front of a list has the same place in the list. -/
theorem getElem?_of_front {β : Type} {front l : List β} (h : front <+: l) {i : Nat} {b : β}
    (hb : front[i]? = some b) : l[i]? = some b := by
  obtain ⟨hi, rfl⟩ := List.getElem?_eq_some_iff.mp hb
  exact List.prefix_iff_getElem?.mp h i hi

/--
In a list where everything stands before what follows, the place of an element is the number of
elements that stand before it.
-/
theorem countP_eq_of_pairwise {β : Type} {before : β → β → Bool}
    (hasymm : ∀ {a b}, before a b = true → before b a = false) :
    ∀ {l : List β} {i : Nat} {b : β}, l.Pairwise (fun a b => before a b = true) →
      l[i]? = some b → l.countP (fun a => before a b) = i := by
  intro l
  induction l with
  | nil => intro i b _ hb; simp at hb
  | cons a l ih =>
    intro i b hl hb
    obtain ⟨ha, hl⟩ := List.pairwise_cons.mp hl
    cases i with
    | zero =>
      simp only [List.getElem?_cons_zero, Option.some.injEq] at hb
      subst hb
      have hself : before a a = false := by
        cases h : before a a with
        | false => rfl
        | true => exact h ▸ hasymm h
      rw [List.countP_eq_zero]
      intro x hx
      rcases List.mem_cons.mp hx with rfl | hx
      · simp [hself]
      · simp [hasymm (ha x hx)]
    | succ i =>
      -- the head is one of the elements before it, and the tail counts the others
      simp only [List.getElem?_cons_succ] at hb
      have hab : before a b = true := ha b (List.mem_of_getElem? hb)
      rw [List.countP_cons, ih hl hb, if_pos hab]

/--
**A place in a ranking is a count.** The hit at place `i` comes from a slot, and exactly `i` hits
outrank it there.
-/
theorem countP_outranks {hits : List α} {i : Nat} {hit : α}
    (h : (sortBySimilarity similarity hits)[i]? = some hit) :
    ∃ slot, hits[slot]? = some hit ∧
      hits.zipIdx.countP (fun other => outranks similarity other (hit, slot)) = i := by
  rw [← map_fst_rankedSlots, List.getElem?_map] at h
  obtain ⟨⟨hit', slot⟩, hplace, heq⟩ := Option.map_eq_some_iff.mp h
  simp only at heq
  subst heq
  have hperm : (rankedSlots similarity hits).Perm hits.zipIdx := rankedSlots_perm hits
  have hmem : (hit', slot) ∈ hits.zipIdx :=
    hperm.mem_iff.mp (List.mem_of_getElem? hplace)
  refine ⟨slot, List.mk_mem_zipIdx_iff_getElem?.mp hmem, ?_⟩
  have hcount : (rankedSlots similarity hits).countP
      (fun other => outranks similarity other (hit', slot)) = i := by
    refine countP_eq_of_pairwise ?_ (pairwise_rankedSlots hits) hplace
    exact outranks_asymm
  rw [← hperm.countP_eq]
  exact hcount

theorem sortBySimilarity_perm (hits : List α) :
    (sortBySimilarity similarity hits).Perm hits := List.mergeSort_perm _ _

theorem pairwise_sortBySimilarity (hits : List α) :
    (sortBySimilarity similarity hits).Pairwise fun a b =>
      (similarity b).precedes (similarity a) = true :=
  @List.pairwise_mergeSort _ (descends similarity) descends_trans descends_total hits

/-- Sorting looks at similarities alone, so it does not matter what they stand beside. -/
theorem sortBySimilarity_map {β : Type} (f : β → α) (hits : List β) :
    sortBySimilarity similarity (hits.map f) =
      (sortBySimilarity (fun b => similarity (f b)) hits).map f := by
  rw [sortBySimilarity, sortBySimilarity, List.map_mergeSort]
  exact fun _ _ _ _ => rfl

theorem sortBySimilarity_of_pairwise {hits : List α}
    (h : hits.Pairwise fun a b => (similarity b).precedes (similarity a) = true) :
    sortBySimilarity similarity hits = hits :=
  List.mergeSort_of_pairwise h

/-- A hit further down in a ranking is no more similar. -/
theorem precedes_of_getElem?_sortBySimilarity {hits : List α} {i j : Nat} {a b : α} (hij : i ≤ j)
    (ha : (sortBySimilarity similarity hits)[i]? = some a)
    (hb : (sortBySimilarity similarity hits)[j]? = some b) :
    (similarity b).precedes (similarity a) = true := by
  obtain ⟨hi, rfl⟩ := List.getElem?_eq_some_iff.mp ha
  obtain ⟨hj, rfl⟩ := List.getElem?_eq_some_iff.mp hb
  rcases Nat.eq_or_lt_of_le hij with rfl | hlt
  · exact Binary32.precedes_refl _
  · exact List.pairwise_iff_getElem.mp (pairwise_sortBySimilarity hits) i j hi hj hlt

/-- The earliest of the most similar hits stands first. -/
theorem exists_sortBySimilarity_eq_cons {before after : List α} {hit : α}
    (hbest : ∀ other ∈ before ++ hit :: after,
      (similarity other).precedes (similarity hit) = true)
    (hfirst : ∀ other ∈ before, similarity other ≠ similarity hit) :
    ∃ rest, sortBySimilarity similarity (before ++ hit :: after) = hit :: rest := by
  have houtranks : ∀ other ∈ (before ++ hit :: after).zipIdx, other ≠ (hit, before.length) →
      outranks similarity (hit, before.length) other = true := by
    rintro ⟨other, slot⟩ hmem hne
    have hslot := List.mk_mem_zipIdx_iff_getElem?.mp hmem
    have hle := Binary32.precedes_iff.mp (hbest other (List.mem_of_getElem? hslot))
    rw [outranks_iff]
    rcases Int.lt_or_eq_of_le hle with hlt | heq
    · exact Or.inl hlt
    -- a hit that is as similar has a later slot, because none before this one is
    have hsame := Binary32.eq_of_place_eq heq
    rcases Nat.lt_trichotomy slot before.length with hlt | rfl | hgt
    · rw [List.getElem?_append_left hlt] at hslot
      exact absurd hsame (hfirst other (List.mem_of_getElem? hslot))
    · rw [List.getElem?_append_right (Nat.le_refl _), Nat.sub_self, List.getElem?_cons_zero,
        Option.some.injEq] at hslot
      exact absurd (by rw [hslot]) hne
    · exact Or.inr ⟨hsame.symm, hgt⟩
  have hslot : (hit, before.length) ∈ rankedSlots similarity (before ++ hit :: after) := by
    refine (rankedSlots_perm _).mem_iff.mpr (List.mk_mem_zipIdx_iff_getElem?.mpr ?_)
    rw [List.getElem?_append_right (Nat.le_refl _), Nat.sub_self, List.getElem?_cons_zero]
  have hordered : (rankedSlots similarity (before ++ hit :: after)).Pairwise fun a b =>
      outranks similarity a b = true := pairwise_rankedSlots _
  have hperm : (rankedSlots similarity (before ++ hit :: after)).Perm
      (before ++ hit :: after).zipIdx := rankedSlots_perm _
  rw [← map_fst_rankedSlots]
  cases hranked : rankedSlots similarity (before ++ hit :: after) with
  | nil =>
    rw [hranked] at hslot
    cases hslot
  | cons first rest =>
    rw [hranked] at hslot hordered hperm
    have hhead : first = (hit, before.length) := by
      by_contra hne
      have hlater : (hit, before.length) ∈ rest :=
        (List.mem_cons.mp hslot).resolve_left (Ne.symm hne)
      have hback := outranks_asymm ((List.pairwise_cons.mp hordered).1 _ hlater)
      rw [houtranks first (hperm.mem_iff.mp List.mem_cons_self) hne] at hback
      cases hback
    exact ⟨rest.map Prod.fst, by rw [hhead, List.map_cons]⟩

end Sorting

/-! ## First hits -/

/-- The first hit of each owner that is not yet `seen`; `position` hits have been passed. -/
def firstHitsFrom (seen : List String) (position : Nat) : List (String × Binary32) → List RankedHit
  | [] => []
  | (owner, similarity) :: rest =>
    if owner ∈ seen then firstHitsFrom seen (position + 1) rest
    else ⟨owner, similarity, position + 1⟩ :: firstHitsFrom (owner :: seen) (position + 1) rest

/-- What a first hit says: which hit it is, and that its owner has none before. -/
theorem of_mem_firstHitsFrom {h : RankedHit} :
    ∀ {hits : List (String × Binary32)} {seen : List String} {position : Nat},
      h ∈ firstHitsFrom seen position hits →
      h.owner ∉ seen ∧ ∃ i, h.rank = position + i + 1 ∧ hits[i]? = some (h.owner, h.similarity) ∧
        ∀ j < i, ∀ other, hits[j]? = some other → other.1 ≠ h.owner := by
  intro hits
  induction hits with
  | nil => intro seen position hm; simp [firstHitsFrom] at hm
  | cons hit rest ih =>
    intro seen position hm
    obtain ⟨owner, similarity⟩ := hit
    rw [firstHitsFrom] at hm
    -- a first hit among the rest is one place further down here; `owner` must not be its owner
    have hlater : ∀ {seen' : List String}, h ∈ firstHitsFrom seen' (position + 1) rest →
        h.owner ≠ owner → h.owner ∉ seen → h.owner ∉ seen ∧ ∃ i, h.rank = position + i + 1 ∧
          ((owner, similarity) :: rest)[i]? = some (h.owner, h.similarity) ∧
          ∀ j < i, ∀ other, ((owner, similarity) :: rest)[j]? = some other →
            other.1 ≠ h.owner := by
      intro seen' hm' hne hseen
      obtain ⟨-, i, hrank, hget, hbefore⟩ := ih hm'
      refine ⟨hseen, i + 1, by omega, by simpa using hget, ?_⟩
      intro j hj other hother
      cases j with
      | zero =>
        simp only [List.getElem?_cons_zero, Option.some.injEq] at hother
        exact hother ▸ Ne.symm hne
      | succ j => exact hbefore j (by omega) other (by simpa using hother)
    by_cases howner : owner ∈ seen
    · rw [if_pos howner] at hm
      obtain ⟨hseen, -⟩ := ih hm
      exact hlater hm (fun heq => hseen (heq ▸ howner)) hseen
    · rw [if_neg howner] at hm
      rcases List.mem_cons.mp hm with rfl | hm
      · exact ⟨howner, 0, by simp, by simp, fun j hj => absurd hj (by omega)⟩
      · obtain ⟨hseen, -⟩ := ih hm
        rw [List.mem_cons, not_or] at hseen
        exact hlater hm hseen.1 hseen.2

theorem pairwise_rank_firstHitsFrom :
    ∀ (hits : List (String × Binary32)) (seen : List String) (position : Nat),
      (firstHitsFrom seen position hits).Pairwise fun a b => a.rank < b.rank := by
  intro hits
  induction hits with
  | nil => intro seen position; exact List.Pairwise.nil
  | cons hit rest ih =>
    intro seen position
    rw [firstHitsFrom]
    split
    · exact ih seen (position + 1)
    · refine List.pairwise_cons.mpr ⟨fun h hm => ?_, ih _ (position + 1)⟩
      obtain ⟨-, i, hrank, -⟩ := of_mem_firstHitsFrom hm
      rw [hrank]
      show position + 1 < position + 1 + i + 1
      omega

theorem nodup_owner_firstHitsFrom :
    ∀ (hits : List (String × Binary32)) (seen : List String) (position : Nat),
      ((firstHitsFrom seen position hits).map RankedHit.owner).Nodup := by
  intro hits
  induction hits with
  | nil => intro seen position; exact List.nodup_nil
  | cons hit rest ih =>
    intro seen position
    rw [firstHitsFrom]
    split
    · exact ih seen (position + 1)
    · rw [List.map_cons, List.nodup_cons]
      refine ⟨fun hm => ?_, ih _ (position + 1)⟩
      obtain ⟨h, hm, howner⟩ := List.mem_map.mp hm
      exact (of_mem_firstHitsFrom hm).1 (howner ▸ List.mem_cons_self)

/-- Every owner that is not yet seen has a first hit. -/
theorem exists_mem_firstHitsFrom {hit : String × Binary32} :
    ∀ {hits : List (String × Binary32)} {seen : List String} (position : Nat), hit ∈ hits →
      hit.1 ∉ seen → ∃ h ∈ firstHitsFrom seen position hits, h.owner = hit.1 := by
  intro hits
  induction hits with
  | nil => intro seen position hmem; cases hmem
  | cons first rest ih =>
    intro seen position hmem hnew
    obtain ⟨owner, similarity⟩ := first
    rw [firstHitsFrom]
    by_cases hsame : hit.1 = owner
    · -- this hit is the owner's first
      subst hsame
      rw [if_neg hnew]
      exact ⟨_, List.mem_cons_self, rfl⟩
    · have hrest : hit ∈ rest := by
        rcases List.mem_cons.mp hmem with rfl | hrest
        · exact absurd rfl hsame
        · exact hrest
      split
      · exact ih (position + 1) hrest hnew
      · obtain ⟨h, hh, howner⟩ :=
          ih (position + 1) hrest (List.not_mem_cons_of_ne_of_not_mem hsame hnew)
        exact ⟨h, List.mem_cons_of_mem _ hh, howner⟩

/-! ## The best hit of each owner -/

/--
**Stopping early is cutting**: the bound cuts the hits, the number wanted cuts the first hits.
-/
theorem bestPerOwnerFrom_eq_take (bound : Binary32) :
    ∀ (hits : List (String × Binary32)) (seen : List String) (position wanted : Nat),
      bestPerOwnerFrom seen position wanted bound hits =
        (firstHitsFrom seen position
          (hits.takeWhile fun hit => !hit.2.isAtMost bound)).take wanted := by
  intro hits
  induction hits with
  | nil => intro seen position wanted; simp [bestPerOwnerFrom, firstHitsFrom]
  | cons hit rest ih =>
    intro seen position wanted
    obtain ⟨owner, similarity⟩ := hit
    rw [bestPerOwnerFrom]
    by_cases hstop : similarity.isAtMost bound = true
    · rw [if_pos (Or.inr hstop), List.takeWhile_cons_of_neg (by simp [hstop])]
      simp [firstHitsFrom]
    · cases wanted with
      | zero => rw [if_pos (Or.inl rfl), List.take_zero]
      | succ wanted =>
        rw [if_neg (by simp [hstop]), List.takeWhile_cons_of_pos (by simp [hstop]), firstHitsFrom]
        split
        · exact ih seen (position + 1) (wanted + 1)
        · rw [List.take_succ_cons, ih, Nat.add_sub_cancel]

theorem bestPerOwner_eq_take (hits : List (String × Binary32)) (wanted : Nat) (bound : Binary32) :
    bestPerOwner hits wanted bound =
      (firstHitsFrom [] 0 (hits.takeWhile fun hit => !hit.2.isAtMost bound)).take wanted :=
  bestPerOwnerFrom_eq_take bound hits [] 0 wanted

/-- The first hit is a best one, unless it stops the walk. -/
theorem exists_bestPerOwner_eq_cons {hit : String × Binary32} {rest : List (String × Binary32)}
    {wanted : Nat} {bound : Binary32} (hwanted : wanted ≠ 0) (hgo : hit.2.isAtMost bound = false) :
    ∃ more, bestPerOwner (hit :: rest) wanted bound = ⟨hit.1, hit.2, 1⟩ :: more := by
  obtain ⟨owner, similarity⟩ := hit
  have hstop : ¬ (wanted = 0 ∨ similarity.isAtMost bound = true) := by simp [hwanted, hgo]
  rw [bestPerOwner, bestPerOwnerFrom, if_neg hstop, if_neg List.not_mem_nil]
  exact ⟨_, rfl⟩

theorem length_bestPerOwner_le (hits : List (String × Binary32)) (wanted : Nat)
    (bound : Binary32) : (bestPerOwner hits wanted bound).length ≤ wanted := by
  rw [bestPerOwner_eq_take]
  exact List.length_take_le _ _

theorem nodup_owner_bestPerOwner (hits : List (String × Binary32)) (wanted : Nat)
    (bound : Binary32) : ((bestPerOwner hits wanted bound).map RankedHit.owner).Nodup := by
  rw [bestPerOwner_eq_take]
  exact (nodup_owner_firstHitsFrom _ _ _).sublist ((List.take_sublist _ _).map _)

theorem pairwise_rank_bestPerOwner (hits : List (String × Binary32)) (wanted : Nat)
    (bound : Binary32) : (bestPerOwner hits wanted bound).Pairwise fun a b => a.rank < b.rank := by
  rw [bestPerOwner_eq_take]
  exact (pairwise_rank_firstHitsFrom _ _ _).sublist (List.take_sublist _ _)

/--
The best hit of an owner is one of the hits, its rank says which, and it is the owner's first.
-/
theorem of_mem_bestPerOwner {hits : List (String × Binary32)} {wanted : Nat} {bound : Binary32}
    {h : RankedHit} (hm : h ∈ bestPerOwner hits wanted bound) :
    1 ≤ h.rank ∧ hits[h.rank - 1]? = some (h.owner, h.similarity) ∧
      ∀ j < h.rank - 1, ∀ other, hits[j]? = some other → other.1 ≠ h.owner := by
  rw [bestPerOwner_eq_take] at hm
  obtain ⟨-, i, hrank, hget, hbefore⟩ := of_mem_firstHitsFrom (List.mem_of_mem_take hm)
  have hrank : h.rank - 1 = i := by omega
  obtain ⟨after, hsplit⟩ := (List.takeWhile_prefix fun hit => !hit.2.isAtMost bound : _ <+: hits)
  have hlt := (List.getElem?_eq_some_iff.mp hget).1
  have hsame : ∀ j ≤ i, hits[j]? = (hits.takeWhile fun hit => !hit.2.isAtMost bound)[j]? := by
    intro j hj
    conv_lhs => rw [← hsplit]
    exact List.getElem?_append_left (by omega)
  rw [hrank]
  refine ⟨by omega, (hsame i (Nat.le_refl i)).trans hget, fun j hj other hother => ?_⟩
  exact hbefore j hj other ((hsame j (by omega)).symm.trans hother)

/--
Where similarities fall and every owner may be wanted, the walk comes to each hit before which
nothing can stop it.
-/
theorem exists_mem_bestPerOwner {hits : List (String × Binary32)} {owners : List String}
    {wanted : Nat} {bound : Binary32}
    (hfall : hits.Pairwise fun a b => b.2.precedes a.2 = true)
    (howners : ∀ hit ∈ hits, hit.1 ∈ owners) (hwanted : owners.length ≤ wanted)
    {hit : String × Binary32} (hhit : hit ∈ hits)
    (hgo : ∀ similarity, hit.2.precedes similarity = true → similarity.isAtMost bound = false) :
    ∃ h ∈ bestPerOwner hits wanted bound, h.owner = hit.1 := by
  have hreached : hit ∈ hits.takeWhile fun hit => !hit.2.isAtMost bound := by
    obtain ⟨before, after, rfl⟩ := List.append_of_mem hhit
    have hbefore : ∀ other ∈ before, hit.2.precedes other.2 = true := fun other hother =>
      (List.pairwise_append.mp hfall).2.2 other hother hit List.mem_cons_self
    rw [List.takeWhile_append_of_pos fun other hother => by simp [hgo _ (hbefore other hother)],
      List.takeWhile_cons_of_pos (by simp [hgo _ (Binary32.precedes_refl hit.2)])]
    exact List.mem_append_right _ List.mem_cons_self
  obtain ⟨h, hh, howner⟩ :=
    exists_mem_firstHitsFrom 0 hreached List.not_mem_nil
  refine ⟨h, ?_, howner⟩
  -- there are no more first hits than owners, so none is cut off
  rw [bestPerOwner_eq_take, List.take_of_length_le]
  · exact hh
  · have hsubset : (firstHitsFrom [] 0 (hits.takeWhile fun hit => !hit.2.isAtMost bound)).map
        RankedHit.owner ⊆ owners := by
      intro owner hmem
      obtain ⟨first, hfirst, rfl⟩ := List.mem_map.mp hmem
      obtain ⟨-, i, -, hget, -⟩ := of_mem_firstHitsFrom hfirst
      exact howners _ ((List.takeWhile_sublist _).subset (List.mem_of_getElem? hget))
    have hle := (nodup_owner_firstHitsFrom _ _ _).length_le_of_subset hsubset
    rw [List.length_map] at hle
    exact Nat.le_trans hle hwanted

/-! ## Cutting a ranking -/

/-- Where all that follows a failure fails too, stopping at the first is leaving all of them out. -/
theorem takeWhile_eq_filter {β : Type} {p : β → Bool} :
    ∀ {l : List β}, l.Pairwise (fun a b => p b = true → p a = true) →
      l.takeWhile p = l.filter p := by
  intro l
  induction l with
  | nil => intro _; rfl
  | cons a l ih =>
    intro h
    obtain ⟨ha, hl⟩ := List.pairwise_cons.mp h
    by_cases hp : p a = true
    · rw [List.takeWhile_cons_of_pos hp, List.filter_cons_of_pos hp, ih hl]
    · rw [List.takeWhile_cons_of_neg hp, List.filter_cons_of_neg hp, eq_comm,
        List.filter_eq_nil_iff]
      exact fun b hb hpb => hp (ha b hb hpb)

/-- Where ranks rise, what is past a cut stands at the end. -/
theorem takeWhile_rank_eq_filter {β : Type} {rank : β → Nat} {l : List β}
    (hrise : l.Pairwise fun a b => rank a < rank b) (cut : Nat) :
    l.takeWhile (fun b => rank b ≤ cut) = l.filter fun b => rank b ≤ cut := by
  refine takeWhile_eq_filter (hrise.imp fun hlt hb => ?_)
  rw [decide_eq_true_eq] at hb ⊢
  omega

/-- The first hits among the head of a ranking are those whose rank is not past it. -/
theorem firstHitsFrom_take :
    ∀ (hits : List (String × Binary32)) (cut : Nat) (seen : List String) (position : Nat),
      firstHitsFrom seen position (hits.take cut) =
        (firstHitsFrom seen position hits).filter fun h => h.rank ≤ position + cut := by
  intro hits
  induction hits with
  | nil => intro cut seen position; rw [List.take_nil]; rfl
  | cons hit rest ih =>
    intro cut seen position
    obtain ⟨owner, similarity⟩ := hit
    cases cut with
    | zero =>
      rw [List.take_zero, firstHitsFrom, eq_comm, List.filter_eq_nil_iff]
      intro h hm
      obtain ⟨-, i, hrank, -⟩ := of_mem_firstHitsFrom hm
      simp only [decide_eq_true_eq]
      omega
    | succ cut =>
      have hcut : position + (cut + 1) = position + 1 + cut := by omega
      rw [List.take_succ_cons, firstHitsFrom, firstHitsFrom, hcut]
      split
      · exact ih cut seen (position + 1)
      · rw [List.filter_cons_of_pos (by simp), ih]

/-- **Fewer hits and fewer wanted cut the walk**, and nothing else changes. -/
theorem bestPerOwner_take_eq_filter {fewer wanted : Nat} (h : fewer ≤ wanted)
    (hits : List (String × Binary32)) (cut : Nat) (bound : Binary32) :
    bestPerOwner (hits.take cut) fewer bound =
      ((bestPerOwner hits wanted bound).take fewer).filter fun h => h.rank ≤ cut := by
  rw [bestPerOwner_eq_take, bestPerOwner_eq_take, ← List.take_takeWhile, firstHitsFrom_take,
    Nat.zero_add, List.take_take, Nat.min_eq_left h]
  -- what is past the cut stands at the end, where the number wanted cuts as well
  have hrise := pairwise_rank_firstHitsFrom (hits.takeWhile fun hit => !hit.2.isAtMost bound) [] 0
  rw [← takeWhile_rank_eq_filter hrise, List.take_takeWhile,
    takeWhile_rank_eq_filter (hrise.sublist (List.take_sublist _ _))]

theorem countP_mem_cons_le (hits : List (String × Binary32)) (owner : String)
    (seen : List String) :
    hits.countP (fun hit => decide (hit.1 ∈ owner :: seen)) ≤
      hits.countP (fun hit => hit.1 == owner) + hits.countP (fun hit => decide (hit.1 ∈ seen)) := by
  induction hits with
  | nil => simp
  | cons hit rest ih =>
    simp only [List.countP_cons, List.mem_cons, beq_iff_eq, decide_eq_true_eq] at ih ⊢
    by_cases howner : hit.1 = owner <;> by_cases hseen : hit.1 ∈ seen <;>
      simp only [howner, hseen, true_or, or_true, or_self, if_true, if_false] at ih ⊢ <;> omega

/--
**A ranking may be cut when no owner has too many hits.** If no owner has more than `most` hits,
`wanted * most` hits hold those of `wanted` owners. Hits of owners already seen use up places as
well, so the walk needs a place for each of them on top; that is what the induction keeps.
-/
theorem bestPerOwnerFrom_take {most : Nat} (bound : Binary32) :
    ∀ (hits : List (String × Binary32)) (seen : List String) (position wanted cut : Nat),
      (∀ owner, hits.countP (fun hit => hit.1 == owner) ≤ most) →
      wanted * most + hits.countP (fun hit => decide (hit.1 ∈ seen)) ≤ cut →
      bestPerOwnerFrom seen position wanted bound (hits.take cut) =
        bestPerOwnerFrom seen position wanted bound hits := by
  intro hits
  induction hits with
  | nil => intro seen position wanted cut _ _; rw [List.take_nil]
  | cons hit rest ih =>
    intro seen position wanted cut hmost hcut
    obtain ⟨owner, similarity⟩ := hit
    cases wanted with
    | zero => cases cut <;> simp [bestPerOwnerFrom]
    | succ wanted =>
      have hrest : ∀ o, rest.countP (fun hit => hit.1 == o) ≤ most := fun o =>
        Nat.le_trans ((List.sublist_cons_self _ _).countP_le) (hmost o)
      have hone : rest.countP (fun hit => hit.1 == owner) + 1 ≤ most := by
        have h := hmost owner
        rwa [List.countP_cons_of_pos (by simp)] at h
      rw [Nat.succ_mul] at hcut
      obtain ⟨cut, rfl⟩ : ∃ c, cut = c + 1 := ⟨cut - 1, by omega⟩
      rw [List.take_succ_cons, bestPerOwnerFrom, bestPerOwnerFrom]
      by_cases hseen : owner ∈ seen
      · -- the place that this hit uses up was set aside for it
        rw [List.countP_cons_of_pos (by simpa using hseen)] at hcut
        rw [if_pos hseen, if_pos hseen,
          ih seen (position + 1) (wanted + 1) cut hrest (by rw [Nat.succ_mul]; omega)]
      · -- one candidate less is wanted; its `most` places go to the other hits of this owner
        rw [List.countP_cons_of_neg (by simpa using hseen)] at hcut
        have hnew := countP_mem_cons_le rest owner seen
        rw [if_neg hseen, if_neg hseen, Nat.add_sub_cancel,
          ih (owner :: seen) (position + 1) wanted cut hrest (by omega)]

theorem bestPerOwner_take {hits : List (String × Binary32)} {most cut : Nat} (wanted : Nat)
    (bound : Binary32) (hmost : ∀ owner, hits.countP (fun hit => hit.1 == owner) ≤ most)
    (hcut : wanted * most ≤ cut) :
    bestPerOwner (hits.take cut) wanted bound = bestPerOwner hits wanted bound :=
  bestPerOwnerFrom_take bound hits [] 0 wanted cut hmost (by simpa using hcut)

end Gazetteer
