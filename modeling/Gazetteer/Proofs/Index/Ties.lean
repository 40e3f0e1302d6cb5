import Gazetteer.Proofs.Index.CountVectors
import Gazetteer.Proofs.Index.Nearest
import Gazetteer.Proofs.Number.Signs

/-!
# Ties in a search

Hits of the same similarity stand in slot order, if the same means the same bits. If it means the
same value there is one exception: a zero with a sign stands behind a zero without, whatever their
slots (`tiesBySlot_run`, and `not_keepsSlots_find` for an index of two vectors).

So slot order is kept wherever no similarity is a zero with a sign. A distance never makes one, and
a cosine makes none of vectors without sign bits (`Metric.unsigned_cosine`). A cosine of other
vectors can be one, if all products of components are zeros with a sign, or if it is below zero and
rounded to zero.
-/

set_option autoImplicit false

namespace Gazetteer

/-! ## Ties in a ranking -/

/-- In a list where everything stands before what follows, places follow the order. -/
theorem lt_iff_of_pairwise {β : Type} {before : β → β → Bool}
    (hasymm : ∀ {a b}, before a b = true → before b a = false) {l : List β}
    (hl : l.Pairwise fun a b => before a b = true) {i j : Nat} {a b : β} (ha : l[i]? = some a)
    (hb : l[j]? = some b) (hne : a ≠ b) : i < j ↔ before a b = true := by
  obtain ⟨hi, rfl⟩ := List.getElem?_eq_some_iff.mp ha
  obtain ⟨hj, rfl⟩ := List.getElem?_eq_some_iff.mp hb
  constructor
  · intro hlt
    exact List.pairwise_iff_getElem.mp hl i j hi hj hlt
  · intro hbefore
    rcases Nat.lt_trichotomy i j with hlt | rfl | hgt
    · exact hlt
    · exact absurd rfl hne
    · have hback := hasymm (List.pairwise_iff_getElem.mp hl j i hj hi hgt)
      exact absurd hbefore (Bool.eq_false_iff.mp hback)

/-- Of two hits of the same value the earlier slot goes first, with one exception. -/
theorem outranks_iff_of_isSame {α : Type} {similarity : α → Binary32} {a b : α × Nat}
    (hsame : (similarity a.1).isSame (similarity b.1) = true) (hslot : a.2 < b.2) :
    outranks similarity a b = true ↔
      ¬ (similarity a.1 = .negativeZero ∧ similarity b.1 = .zero) := by
  rw [outranks_iff]
  rcases Int.lt_trichotomy (similarity a.1).place (similarity b.1).place with hlt | heq | hgt
  · obtain ⟨ha, hb⟩ := Binary32.zeros_of_isSame hsame hlt
    simp [ha, hb, show ¬ Binary32.zero.place < Binary32.negativeZero.place by decide,
      show Binary32.negativeZero ≠ Binary32.zero by decide]
  · have hsimilarity := Binary32.eq_of_place_eq heq
    refine ⟨fun _ hzeros => ?_, fun _ => Or.inr ⟨hsimilarity, hslot⟩⟩
    exact absurd (hzeros.1.symm.trans (hsimilarity.trans hzeros.2)) (by decide)
  · refine ⟨fun _ hzeros => ?_, fun _ => Or.inl hgt⟩
    rw [hzeros.1, hzeros.2] at hgt
    exact absurd hgt (by decide)

/-! ## Signs of similarities -/

namespace DenseVector

open Binary32 (Unsigned)

variable {a b : DenseVector}

theorem unsigned_dot (ha : ∀ component ∈ a, component.Unsigned)
    (hb : ∀ component ∈ b, component.Unsigned) (hne : a ≠ #[]) (hne' : b ≠ #[]) :
    (dot a b).Unsigned := by
  rw [dot, sum, ← Array.foldl_toList]
  refine Binary32.unsigned_foldl_add (fun term hterm => ?_) ?_
  · obtain ⟨i, hi, rfl⟩ := Array.mem_iff_getElem.mp (Array.mem_toList_iff.mp hterm)
    rw [Array.getElem_zipWith]
    exact (ha _ (Array.getElem_mem _)).mul (hb _ (Array.getElem_mem _))
  · intro hnil
    rw [Array.toList_eq_nil_iff, Array.zipWith_eq_empty_iff] at hnil
    exact hnil.elim hne hne'

/-- A length that is not zero has no sign. -/
theorem unsigned_norm (h : (norm a).isSame .zero = false) : (norm a).Unsigned :=
  (Binary32.notBelowZero_sqrt _).unsigned h

theorem ne_empty_of_norm (h : (norm a).isSame .zero = false) : a ≠ #[] := by
  rintro rfl
  have hzero : (norm #[]).isSame .zero = true := isSame_norm_zero nofun
  exact absurd hzero (Bool.eq_false_iff.mp h)

end DenseVector

namespace Metric

open DenseVector (norm)

variable {query stored : DenseVector}

/-- The similarity of a distance has no sign. -/
theorem unsigned_inverseEuclidean (query stored : DenseVector) (queryNorm storedNorm : Binary32) :
    (inverseEuclidean.similarity query queryNorm stored storedNorm).Unsigned := by
  have hone : Binary32.one.Unsigned := Binary32.unsigned_of_isNegative (by decide)
  exact hone.div
    (Binary32.unsigned_add hone.notBelowZero (Binary32.notBelowZero_sqrt _) (Or.inl hone))

/-- A cosine of vectors without signs has none. -/
theorem unsigned_cosine (hquery : ∀ component ∈ query, component.Unsigned)
    (hstored : ∀ component ∈ stored, component.Unsigned) :
    (cosine.similarity query (norm query) stored (norm stored)).Unsigned := by
  rw [similarity]
  split
  · exact Binary32.unsigned_of_isNegative (by decide)
  · rename_i hlengths
    rw [Bool.or_eq_true, not_or, Bool.not_eq_true, Bool.not_eq_true] at hlengths
    obtain ⟨hq, hs⟩ := hlengths
    have hdot := DenseVector.unsigned_dot hquery hstored (DenseVector.ne_empty_of_norm hq)
      (DenseVector.ne_empty_of_norm hs)
    exact (hdot.div ((DenseVector.unsigned_norm hq).mul (DenseVector.unsigned_norm hs))).clamp

end Metric

namespace VectorIndex

variable {dimensions : Nat} {x : VectorIndex} {query : DenseVector} {k : Nat}
  {hits : List IndexHit}

/-! ## Ties in a search -/

/-- A hit among those that a search returned, and the slot that its key has in the index. -/
structure Placed (x : VectorIndex) (hits : List IndexHit) (hit : IndexHit) (place slot : Nat) :
    Prop where
  place : hits[place]? = some hit
  slot : x.keys[slot]? = some hit.key

/-- Whether hits of the same value stand in slot order. -/
def KeepsSlots (x : VectorIndex) (hits : List IndexHit) : Prop :=
  ∀ ⦃a b i j s t⦄, x.Placed hits a i s → x.Placed hits b j t →
    a.similarity.isSame b.similarity = true → s < t → i < j

/-- How a search orders hits of the same value. -/
structure TiesBySlot (x : VectorIndex) (query : DenseVector) (hits : List IndexHit) : Prop where
  /-- The earlier slot goes first, unless it has the zero with a sign and the later one the zero
  without. -/
  ties : ∀ ⦃a b i j s t⦄, x.Placed hits a i s → x.Placed hits b j t →
    a.similarity.isSame b.similarity = true → s < t →
    (i < j ↔ ¬ (a.similarity = .negativeZero ∧ b.similarity = .zero))
  /-- Hits of the same distance stand in slot order. -/
  distance : x.settings.metric = .inverseEuclidean → x.KeepsSlots hits
  /-- So do all hits if no component of the query or of a stored vector has a sign. -/
  unsigned : (∀ component ∈ query, component.Unsigned) →
    (∀ key vector, x.get? key = some vector → ∀ component ∈ vector, component.Unsigned) →
    x.KeepsSlots hits

/-- A hit that is found has the place of its slot in the arrangement. -/
theorem Filled.getElem?_of_placed (h : x.Filled dimensions)
    (hfind : x.find query k = .ok hits) {hit : IndexHit} {place slot : Nat}
    (hplaced : x.Placed hits hit place slot) :
    (rankedSlots IndexHit.similarity (x.scored query))[place]? = some (hit, slot) := by
  have hranked : (x.ranked query)[place]? = some hit :=
    getElem?_of_front (find_eq_ok hfind).1 hplaced.place
  rw [ranked, ← map_fst_rankedSlots, List.getElem?_map] at hranked
  obtain ⟨⟨hit', slot'⟩, hplace, rfl⟩ := Option.map_eq_some_iff.mp hranked
  -- the slot is that of the key, which occurs once
  have hslot' : x.keys[slot']? = some hit'.key := by
    have hscored := List.mk_mem_zipIdx_iff_getElem?.mp
      ((rankedSlots_perm _).mem_iff.mp (List.mem_of_getElem? hplace))
    rw [← map_key_scored x query, List.getElem?_map, hscored, Option.map_some]
  obtain ⟨hlt, -⟩ := List.getElem?_eq_some_iff.mp hslot'
  have hsame : slot' = slot := (List.getElem?_inj hlt h.once).mp (hslot'.trans hplaced.slot.symm)
  rw [hplace, hsame]

/-- Of two hits of the same value the earlier slot goes first, with one exception. -/
theorem Filled.lt_iff_of_placed (h : x.Filled dimensions) (hfind : x.find query k = .ok hits)
    {a b : IndexHit} {i j s t : Nat} (ha : x.Placed hits a i s) (hb : x.Placed hits b j t)
    (hsame : a.similarity.isSame b.similarity = true) (hslot : s < t) :
    i < j ↔ ¬ (a.similarity = .negativeZero ∧ b.similarity = .zero) := by
  have hne : (a, s) ≠ (b, t) := fun heq => Nat.ne_of_lt hslot (congrArg Prod.snd heq)
  rw [lt_iff_of_pairwise outranks_asymm (pairwise_rankedSlots _)
    (h.getElem?_of_placed hfind ha) (h.getElem?_of_placed hfind hb) hne]
  exact outranks_iff_of_isSame hsame hslot

/-- A search that makes no zero with a sign keeps the slots of hits of the same value. -/
theorem Filled.keepsSlots (h : x.Filled dimensions) (hfind : x.find query k = .ok hits)
    (hunsigned : ∀ hit ∈ hits, hit.similarity.Unsigned) : x.KeepsSlots hits := by
  intro a b i j s t ha hb hsame hslot
  refine (h.lt_iff_of_placed hfind ha hb hsame hslot).mpr fun hzeros => ?_
  exact (hunsigned a (List.mem_of_getElem? ha.place)).ne_negativeZero hzeros.1

/-- A hit has the similarity of the vector under its key. -/
theorem Filled.exists_get?_of_find (h : x.Filled dimensions) (hfind : x.find query k = .ok hits)
    {hit : IndexHit} (hhit : hit ∈ hits) :
    ∃ vector, x.get? hit.key = some vector ∧
      hit.similarity = x.settings.metric.similarity query (DenseVector.norm query) vector
        (DenseVector.norm vector) := by
  have hranked : hit ∈ (rankedSlots IndexHit.similarity (x.scored query)).map Prod.fst := by
    rw [map_fst_rankedSlots]
    exact (find_eq_ok hfind).1.mem hhit
  obtain ⟨ranked, hmem, rfl⟩ := List.mem_map.mp hranked
  exact (h.nearestFirst_rankedSlots query).similarity ranked hmem

/-- **How a search orders hits of the same value**, after every run. -/
theorem tiesBySlot_run {dimensions : Nat} {settings : IndexSettings} {requests : List Request}
    {query : DenseVector} {k : Nat} {hits : List IndexHit}
    (hfind : ((ofSettings dimensions settings).run requests).find query k = .ok hits) :
    TiesBySlot ((ofSettings dimensions settings).run requests) query hits := by
  have h := (filled_ofSettings dimensions settings).run requests
  generalize (ofSettings dimensions settings).run requests = x at h hfind
  constructor
  · intro a b i j s t ha hb
    exact h.lt_iff_of_placed hfind ha hb
  · intro hmetric
    refine h.keepsSlots hfind fun hit hhit => ?_
    obtain ⟨vector, -, hsimilarity⟩ := h.exists_get?_of_find hfind hhit
    rw [hsimilarity, hmetric]
    exact Metric.unsigned_inverseEuclidean _ _ _ _
  · intro hquery hstored
    refine h.keepsSlots hfind fun hit hhit => ?_
    obtain ⟨vector, hget, hsimilarity⟩ := h.exists_get?_of_find hfind hhit
    rw [hsimilarity]
    cases x.settings.metric with
    | cosine => exact Metric.unsigned_cosine hquery (hstored _ _ hget)
    | inverseEuclidean => exact Metric.unsigned_inverseEuclidean _ _ _ _

/-! ## Two points -/

/-- Two points on the axis that is at a right angle to the west, the southern one first. -/
def poles : List Request :=
  [.build (TableEncoder.mk 2 [("south", #[.zero, .negativeOne]), ("north", #[.zero, .one])])
    [("s", "south"), ("n", "north")]]

/-- Seen from the west both are at a right angle, the southern one with a sign. -/
theorem nearestFirst_poles :
    NearestFirst ((ofSettings 2 {}).run poles) #[.negativeOne, .zero]
      [(⟨"n", .zero⟩, 1), (⟨"s", .negativeZero⟩, 0)] where
  all := by
    have hkeys : ((ofSettings 2 {}).run poles).keys = ["s", "n"] := by decide +kernel
    rw [hkeys]
    exact List.Perm.swap _ _ _
  similarity := by
    intro hit hhit
    rcases List.mem_pair.mp hhit with rfl | rfl
    · exact ⟨#[.zero, .one], by decide +kernel, by decide +kernel⟩
    · exact ⟨#[.zero, .negativeOne], by decide +kernel, by decide +kernel⟩
  descends := by decide

theorem find_poles :
    ((ofSettings 2 {}).run poles).find #[.negativeOne, .zero] 2 =
      .ok [⟨"n", .zero⟩, ⟨"s", .negativeZero⟩] :=
  ((filled_ofSettings 2 {}).run poles).find_of_nearestFirst nearestFirst_poles (by decide +kernel)
    (by decide +kernel) 2

theorem tiesBySlot_poles :
    ((ofSettings 2 {}).run poles).find #[.negativeOne, .zero] 2 =
        .ok [⟨"n", .zero⟩, ⟨"s", .negativeZero⟩] ∧
      TiesBySlot ((ofSettings 2 {}).run poles) #[.negativeOne, .zero]
        [⟨"n", .zero⟩, ⟨"s", .negativeZero⟩] :=
  ⟨find_poles, tiesBySlot_run find_poles⟩

/-- **Hits of the same value do not always stand in slot order.** -/
theorem not_keepsSlots_find :
    ¬ ∀ (dimensions : Nat) (settings : IndexSettings) (requests : List Request)
        (query : DenseVector) (k : Nat) (hits : List IndexHit),
        ((ofSettings dimensions settings).run requests).find query k = .ok hits →
          KeepsSlots ((ofSettings dimensions settings).run requests) hits := by
  intro h
  have hkeeps := h 2 {} poles #[.negativeOne, .zero] 2 _ find_poles
  have hsouth : Placed ((ofSettings 2 {}).run poles) [⟨"n", .zero⟩, ⟨"s", .negativeZero⟩]
      ⟨"s", .negativeZero⟩ 1 0 := ⟨rfl, by decide +kernel⟩
  have hnorth : Placed ((ofSettings 2 {}).run poles) [⟨"n", .zero⟩, ⟨"s", .negativeZero⟩]
      ⟨"n", .zero⟩ 0 1 := ⟨rfl, by decide +kernel⟩
  exact absurd (hkeeps hsouth hnorth (by decide) Nat.zero_lt_one) (by decide)

end VectorIndex

end Gazetteer
