import Gazetteer.Proofs.Encoding.Counting
import Gazetteer.Proofs.Index.CountVectors

/-!
# Shared features

The features of a text that an encoder knows decide what its vector counts (`isCount_of_encode`). A
feature that two texts share hits the same components in both vectors, so these meet
(`meet_of_encode`); a text without a known feature has the zero vector (`eq_zero_of_encode`). That
two features may hit one component by accident takes nothing away from that.
-/

set_option autoImplicit false

namespace Gazetteer

/-- Every feature hits a component: shapes without a hash, or without a component, are refused. -/
theorem BucketEncoder.exists_mem_buckets (e : BucketEncoder) (feature : String) :
    ∃ b ∈ e.buckets feature, b < e.shape.dimensions.toNat := by
  obtain ⟨-, ⟨hwords, -⟩, -⟩ := Shape.fault?_eq_none_iff.mp e.sound
  refine ⟨_, List.mem_map_of_mem (List.mem_range.mpr hwords), ?_⟩
  exact Nat.mod_lt _ e.dimensions_pos

namespace Encoder

variable {e : Encoder} {a b text : String} {x y : DenseVector}

/-- The features of a text that are in the vocabulary, repetitions included. -/
def knownFeatures (e : Encoder) (text : String) : List String :=
  e.base.vocabulary.elim [] fun v => (e.documents text).flatMap (e.base.knownFeatures v)

/-- A vector counts how often the known features of its text hit each component. -/
theorem isCount_of_encode (h : e.encode text = .ok x) :
    x.size = e.base.shape.dimensions.toNat ∧ ∀ i (hi : i < x.size), x[i].IsCount
      (min Binary32.countLimit (((e.knownFeatures text).flatMap e.base.buckets).count i)) := by
  rw [encode_eq] at h
  cases hv : e.base.vocabulary with
  | none =>
    rw [BucketEncoder.encodeParts, hv] at h
    cases h
  | some v =>
    obtain ⟨vector, hvector, hsize, hcount⟩ :=
      BucketEncoder.isCount_encodeParts hv (e.documents text)
    obtain rfl := Except.ok.inj (h.symm.trans hvector)
    refine ⟨hsize, fun i hi => ?_⟩
    rw [knownFeatures, hv]
    exact hcount i hi

theorem counts_of_encode (h : e.encode text = .ok x) : x.Counts := fun i hi =>
  (((isCount_of_encode h).2 i hi).between (Nat.min_le_left _ _)).mono (Nat.zero_le _)
    (Nat.le_refl _)

/-- Where a known feature hits, the vector has counted something. -/
theorem one_le_of_encode (h : e.encode text = .ok x) {feature : String}
    (hknown : feature ∈ e.knownFeatures text) {i : Nat} (hhit : i ∈ e.base.buckets feature)
    (hi : i < x.size) : Binary32.powerOfTwo 0 ≤ x[i].pattern := by
  have hcount := ((isCount_of_encode h).2 i hi).between (Nat.min_le_left _ _)
  have hpos : 0 < ((e.knownFeatures text).flatMap e.base.buckets).count i :=
    List.count_pos_iff.mpr (List.mem_flatMap.mpr ⟨feature, hknown, hhit⟩)
  have hlimit : 0 < Binary32.countLimit := by decide
  rw [if_neg (by omega)] at hcount
  exact hcount.low_le

/-- The vectors of texts that share a known feature have counted it in the same component. -/
theorem meet_of_encode (hx : e.encode a = .ok x) (hy : e.encode b = .ok y) {feature : String}
    (ha : feature ∈ e.knownFeatures a) (hb : feature ∈ e.knownFeatures b) :
    DenseVector.Meet x y := by
  obtain ⟨i, hhit, hi⟩ := e.base.exists_mem_buckets feature
  have hix : i < x.size := (isCount_of_encode hx).1 ▸ hi
  have hiy : i < y.size := (isCount_of_encode hy).1 ▸ hi
  exact ⟨i, hix, hiy, one_le_of_encode hx ha hhit hix, one_le_of_encode hy hb hhit hiy⟩

/-- A text without a known feature has the zero vector. -/
theorem eq_zero_of_encode (h : e.encode text = .ok x) (hnone : e.knownFeatures text = []) (i : Nat)
    (hi : i < x.size) : x[i] = .zero := by
  have hcount := (isCount_of_encode h).2 i hi
  rw [hnone, List.flatMap_nil, List.count_nil, Nat.min_zero] at hcount
  exact hcount.eq Binary32.isCount_zero

end Encoder

end Gazetteer
