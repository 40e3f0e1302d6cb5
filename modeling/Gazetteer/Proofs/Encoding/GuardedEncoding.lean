import Gazetteer.Proofs.Encoding.Training
import Gazetteer.Proofs.Fallible

/-!
# Encoding under guard

Encoding reads bytes of a digest, divides by the number of components, goes to a component by its
number, and cuts words into windows of some width. Each of these makes sense for some numbers only.
For the others a definition has some value too, but a machine stops. `Guarded` is encoding once
more, over any shape whatsoever, where every such operation first looks whether it makes sense, and
fails if it does not.

**With a shape without fault nothing fails, and what comes out is what the encoder says**
(`Guarded.encodeParts_eq`). The three tests of a shape are what the guards ask for: a digest has
eight words, so eight hashes can be read (`digestWord_eq`); there is a component, so a remainder is
the number of one (`buckets_eq`); and pieces of words have a character (`features_eq`). What one step
hands on to the next is the width of the vector (`Wide`).
-/

set_option autoImplicit false

namespace Gazetteer

/-- Where a machine stops. -/
inductive Breach where
  /-- Reading a byte that the digest does not have. -/
  | digestByte (i : Nat)
  | divisionByZero
  /-- Going to a component that the vector does not have. -/
  | component (i : Nat)
  /-- Cutting into windows without a width. -/
  | noWindow
  deriving DecidableEq, Repr

namespace Guarded

/-! ## Operations that look first -/

def byte (digest : Vector UInt8 32) (i : Nat) : Except Breach UInt8 :=
  if h : i < 32 then .ok digest[i] else .error (.digestByte i)

/-- The `i`-th word of a digest, byte by byte. -/
def digestWord (digest : Vector UInt8 32) (i : Nat) : Except Breach Nat :=
  ((List.range' (4 * i) 4).mapM (byte digest)).map Bytes.toNat

def remainder (n d : Nat) : Except Breach Nat :=
  if d = 0 then .error .divisionByZero else .ok (n % d)

def addOneAt (vector : DenseVector) (i : Nat) : Except Breach DenseVector :=
  if i < vector.size then .ok (vector.modify i (· + Binary32.one)) else .error (.component i)

def windows {α : Type} (width : Nat) (l : List α) : Except Breach (List (List α)) :=
  if width = 0 then .error .noWindow else .ok (FeatureKind.windows width l)

/-! ## Encoding with them -/

def gramsOf (width : Nat) (word : String) : Except Breach (List String) :=
  let whole := FeatureKind.marked word
  if whole.length ≤ width then .ok [String.ofList whole]
  else (windows width whole).map fun pieces => String.ofList whole :: pieces.map String.ofList

def features (kind : FeatureKind) (text : String) (language : Language)
    (minTokenLength : UInt64) : Except Breach (List String) :=
  let words := (tokenize text language).filter fun w => minTokenLength.toNat ≤ w.length
  match kind with
  | .words => .ok words
  | .grams width => (words.mapM (gramsOf width.toNat)).map List.flatten

def buckets (s : Shape) (feature : String) : Except Breach (List Nat) :=
  let digest := Blake3.hash (Bytes.ofText feature)
  (List.range s.hashes.toNat).mapM fun i => do
    remainder (← digestWord digest i) s.dimensions.toNat

def addFeature (s : Shape) (vector : DenseVector) (feature : String) :
    Except Breach DenseVector := do
  (← buckets s feature).foldlM addOneAt vector

def addText (s : Shape) (v : Vocabulary) (vector : DenseVector) (text : String) :
    Except Breach DenseVector := do
  let features ← features s.kind text v.language v.minTokenLength
  (features.filter v.contains).foldlM (addFeature s) vector

/-- The vector of a text in parts, for a shape that nobody has looked at. -/
def encodeParts (s : Shape) (v : Vocabulary) (parts : List String) : Except Breach DenseVector :=
  parts.foldlM (addText s v) (Array.replicate s.dimensions.toNat .zero)

/-! ## Nothing fails -/

theorem byte_eq {digest : Vector UInt8 32} {i : Nat} (hi : i < 32) :
    byte digest i = .ok (digest.toList[i]?.getD 0) := by
  have hlt : i < digest.toList.length := by
    rw [Vector.length_toList]
    exact hi
  rw [byte, dif_pos hi, List.getElem?_eq_getElem hlt, Option.getD_some, Vector.getElem_toList]

/-- A digest has eight words. -/
theorem digestWord_eq {digest : Vector UInt8 32} {i : Nat} (hi : i < 8) :
    digestWord digest i = .ok (BucketEncoder.digestWord digest i) := by
  have hbytes : ∀ j ∈ List.range' (4 * i) 4, byte digest j = .ok (digest.toList[j]?.getD 0) := by
    intro j hj
    obtain ⟨-, hlt⟩ := List.mem_range'_1.mp hj
    exact byte_eq (by omega)
  have hword : (List.range' (4 * i) 4).map (fun j => digest.toList[j]?.getD 0) =
      (digest.toList.drop (4 * i)).take 4 := by
    refine List.ext_getElem (by simp; omega) fun n hn _ => ?_
    have hplace : 4 * i + n < digest.toList.length := by
      rw [List.length_map, List.length_range'] at hn
      rw [Vector.length_toList]
      omega
    rw [List.getElem_map, List.getElem_range', Nat.one_mul, List.getElem?_eq_getElem hplace,
      Option.getD_some, List.getElem_take, List.getElem_drop]
  rw [digestWord, mapM_eq_ok_map hbytes, hword]
  rfl

section Sound

variable {e : BucketEncoder}

theorem buckets_eq (e : BucketEncoder) (feature : String) :
    buckets e.shape feature = .ok (e.buckets feature) := by
  obtain ⟨-, ⟨-, hhashes⟩, -⟩ := Shape.fault?_eq_none_iff.mp e.sound
  refine mapM_eq_ok_map fun i hi => ?_
  have hword : i < 8 := Nat.lt_of_lt_of_le (List.mem_range.mp hi) hhashes
  rw [digestWord_eq hword]
  exact if_neg (Nat.ne_of_gt e.dimensions_pos)

theorem features_eq (e : BucketEncoder) (v : Vocabulary) (text : String) :
    features e.shape.kind text v.language v.minTokenLength =
      .ok (e.shape.kind.features text v.language v.minTokenLength) := by
  obtain ⟨-, -, hpieces⟩ := Shape.fault?_eq_none_iff.mp e.sound
  cases hkind : e.shape.kind with
  | words => rfl
  | grams width =>
    have hwidth : width.toNat ≠ 0 := by
      intro hzero
      have hnone : width = 0 := UInt64.toNat_inj.mp hzero
      exact hpieces (hnone ▸ hkind)
    have hgrams : ∀ word,
        gramsOf width.toNat word = .ok (FeatureKind.gramsOf width.toNat word) := by
      intro word
      unfold gramsOf FeatureKind.gramsOf
      simp only
      by_cases hshort : (FeatureKind.marked word).length ≤ width.toNat
      · rw [if_pos hshort, if_pos hshort]
      · rw [if_neg hshort, if_neg hshort, windows, if_neg hwidth]
        rfl
    unfold features FeatureKind.features
    simp only
    rw [mapM_eq_ok_map fun word _ => hgrams word]
    exact congrArg Except.ok List.flatMap_def.symm

/-- As wide as the shape says: every step keeps this, and the next one relies on it. -/
def Wide (e : BucketEncoder) (vector : DenseVector) : Prop :=
  vector.size = e.shape.dimensions.toNat

theorem addFeature_eq {vector : DenseVector} (h : Wide e vector) (feature : String) :
    addFeature e.shape vector feature = .ok (BucketEncoder.addHits vector (e.buckets feature)) ∧
      Wide e (BucketEncoder.addHits vector (e.buckets feature)) := by
  rw [addFeature, buckets_eq]
  refine foldlM_eq_ok (fun vector h b hb => ⟨?_, ?_⟩) h
  · have hlt : b < vector.size := Nat.lt_of_lt_of_eq (BucketEncoder.lt_of_mem_buckets hb) h.symm
    exact if_pos hlt
  · exact Array.size_modify.trans h

theorem addText_eq {vector : DenseVector} (h : Wide e vector) (v : Vocabulary) (text : String) :
    addText e.shape v vector text = .ok (e.addText v vector text) ∧
      Wide e (e.addText v vector text) := by
  have hsame : e.addText v vector text = (e.knownFeatures v text).foldl
      (fun acc feature => BucketEncoder.addHits acc (e.buckets feature)) vector :=
    List.foldl_flatMap
  rw [addText, features_eq, hsame]
  refine foldlM_eq_ok (fun acc hacc feature _ => ?_) h
  exact addFeature_eq hacc feature

/-- **With a shape without fault no guard fails**, and none changes what the encoder says. -/
theorem encodeParts_eq {v : Vocabulary} (h : e.vocabulary = some v) (parts : List String) :
    ∃ vector, e.encodeParts parts = .ok vector ∧ vector.size = e.shape.dimensions.toNat ∧
      encodeParts e.shape v parts = .ok vector := by
  have hblank : Wide e e.blank := Array.size_replicate
  have hparts : ∀ vector, Wide e vector → ∀ part ∈ parts,
      addText e.shape v vector part = .ok (e.addText v vector part) ∧
        Wide e (e.addText v vector part) :=
    fun _ hvector part _ => addText_eq hvector v part
  obtain ⟨hguarded, hwide⟩ := foldlM_eq_ok hparts hblank
  refine ⟨parts.foldl (e.addText v) e.blank, ?_, hwide, hguarded⟩
  rw [BucketEncoder.encodeParts, h]

/-- Each of the tests of a shape keeps one guard from failing. -/
example :
    encodeParts { hashes := 9, kind := .words } ⟨.english, 1, .ofList [("ab", 1)]⟩ ["ab"] =
      .error (.digestByte 32) := by decide +kernel

example :
    encodeParts { dimensions := 0, kind := .words } ⟨.english, 1, .ofList [("ab", 1)]⟩ ["ab"] =
      .error .divisionByZero := by decide +kernel

example : encodeParts { kind := .grams 0 } ⟨.english, 1, .empty⟩ ["ab"] = .error .noWindow := by
  decide +kernel

end Sound

end Guarded

end Gazetteer
