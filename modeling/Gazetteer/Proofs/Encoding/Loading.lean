import Gazetteer.Proofs.Encoding.GuardedEncoding
import Gazetteer.Proofs.Encoding.SavedBytes

/-!
# Loading what somebody else wrote

Bytes come from outside, and what can be read of them need not have been written by this library:
every number in them may be any number. **Whatever was read can safely be loaded** (`LoadsSafely`,
`loadsSafely_of_ofBytes`). It is refused for one of four faults, and for these only (`fault?`); what
is not refused is an encoder that is ready and encodes every text, and no guard (`Guarded`) fails on
the way.

Nothing else has to be known of what was read. How words are told apart, how short they may be, and
which features there are with which counts, encoding takes as it comes.
-/

set_option autoImplicit false

namespace Gazetteer

theorem BucketEncoder.ofShape_of_fault {shape : Shape} {fault : EncoderFault}
    (h : shape.fault? = some fault) (v : Option Vocabulary) :
    ofShape shape v = .error (.invalid fault) := by
  unfold ofShape
  split
  · rename_i hsound
    rw [h] at hsound
    cases hsound
  · rename_i first hfirst
    rw [h] at hfirst
    rw [Option.some.inj hfirst]

namespace SavedEncoder

/-! ## What is refused -/

/-- The first thing wrong with what was read: the shape is looked at, then the separator. -/
def fault? (m : SavedEncoder) : Option EncoderFault :=
  m.shape.fault?.or (if m.separator = some "" then some .emptySeparator else none)

theorem fault?_eq_none_iff {m : SavedEncoder} :
    m.fault? = none ↔ m.shape.dimensions ≠ 0 ∧
      (1 ≤ m.shape.hashes.toNat ∧ m.shape.hashes.toNat ≤ maxHashes) ∧
        m.shape.kind ≠ .grams 0 ∧ m.separator ≠ some "" := by
  rw [fault?, Option.or_eq_none_iff, Shape.fault?_eq_none_iff, and_assoc, and_assoc]
  by_cases hseparator : m.separator = some "" <;> simp [hseparator]

/-- What has a fault is refused for it. -/
theorem toEncoder_of_fault {m : SavedEncoder} {fault : EncoderFault} (h : m.fault? = some fault) :
    m.toEncoder = .error (.invalid fault) := by
  rw [fault?] at h
  cases hshape : m.shape.fault? with
  | some first =>
    rw [hshape, Option.some_or] at h
    rw [toEncoder, toBucketEncoder, BucketEncoder.ofShape_of_fault hshape, ← Option.some.inj h]
    rfl
  | none =>
    rw [hshape, Option.none_or] at h
    split at h
    · rename_i hseparator
      have hbase : m.toBucketEncoder = .ok ⟨m.shape, some m.vocabulary, hshape⟩ :=
        BucketEncoder.ofShape_shape ⟨m.shape, some m.vocabulary, hshape⟩
      rw [toEncoder, hbase, hseparator, ← Option.some.inj h]
      rfl
    · cases h

/-- What has no fault becomes an encoder with all that was read, and nothing besides. -/
theorem exists_toEncoder {m : SavedEncoder} (h : m.fault? = none) :
    ∃ e, m.toEncoder = .ok e ∧ e.base.shape = m.shape ∧ e.base.vocabulary = some m.vocabulary ∧
      e.toSaved = .ok { m with version := savedVersion } := by
  obtain ⟨hshape, hseparator⟩ := Option.or_eq_none_iff.mp h
  let base : BucketEncoder := ⟨m.shape, some m.vocabulary, hshape⟩
  have hbase : m.toBucketEncoder = .ok base := base.ofShape_shape
  cases hm : m.separator with
  | none =>
    refine ⟨.whole base, ?_, rfl, rfl, ?_⟩
    · rw [toEncoder, hbase, hm]
      rfl
    · rfl
  | some separator =>
    have hne : separator ≠ "" := by
      rintro rfl
      rw [if_pos hm] at hseparator
      cases hseparator
    refine ⟨.parts ⟨base, separator, hne⟩, ?_, rfl, rfl, ?_⟩
    · rw [toEncoder, hbase, hm]
      simp only [bind, Except.bind, PartsEncoder.ofBase_base ⟨base, separator, hne⟩]
      rfl
    · rfl

/-! ## What is loaded -/

/-- What becomes of an encoder that was read, wherever it came from. -/
structure LoadsSafely (m : SavedEncoder) : Prop where
  /-- The four faults are all that can keep it from being used. -/
  refused : (∃ error, m.toEncoder = .error error) ↔
    m.shape.dimensions = 0 ∨ ¬ (1 ≤ m.shape.hashes.toNat ∧ m.shape.hashes.toNat ≤ maxHashes) ∨
      m.shape.kind = .grams 0 ∨ m.separator = some ""
  invalid : ∀ error, m.toEncoder = .error error →
    ∃ fault, m.fault? = some fault ∧ error = .invalid fault
  /-- The encoder is ready, is as wide as was read, and would be saved as what was read. -/
  ready : ∀ e, m.toEncoder = .ok e →
    TextEncoder.isReady e = true ∧ TextEncoder.dimensions e = m.shape.dimensions.toNat ∧
      e.toSaved = .ok m
  /-- Every text has a vector of this width, and no guard fails on the way to it. -/
  encode : ∀ e, m.toEncoder = .ok e → ∀ text, ∃ vector, e.encode text = .ok vector ∧
    vector.size = TextEncoder.dimensions e ∧
      Guarded.encodeParts m.shape m.vocabulary (e.documents text) = .ok vector

/-- **Whatever bytes an encoder was read of, it is refused for what is wrong with it, or safe.** -/
theorem loadsSafely_of_ofBytes {bytes : List UInt8} {m : SavedEncoder} (h : ofBytes bytes = .ok m) :
    m.LoadsSafely := by
  have hversion := (ofBytes_eq_ok.mp h).1
  have hrefused : (∃ error, m.toEncoder = .error error) ↔ m.fault? ≠ none := by
    constructor
    · rintro ⟨error, herror⟩ hnone
      obtain ⟨e, he, -⟩ := exists_toEncoder hnone
      rw [he] at herror
      cases herror
    · intro hsome
      obtain ⟨fault, hfault⟩ := Option.ne_none_iff_exists'.mp hsome
      exact ⟨.invalid fault, toEncoder_of_fault hfault⟩
  have hloaded : ∀ e, m.toEncoder = .ok e → e.base.shape = m.shape ∧
      e.base.vocabulary = some m.vocabulary ∧ e.toSaved = .ok m := by
    intro e he
    cases hfault : m.fault? with
    | some fault =>
      rw [toEncoder_of_fault hfault] at he
      cases he
    | none =>
      obtain ⟨e', he', hshape, hvocabulary, hsaved⟩ := exists_toEncoder hfault
      obtain rfl : e' = e := Except.ok.inj (he'.symm.trans he)
      rw [← hversion] at hsaved
      exact ⟨hshape, hvocabulary, hsaved⟩
  refine { refused := ?_, invalid := ?_, ready := ?_, encode := ?_ }
  · rw [hrefused, ne_eq, fault?_eq_none_iff]
    tauto
  · intro error herror
    obtain ⟨fault, hfault⟩ := Option.ne_none_iff_exists'.mp (hrefused.mp ⟨error, herror⟩)
    rw [toEncoder_of_fault hfault] at herror
    exact ⟨fault, hfault, (Except.error.inj herror).symm⟩
  · intro e he
    obtain ⟨hshape, hvocabulary, hsaved⟩ := hloaded e he
    refine ⟨?_, congrArg (fun shape => shape.dimensions.toNat) hshape, hsaved⟩
    exact congrArg Option.isSome hvocabulary
  · intro e he text
    obtain ⟨hshape, hvocabulary, -⟩ := hloaded e he
    obtain ⟨vector, hvector, hsize, hguarded⟩ :=
      Guarded.encodeParts_eq hvocabulary (e.documents text)
    rw [hshape] at hguarded
    exact ⟨vector, (e.encode_eq text).trans hvector, hsize, hguarded⟩

/-- As few components as can be, as many hashes, and a feature without a character, seen never. -/
def odd : SavedEncoder where
  version := savedVersion
  shape := { dimensions := 1, hashes := 8, kind := .grams 1 }
  vocabulary := ⟨.unspecified, 0, .ofList [("", 0), ("<", 5)]⟩
  separator := some "a"

/-- The encoder of odd bytes can be used; with one hash more it is refused. -/
theorem loadsSafely_odd :
    let crowded : SavedEncoder := { odd with shape := { odd.shape with hashes := 9 } }
    ofBytes odd.toBytes = .ok odd ∧ odd.LoadsSafely ∧ odd.fault? = none ∧
      ofBytes crowded.toBytes = .ok crowded ∧ crowded.LoadsSafely ∧
        crowded.toEncoder = .error (.invalid (.hashCount 9)) := by
  intro crowded
  have hodd : ofBytes odd.toBytes = .ok odd := by decide +kernel
  have hcrowded : ofBytes crowded.toBytes = .ok crowded := by decide +kernel
  exact ⟨hodd, loadsSafely_of_ofBytes hodd, by decide +kernel, hcrowded,
    loadsSafely_of_ofBytes hcrowded, toEncoder_of_fault (by decide +kernel)⟩

end SavedEncoder

end Gazetteer
