import Gazetteer.Proofs.Encoding.SavedBytes

/-!
# Saved encoders of another version

A saved encoder begins with the version of its format, and what follows is laid out as that version
says. Reading goes about it the other way round: the bytes behind the version are read by the
layout of this version, and only what could be read is asked for its version
(`ofBytes_putWord32_append`). So **the mismatch is reported exactly where the same bytes could have
been loaded as this version** (`OtherVersion`, `otherVersion_ofBytes`); in all other cases,
which another layout or a cut makes likely, the bytes are called malformed, though nothing is wrong
with them but their version (`not_forall_mismatch`). Bytes of another version are never loaded.
-/

set_option autoImplicit false

namespace Gazetteer.SavedEncoder

open Bytes

/-- The version is read, and has no bearing on how the rest is read. -/
theorem take?_putWord32_append (v w : UInt32) (body : List UInt8) :
    take? (putWord32 v ++ body) =
      (take? (putWord32 w ++ body)).map fun taken => ({ taken.1 with version := v }, taken.2) := by
  simp only [take?, takeWord32?_put, Option.bind_eq_bind, Option.bind_some, Option.pure_def,
    Option.map_bind, Function.comp_def, Option.map_some]

theorem version_of_take?_putWord32 {v : UInt32} {body : List UInt8}
    {taken : SavedEncoder × List UInt8} (h : take? (putWord32 v ++ body) = some taken) :
    taken.1.version = v := by
  have hself := take?_putWord32_append v v body
  rw [h, Option.map_some, Option.some.injEq] at hself
  exact congrArg (fun t => t.1.version) hself

/-- What follows another version is read as if it were of this one, and then refused. -/
theorem ofBytes_putWord32_append {v : UInt32} (h : v ≠ savedVersion) (body : List UInt8) :
    ofBytes (putWord32 v ++ body) =
      (ofBytes (putWord32 savedVersion ++ body)).bind fun _ => .error (.version v) := by
  rw [ofBytes, take?_putWord32_append v savedVersion, ofBytes]
  cases htake : take? (putWord32 savedVersion ++ body) with
  | none => rfl
  | some taken =>
    simp only [Option.map_some, if_neg h, if_pos (version_of_take?_putWord32 htake)]
    rfl

/-- The only fault of bytes that begin with this version is that they are malformed. -/
theorem ofBytes_savedVersion_eq_error {body : List UInt8} {e : EncoderError}
    (h : ofBytes (putWord32 savedVersion ++ body) = .error e) : e = .malformed := by
  unfold ofBytes at h
  split at h
  · exact (Except.error.inj h).symm
  · rename_i m rest htake
    rw [if_pos (version_of_take?_putWord32 htake)] at h
    cases h

/-- What becomes of bytes behind the number of another version. -/
structure OtherVersion (v : UInt32) (body : List UInt8) : Prop where
  /-- They are never loaded. -/
  refused : ∀ m, ofBytes (putWord32 v ++ body) ≠ .ok m
  /-- The version is named as the fault where this version could be read in its place. -/
  mismatch : ofBytes (putWord32 v ++ body) = .error (.version v) ↔
    ∃ m, ofBytes (putWord32 savedVersion ++ body) = .ok m
  /-- Elsewhere the bytes are called malformed, whatever the version is. -/
  malformed : ofBytes (putWord32 v ++ body) = .error .malformed ↔
    ∀ m, ofBytes (putWord32 savedVersion ++ body) ≠ .ok m

/--
**A version other than this one is reported as such exactly where the bytes behind it have the
layout of this version**: they may go on behind that, but must not end before it.
-/
theorem otherVersion_ofBytes {v : UInt32} (h : v ≠ savedVersion) :
    (∀ body, OtherVersion v body) ∧
      ∀ m : SavedEncoder, m.version = v → m.Addressable →
        (∀ rest, ofBytes (m.toBytes ++ rest) = .error (.version v)) ∧
          ∀ front, front <+: m.toBytes → front ≠ m.toBytes →
            ofBytes front = .error .malformed := by
  constructor
  · intro body
    have hread := ofBytes_putWord32_append h body
    cases hthis : ofBytes (putWord32 savedVersion ++ body) with
    | ok m =>
      rw [hthis] at hread
      refine ⟨?_, ?_, ?_⟩ <;> rw [hread]
      · nofun
      · exact iff_of_true rfl ⟨m, hthis⟩
      · exact iff_of_false nofun fun hnone => hnone m hthis
    | error e =>
      obtain rfl := ofBytes_savedVersion_eq_error hthis
      rw [hthis] at hread
      refine ⟨?_, ?_, ?_⟩ <;> rw [hread]
      · nofun
      · refine iff_of_false nofun ?_
        rintro ⟨m, hm⟩
        rw [hthis] at hm
        cases hm
      · refine iff_of_true rfl fun m hm => ?_
        rw [hthis] at hm
        cases hm
  · rintro m rfl haddressable
    refine ⟨fun rest => ?_, fun front => ofBytes_of_prefix haddressable⟩
    rw [ofBytes, take?_toBytes haddressable]
    exact if_neg h

/--
What a format with one field less would write for an empty vocabulary: width, kind of features,
language, least length of words, number of features, and no separator.
-/
def withoutHashes : List UInt8 :=
  putWord64 512 ++ putKind .words ++ putWord32 (languageNumber .english) ++ putWord64 1 ++
    ofNat 8 0 ++ putOptionalText none

/-- The version is not always named as the fault: bytes of another layout are called malformed. -/
theorem not_forall_mismatch :
    ¬ ∀ (v : UInt32) (body : List UInt8), v ≠ savedVersion →
      ofBytes (putWord32 v ++ body) = .error (.version v) := by
  intro hall
  have hmismatch := hall 2 withoutHashes (by decide)
  have hmalformed : ofBytes (putWord32 2 ++ withoutHashes) = .error .malformed := by
    decide +kernel
  rw [hmalformed] at hmismatch
  cases hmismatch

/-- The greatest version before what this version writes, whole and cut, and before another layout. -/
theorem otherVersion_newest :
    let v : UInt32 := 0xFFFFFFFF
    let newest : SavedEncoder := { sample with version := v }
    v ≠ savedVersion ∧ OtherVersion v withoutHashes ∧
      ofBytes (newest.toBytes ++ [7]) = .error (.version v) ∧
        ofBytes newest.toBytes.dropLast = .error .malformed ∧
          ofBytes (putWord32 v ++ withoutHashes) = .error .malformed := by
  intro v newest
  have hv : v ≠ savedVersion := by decide
  have hcontract := otherVersion_ofBytes hv
  have haddressable : newest.Addressable := ⟨addressable_sample.size, addressable_sample.feature,
    addressable_sample.separator⟩
  obtain ⟨hwhole, hcut⟩ := hcontract.2 newest rfl haddressable
  exact ⟨hv, hcontract.1 withoutHashes, hwhole [7],
    hcut _ (List.dropLast_prefix _) (by decide +kernel), by decide +kernel⟩

end Gazetteer.SavedEncoder
