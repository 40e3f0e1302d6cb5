import Gazetteer.Encoding.SavedEncoder
import Gazetteer.Number.Whole
import Gazetteer.Proofs.SortedMaps
import Gazetteer.Proofs.Text.ByteOrder

/-!
# Saved encoders read back

A saved encoder is a sequence of fields, each with a writer and a reader, so what is true of the
whole is true of each field first. Two facts are enough. A reader takes back what its writer wrote
and leaves what follows (`take_put` lemmas). And it is `Local`: it never looks behind the field, so
more bytes at the end change nothing.

Together they settle what becomes of bytes that are cut off anywhere: had a reader been content with
fewer, it would be content with all of them too, and leave some (`Local.eq_of_prefix`).
-/

set_option autoImplicit false

namespace Gazetteer

/-! ## Readers that look no further -/

namespace Bytes

/-- What a reader takes does not depend on what follows. -/
def Local {α : Type} (take : List UInt8 → Option (α × List UInt8)) : Prop :=
  ∀ bytes a rest, take bytes = some (a, rest) →
    ∀ more, take (bytes ++ more) = some (a, rest ++ more)

/-- Fewer bytes than those that a reader uses up are not enough for it. -/
theorem Local.eq_of_prefix {α : Type} {take : List UInt8 → Option (α × List UInt8)}
    (hlocal : Local take) {bytes front : List UInt8} {a : α} (hall : take bytes = some (a, []))
    (hfront : front <+: bytes) (hread : take front ≠ none) : front = bytes := by
  obtain ⟨more, rfl⟩ := hfront
  obtain ⟨⟨a', rest⟩, hfew⟩ := Option.ne_none_iff_exists'.mp hread
  have hboth := hlocal front a' rest hfew more
  rw [hall, Option.some.injEq, Prod.mk.injEq] at hboth
  rw [(List.nil_eq_append_iff.mp hboth.2).2, List.append_nil]

theorem Local.map {α β : Type} {take : List UInt8 → Option (α × List UInt8)} (h : Local take)
    (f : α → β) : Local fun bytes => (take bytes).map fun p => (f p.1, p.2) := by
  intro bytes b rest hread more
  obtain ⟨⟨a, rest'⟩, hfirst, hpair⟩ := Option.map_eq_some_iff.mp hread
  cases hpair
  simp only [h bytes a rest' hfirst more, Option.map_some]

theorem Local.bind {α β : Type} {take : List UInt8 → Option (α × List UInt8)}
    {next : α → List UInt8 → Option (β × List UInt8)} (h : Local take)
    (hnext : ∀ a, Local (next a)) : Local fun bytes => (take bytes).bind fun p => next p.1 p.2 := by
  intro bytes b rest hread more
  obtain ⟨⟨a, rest'⟩, hfirst, hsecond⟩ := Option.bind_eq_some_iff.mp hread
  simp only [h bytes a rest' hfirst more, Option.bind_some]
  exact hnext a rest' b rest hsecond more

theorem local_some {α : Type} (a : α) : Local fun bytes => some (a, bytes) := by
  intro bytes b rest hread more
  cases hread
  rfl

theorem local_none {α : Type} : Local (α := α) fun _ => none := nofun

/-- What needs no bytes may come in between. -/
theorem local_bind {α β : Type} (o : Option α) {next : α → List UInt8 → Option (β × List UInt8)}
    (hnext : ∀ a, Local (next a)) : Local fun bytes => o.bind fun a => next a bytes := by
  cases o with
  | none => exact local_none
  | some a => exact hnext a

theorem local_takeNat? : ∀ width, Local (takeNat? width) := by
  intro width
  induction width with
  | zero => exact local_some 0
  | succ width ih =>
    intro bytes n rest hread more
    cases bytes with
    | nil => cases hread
    | cons b bytes =>
      exact ih.map (fun n => b.toNat + 256 * n) bytes n rest hread more

theorem local_takeBytes? : ∀ count, Local (takeBytes? count) := by
  intro count
  induction count with
  | zero => exact local_some []
  | succ count ih =>
    intro bytes taken rest hread more
    cases bytes with
    | nil => cases hread
    | cons b bytes => exact ih.map (fun taken => b :: taken) bytes taken rest hread more

theorem local_takeText? : Local takeText? :=
  (local_takeNat? 8).bind fun length => (local_takeBytes? length).bind fun taken =>
    local_bind (toText? taken) local_some

theorem Local.ite {α : Type} {take take' : List UInt8 → Option (α × List UInt8)} (h : Local take)
    (h' : Local take') (c : Prop) [Decidable c] :
    Local fun bytes => if c then take bytes else take' bytes := by
  by_cases hc : c
  · simpa only [if_pos hc] using h
  · simpa only [if_neg hc] using h'

/-! ## What is read fits what is written -/

theorem lt_bound_of_takeNat? {width : Nat} : ∀ {bytes : List UInt8} {n : Nat} {rest : List UInt8},
    takeNat? width bytes = some (n, rest) → n < bound width := by
  induction width with
  | zero =>
    intro bytes n rest h
    cases h
    exact Nat.one_pos
  | succ width ih =>
    intro bytes n rest h
    cases bytes with
    | nil => cases h
    | cons b bytes =>
      obtain ⟨⟨high, rest'⟩, hhigh, hpair⟩ := Option.map_eq_some_iff.mp h
      cases hpair
      have hlow : b.toNat < 256 := b.toNat_lt
      have hfits : high < bound width := ih hhigh
      rw [bound]
      omega

theorem length_of_takeBytes? {count : Nat} : ∀ {bytes taken rest : List UInt8},
    takeBytes? count bytes = some (taken, rest) → taken.length = count := by
  induction count with
  | zero =>
    intro bytes taken rest h
    cases h
    rfl
  | succ count ih =>
    intro bytes taken rest h
    cases bytes with
    | nil => cases h
    | cons b bytes =>
      obtain ⟨⟨taken', rest'⟩, htaken, hpair⟩ := Option.map_eq_some_iff.mp h
      cases hpair
      exact congrArg Nat.succ (ih htaken)

/-- A text has no other bytes than those that it was read from. -/
theorem ofText_of_toText? {bytes : List UInt8} {s : String} (h : toText? bytes = some s) :
    ofText s = bytes := by
  unfold toText? String.fromUTF8? at h
  split at h
  · cases h
    simp [ofText, String.toUTF8, String.fromUTF8]
  · cases h

theorem length_ofText_of_takeText? {bytes rest : List UInt8} {s : String}
    (h : takeText? bytes = some (s, rest)) : (ofText s).length < bound 8 := by
  obtain ⟨⟨length, bytes'⟩, hlength, h⟩ := Option.bind_eq_some_iff.mp h
  obtain ⟨⟨taken, bytes''⟩, htaken, h⟩ := Option.bind_eq_some_iff.mp h
  obtain ⟨text, htext, h⟩ := Option.bind_eq_some_iff.mp h
  cases h
  rw [ofText_of_toText? htext, length_of_takeBytes? htaken]
  exact lt_bound_of_takeNat? hlength

end Bytes

namespace SavedEncoder

open Bytes

/-! ## Each field taken back -/

theorem takeWord32?_put (n : UInt32) (rest : List UInt8) :
    takeWord32? (putWord32 n ++ rest) = some (n, rest) := by
  simp [takeWord32?, putWord32, takeNat?_ofNat_append (show n.toNat < bound 4 from n.toNat_lt)]

theorem takeWord64?_put (n : UInt64) (rest : List UInt8) :
    takeWord64? (putWord64 n ++ rest) = some (n, rest) := by
  simp [takeWord64?, putWord64, takeNat?_ofNat_append (show n.toNat < bound 8 from n.toNat_lt)]

theorem takeKind?_put (kind : FeatureKind) (rest : List UInt8) :
    takeKind? (putKind kind ++ rest) = some (kind, rest) := by
  cases kind with
  | words => simp [takeKind?, putKind, takeWord32?_put]
  | grams width => simp [takeKind?, putKind, takeWord32?_put, takeWord64?_put]

theorem languageOfNumber?_languageNumber (l : Language) :
    languageOfNumber? (languageNumber l) = some l := by
  cases l <;> rfl

theorem takeEntries?_put {entries : List (String × UInt32)}
    (h : ∀ entry ∈ entries, (ofText entry.1).length < bound 8) (rest : List UInt8) :
    takeEntries? entries.length (entries.flatMap putEntry ++ rest) = some (entries, rest) := by
  induction entries with
  | nil => rfl
  | cons entry entries ih =>
    have hentry := h entry List.mem_cons_self
    have hentries := ih fun e he => h e (List.mem_cons_of_mem _ he)
    simp [takeEntries?, putEntry, takeText?_putText_append hentry, takeWord32?_put, hentries]

theorem takeOptionalText?_put {s? : Option String}
    (h : ∀ s ∈ s?, (ofText s).length < bound 8) (rest : List UInt8) :
    takeOptionalText? (putOptionalText s? ++ rest) = some (s?, rest) := by
  cases s? with
  | none => rfl
  | some s => simp [takeOptionalText?, putOptionalText, takeText?_putText_append (h s rfl)]

/-- Features may come in any order and more than once; the map of them is what is taken. -/
theorem takeVocabulary?_put (language : Language) (minTokenLength : UInt64)
    {entries : List (String × UInt32)} (hsize : entries.length < bound 8)
    (h : ∀ entry ∈ entries, (ofText entry.1).length < bound 8) (rest : List UInt8) :
    takeVocabulary? (putWord32 (languageNumber language) ++ putWord64 minTokenLength ++
        ofNat 8 entries.length ++ entries.flatMap putEntry ++ rest) =
      some (⟨language, minTokenLength, .ofList entries⟩, rest) := by
  simp [takeVocabulary?, takeWord32?_put, takeWord64?_put, languageOfNumber?_languageNumber,
    takeNat?_ofNat_append hsize, takeEntries?_put h]

/-! ## Readers of fields look no further -/

theorem local_takeWord32? : Local takeWord32? := (local_takeNat? 4).map UInt32.ofNat

theorem local_takeWord64? : Local takeWord64? := (local_takeNat? 8).map UInt64.ofNat

theorem local_takeKind? : Local takeKind? :=
  local_takeWord32?.bind fun number =>
    (local_some FeatureKind.words).ite
      ((local_takeWord64?.bind fun width => local_some (FeatureKind.grams width)).ite local_none
        (number = 1))
      (number = 0)

theorem local_takeEntries? : ∀ count, Local (takeEntries? count) := by
  intro count
  induction count with
  | zero => exact local_some []
  | succ count ih =>
    exact local_takeText?.bind fun feature => local_takeWord32?.bind fun n =>
      ih.bind fun entries => local_some ((feature, n) :: entries)

theorem local_takeVocabulary? : Local takeVocabulary? :=
  local_takeWord32?.bind fun number => local_bind (languageOfNumber? number) fun language =>
    local_takeWord64?.bind fun minTokenLength => (local_takeNat? 8).bind fun size =>
      (local_takeEntries? size).bind fun entries =>
        local_some (Vocabulary.mk language minTokenLength (.ofList entries))

theorem local_takeOptionalText? : Local takeOptionalText? := by
  intro bytes s? rest hread more
  unfold takeOptionalText? at hread
  split at hread
  · cases hread
    rfl
  · rename_i bytes
    exact local_takeText?.map some bytes s? rest hread more
  · cases hread

theorem local_take? : Local take? :=
  local_takeWord32?.bind fun version => local_takeWord64?.bind fun dimensions =>
    local_takeWord64?.bind fun hashes => local_takeKind?.bind fun kind =>
      local_takeVocabulary?.bind fun vocabulary => local_takeOptionalText?.bind fun separator =>
        local_some (SavedEncoder.mk version ⟨dimensions, hashes, kind⟩ vocabulary separator)

/-! ## Whole encoders -/

/--
Lengths are written as words of 64 bits. These are enough for the lengths in a saved encoder, as
they are for whatever fits a memory with addresses of 64 bits.
-/
structure Addressable (m : SavedEncoder) : Prop where
  size : m.vocabulary.counts.size < bound 8
  feature : ∀ feature ∈ m.vocabulary.counts.keys, (ofText feature).length < bound 8
  separator : ∀ s ∈ m.separator, (ofText s).length < bound 8

theorem Addressable.entry {m : SavedEncoder} (h : m.Addressable) :
    ∀ entry ∈ m.vocabulary.counts.entries, (ofText entry.1).length < bound 8 :=
  fun entry he => h.feature entry.1 (List.mem_map_of_mem he)

theorem take?_toBytes {m : SavedEncoder} (h : m.Addressable) (rest : List UInt8) :
    take? (m.toBytes ++ rest) = some (m, rest) := by
  have hvocabulary := fun rest => takeVocabulary?_put m.vocabulary.language
    m.vocabulary.minTokenLength h.size h.entry rest
  simp only [SortedMap.ofList_entries] at hvocabulary
  simp only [toBytes, putVocabulary, List.append_assoc] at hvocabulary ⊢
  simp [take?, takeWord32?_put, takeWord64?_put, takeKind?_put, SortedMap.size, hvocabulary,
    takeOptionalText?_put h.separator]

theorem lengths_of_takeEntries? {count : Nat} : ∀ {bytes rest : List UInt8}
    {entries : List (String × UInt32)}, takeEntries? count bytes = some (entries, rest) →
      entries.length = count ∧ ∀ entry ∈ entries, (ofText entry.1).length < bound 8 := by
  induction count with
  | zero =>
    intro bytes rest entries h
    cases h
    exact ⟨rfl, nofun⟩
  | succ count ih =>
    intro bytes rest entries h
    obtain ⟨⟨feature, _⟩, hfeature, h⟩ := Option.bind_eq_some_iff.mp h
    obtain ⟨⟨n, _⟩, _, h⟩ := Option.bind_eq_some_iff.mp h
    obtain ⟨⟨entries', _⟩, hentries, h⟩ := Option.bind_eq_some_iff.mp h
    cases h
    obtain ⟨hlength, hrest⟩ := ih hentries
    exact ⟨congrArg Nat.succ hlength,
      List.forall_mem_cons.mpr ⟨length_ofText_of_takeText? hfeature, hrest⟩⟩

theorem lengths_of_takeVocabulary? {bytes rest : List UInt8} {v : Vocabulary}
    (h : takeVocabulary? bytes = some (v, rest)) :
    v.counts.size < bound 8 ∧ ∀ feature ∈ v.counts.keys, (ofText feature).length < bound 8 := by
  obtain ⟨⟨number, _⟩, _, h⟩ := Option.bind_eq_some_iff.mp h
  obtain ⟨language, _, h⟩ := Option.bind_eq_some_iff.mp h
  obtain ⟨⟨minTokenLength, _⟩, _, h⟩ := Option.bind_eq_some_iff.mp h
  obtain ⟨⟨size, _⟩, hsize, h⟩ := Option.bind_eq_some_iff.mp h
  obtain ⟨⟨entries, _⟩, hentries, h⟩ := Option.bind_eq_some_iff.mp h
  cases h
  obtain ⟨hlength, hfeatures⟩ := lengths_of_takeEntries? hentries
  constructor
  · calc (SortedMap.ofList entries).size
      _ ≤ entries.length := SortedMap.size_ofList_le entries
      _ = size := hlength
      _ < bound 8 := lt_bound_of_takeNat? hsize
  · intro feature hfeature
    obtain ⟨entry, he, rfl⟩ := List.mem_map.mp (SortedMap.mem_keys_ofList hfeature)
    exact hfeatures entry he

theorem length_of_takeOptionalText? {bytes rest : List UInt8} {s? : Option String}
    (h : takeOptionalText? bytes = some (s?, rest)) : ∀ s ∈ s?, (ofText s).length < bound 8 := by
  unfold takeOptionalText? at h
  split at h
  · cases h
    exact nofun
  · obtain ⟨⟨s, _⟩, hs, hpair⟩ := Option.map_eq_some_iff.mp h
    cases hpair
    intro s' hs'
    cases hs'
    exact length_ofText_of_takeText? hs
  · cases h

/-- What has been read can be written: no length in it is greater than those that were read. -/
theorem addressable_of_take? {bytes rest : List UInt8} {m : SavedEncoder}
    (h : take? bytes = some (m, rest)) : m.Addressable := by
  obtain ⟨⟨version, _⟩, _, h⟩ := Option.bind_eq_some_iff.mp h
  obtain ⟨⟨dimensions, _⟩, _, h⟩ := Option.bind_eq_some_iff.mp h
  obtain ⟨⟨hashes, _⟩, _, h⟩ := Option.bind_eq_some_iff.mp h
  obtain ⟨⟨kind, _⟩, _, h⟩ := Option.bind_eq_some_iff.mp h
  obtain ⟨⟨vocabulary, _⟩, hvocabulary, h⟩ := Option.bind_eq_some_iff.mp h
  obtain ⟨⟨separator, _⟩, hseparator, h⟩ := Option.bind_eq_some_iff.mp h
  cases h
  obtain ⟨hsize, hfeature⟩ := lengths_of_takeVocabulary? hvocabulary
  exact ⟨hsize, hfeature, length_of_takeOptionalText? hseparator⟩

/-! ## Reading back -/

/-- What is read whole and is of the right version is the answer; nothing else is. -/
theorem ofBytes_eq_ok {bytes : List UInt8} {m : SavedEncoder} :
    ofBytes bytes = .ok m ↔ m.version = savedVersion ∧ ∃ rest, take? bytes = some (m, rest) := by
  unfold ofBytes
  cases htake : take? bytes with
  | none => simp
  | some taken =>
    obtain ⟨m', rest⟩ := taken
    by_cases hversion : m'.version = savedVersion
    · simp only [if_pos hversion, Except.ok.injEq, Option.some.injEq, Prod.mk.injEq]
      constructor
      · rintro rfl
        exact ⟨hversion, rest, rfl, rfl⟩
      · rintro ⟨_, _, rfl, _⟩
        rfl
    · simp only [if_neg hversion, Option.some.injEq, Prod.mk.injEq]
      constructor
      · nofun
      · rintro ⟨hversion', _, rfl, _⟩
        exact absurd hversion' hversion

theorem ofBytes_toBytes_append {m : SavedEncoder} (hversion : m.version = savedVersion)
    (h : m.Addressable) (rest : List UInt8) : ofBytes (m.toBytes ++ rest) = .ok m :=
  ofBytes_eq_ok.mpr ⟨hversion, rest, take?_toBytes h rest⟩

theorem ofBytes_of_prefix {m : SavedEncoder} (h : m.Addressable) {front : List UInt8}
    (hfront : front <+: m.toBytes) (hproper : front ≠ m.toBytes) :
    ofBytes front = .error .malformed := by
  have hall : take? m.toBytes = some (m, []) := by
    simpa only [List.append_nil] using take?_toBytes h []
  have hnone : take? front = none :=
    Decidable.byContradiction fun hread => hproper (local_take?.eq_of_prefix hall hfront hread)
  rw [ofBytes, hnone]

/-- The features of a saved encoder as they stand in its bytes, from first to last. -/
def writtenFeatures? (bytes : List UInt8) : Option (List String) := do
  let (_version, bytes) ← takeWord32? bytes
  let (_dimensions, bytes) ← takeWord64? bytes
  let (_hashes, bytes) ← takeWord64? bytes
  let (_kind, bytes) ← takeKind? bytes
  let (_language, bytes) ← takeWord32? bytes
  let (_minTokenLength, bytes) ← takeWord64? bytes
  let (size, bytes) ← takeNat? 8 bytes
  let (entries, _) ← takeEntries? size bytes
  return entries.map Prod.fst

theorem writtenFeatures?_toBytes {m : SavedEncoder} (h : m.Addressable) :
    writtenFeatures? m.toBytes = some m.vocabulary.counts.keys := by
  have hsize : m.vocabulary.counts.entries.length < bound 8 := h.size
  simp [writtenFeatures?, toBytes, putVocabulary, takeWord32?_put, takeWord64?_put, takeKind?_put,
    takeNat?_ofNat_append hsize, SortedMap.size, SortedMap.keys,
    takeEntries?_put h.entry]

/-- The keys of a map are in strictly increasing order of their bytes. -/
theorem pairwise_lex_keys {α : Type} (m : SortedMap α) :
    m.keys.Pairwise fun f g => List.Lex (· < ·) (ofText f) (ofText g) :=
  List.pairwise_map.mpr (m.sorted.imp lex_ofText)

/--
**What is written is read back, and nothing less is.** Bytes behind it do not matter, but wherever it
is cut off it is malformed. What was read of any bytes, in whatever order the features came there,
is written with the features in strictly increasing order of their bytes, and read back once more.
-/
theorem ofBytes_toBytes_contract :
    (∀ m : SavedEncoder, m.version = savedVersion → m.Addressable →
      (∀ rest, ofBytes (m.toBytes ++ rest) = .ok m) ∧
      ∀ front, front <+: m.toBytes → front ≠ m.toBytes → ofBytes front = .error .malformed) ∧
    ∀ (bytes : List UInt8) (m : SavedEncoder), ofBytes bytes = .ok m →
      ofBytes m.toBytes = .ok m ∧
      ∃ features, writtenFeatures? m.toBytes = some features ∧
        features.Pairwise fun f g => List.Lex (· < ·) (ofText f) (ofText g) := by
  refine ⟨fun m hversion haddressable => ?_, fun bytes m hread => ?_⟩
  · exact ⟨ofBytes_toBytes_append hversion haddressable,
      fun front => ofBytes_of_prefix haddressable⟩
  · obtain ⟨hversion, rest, htake⟩ := ofBytes_eq_ok.mp hread
    have haddressable := addressable_of_take? htake
    constructor
    · simpa only [List.append_nil] using ofBytes_toBytes_append hversion haddressable []
    · exact ⟨m.vocabulary.counts.keys, writtenFeatures?_toBytes haddressable,
        pairwise_lex_keys m.vocabulary.counts⟩

/-- An encoder for parts, trained on a few names. -/
def sample : SavedEncoder where
  version := savedVersion
  shape := { kind := .words }
  vocabulary := ⟨.english, 1, .ofList [("ab", 3), ("pa", 2)]⟩
  separator := some " / "

/-- The bytes of `sample`, but with the features out of order and one of them twice. -/
def disordered : List UInt8 :=
  putWord32 savedVersion ++ putWord64 512 ++ putWord64 4 ++ putKind .words ++
    (putWord32 (languageNumber .english) ++ putWord64 1 ++ ofNat 8 3 ++
      [("pa", 7), ("pa", 2), ("ab", 3)].flatMap putEntry ++ putOptionalText (some " / "))

theorem addressable_sample : sample.Addressable := by
  refine ⟨by decide +kernel, by decide +kernel, ?_⟩
  intro s hs
  cases hs
  decide +kernel

theorem ofBytes_toBytes_sample :
    ofBytes (sample.toBytes ++ [1, 2]) = .ok sample ∧
      ofBytes sample.toBytes.dropLast = .error .malformed ∧
      ofBytes disordered = .ok sample ∧ disordered ≠ sample.toBytes ∧
      ofBytes sample.toBytes = .ok sample ∧
      writtenFeatures? sample.toBytes = some ["ab", "pa"] := by
  have hback := ofBytes_toBytes_contract.1 sample rfl addressable_sample
  have hread : ofBytes disordered = .ok sample := by decide +kernel
  exact ⟨hback.1 [1, 2], hback.2 _ (List.dropLast_prefix _) (by decide +kernel), hread,
    by decide +kernel, (ofBytes_toBytes_contract.2 disordered sample hread).1, by decide +kernel⟩

end SavedEncoder

end Gazetteer
