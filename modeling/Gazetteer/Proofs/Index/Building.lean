import Gazetteer.Index.VectorIndex
import Gazetteer.Proofs.Index.Registration
import Mathlib.Data.List.Forall2

/-!
# What a build does

`VectorIndex.build` checks the encoder, registers the keys of the entries, encodes a text for every
slot, collects what went wrong, and decides at the end whether that stops it. This module says what
comes of it without any of these stages:

* the slots are the registered keys, or else the keys of the entries where they first occur
  (`slotKeys`);
* a key gets the vector of its last text, if that has one of the right width (`vectorOf?`);
* the keys left out are those of entries without a slot, and after them the slots without a vector
  (`leftOut`), each for one reason (`Reason`).

`BuildContract` puts it together: every build, with whatever encoder, entries and index, is refused
at once, aborted with the first reason, or completed with everything else indexed
(`build_contract`).
-/

set_option autoImplicit false

namespace Gazetteer

variable {ε : Type} [TextEncoder ε]

/-- The vector of a text, if it encodes to this width. -/
def usable? (dimensions : Nat) (encoder : ε) (text : String) : Option DenseVector :=
  (TextEncoder.encode encoder text).toOption.filter fun vector => vector.size = dimensions

theorem usable?_eq_some_iff {dimensions : Nat} {encoder : ε} {text : String}
    {vector : DenseVector} :
    usable? dimensions encoder text = some vector ↔
      TextEncoder.encode encoder text = .ok vector ∧ vector.size = dimensions := by
  unfold usable?
  cases h : TextEncoder.encode encoder text with
  | error cause => simp [Except.toOption]
  | ok v =>
    simp only [Except.toOption, Option.filter_eq_some_iff, Option.some.injEq, decide_eq_true_eq,
      Except.ok.injEq]

namespace VectorIndex

/-! ## The last text of a key -/

/-- The text of an entry with this key that has no entry of the same key behind it. -/
def LastText (entries : List (String × String)) (key text : String) : Prop :=
  ∃ before after, entries = before ++ (key, text) :: after ∧ ∀ entry ∈ after, entry.1 ≠ key

theorem lastText?_eq_some_iff {entries : List (String × String)} {key text : String} :
    lastText? entries key = some text ↔ LastText entries key text := by
  unfold lastText? LastText
  rw [List.lookup_eq_some_iff]
  constructor
  · -- the lookup runs from the end, so what it passed over stands behind
    rintro ⟨after, before, hsplit, hafter⟩
    refine ⟨before.reverse, after.reverse, ?_, fun entry hentry heq => ?_⟩
    · rw [← List.reverse_reverse entries, hsplit]
      simp
    · have hne := hafter entry (List.mem_reverse.mp hentry)
      simp [heq] at hne
  · rintro ⟨before, after, rfl, hafter⟩
    refine ⟨after.reverse, before.reverse, by simp, fun entry hentry => ?_⟩
    have hne := Ne.symm (hafter entry (List.mem_reverse.mp hentry))
    simpa using hne

theorem lastText?_eq_none_iff {entries : List (String × String)} {key : String} :
    lastText? entries key = none ↔ key ∉ entries.map Prod.fst := by
  unfold lastText?
  rw [List.lookup_eq_none_iff, List.mem_map]
  constructor
  · rintro hother ⟨entry, hentry, rfl⟩
    exact absurd (hother entry (List.mem_reverse.mpr hentry)) (by simp)
  · intro hnone entry hentry
    have hne : key ≠ entry.1 := fun heq => hnone ⟨entry, List.mem_reverse.mp hentry, heq.symm⟩
    simpa using hne

/-- Looking up from the end finds the last of the entries that have the key. -/
theorem lastText?_eq_getLast? (entries : List (String × String)) (key : String) :
    lastText? entries key =
      ((entries.filter fun entry => entry.1 == key).getLast?).map Prod.snd := by
  cases htext : lastText? entries key with
  | none =>
    have hnone : (entries.filter fun entry => entry.1 == key) = [] := by
      rw [List.filter_eq_nil_iff]
      intro entry hentry heq
      exact lastText?_eq_none_iff.mp htext (List.mem_map.mpr ⟨entry, hentry, by simpa using heq⟩)
    rw [hnone]
    rfl
  | some text =>
    obtain ⟨before, after, rfl, hafter⟩ := lastText?_eq_some_iff.mp htext
    have hnone : (after.filter fun entry => entry.1 == key) = [] := by
      rw [List.filter_eq_nil_iff]
      intro entry hentry heq
      exact hafter entry hentry (by simpa using heq)
    rw [List.filter_append, List.filter_cons_of_pos (by simp), hnone,
      List.getLast?_append_of_ne_nil _ (List.cons_ne_nil _ _)]
    rfl

/-! ## Slots, vectors, and what is left out -/

/-- The keys that a build has to cover, in slot order. -/
def slotKeys (x : VectorIndex) (entries : List (String × String)) : List String :=
  match x.registered with
  | some registry => registry.keys
  | none => (entries.map Prod.fst).eraseDups

theorem nodup_slotKeys (x : VectorIndex) (entries : List (String × String)) :
    (x.slotKeys entries).Nodup := by
  unfold slotKeys
  split
  · rename_i registry _
    exact registry.nodup
  · exact nodup_eraseDups _

/-- The vector that a build gives to a key: that of the text in the last entry of the key. -/
def vectorOf? (x : VectorIndex) (encoder : ε) (entries : List (String × String)) (key : String) :
    Option DenseVector :=
  ((entries.filter fun entry => entry.1 == key).getLast?).bind fun entry =>
    usable? x.dimensions encoder entry.2

theorem vectorOf?_eq (x : VectorIndex) (encoder : ε) (entries : List (String × String))
    (key : String) :
    x.vectorOf? encoder entries key =
      (lastText? entries key).bind (usable? x.dimensions encoder) := by
  rw [vectorOf?, lastText?_eq_getLast?, Option.bind_map]
  rfl

/-- The keys of entries that have no slot, where they first occur. -/
def strays (x : VectorIndex) (entries : List (String × String)) : List String :=
  (entries.map Prod.fst).eraseDups.filter fun key => key ∉ x.slotKeys entries

/-- The slots that get no vector. -/
def unfilled (x : VectorIndex) (encoder : ε) (entries : List (String × String)) : List String :=
  (x.slotKeys entries).filter fun key => (x.vectorOf? encoder entries key).isNone

/-- The keys that a build leaves out, in the order in which it reports them. -/
def leftOut (x : VectorIndex) (encoder : ε) (entries : List (String × String)) : List String :=
  x.strays entries ++ x.unfilled encoder entries

/-- Why a build leaves out a key. -/
inductive Reason (x : VectorIndex) (encoder : ε) (entries : List (String × String)) :
    String → IndexError → Prop where
  | unregistered {key : String} :
      key ∉ x.slotKeys entries → Reason x encoder entries key (.unregisteredKey key)
  | missing {key : String} :
      key ∈ x.slotKeys entries → key ∉ entries.map Prod.fst →
      Reason x encoder entries key (.missingEntry key)
  | encoding {key text : String} {cause : EncoderError} :
      key ∈ x.slotKeys entries → LastText entries key text →
      TextEncoder.encode encoder text = .error cause →
      Reason x encoder entries key (.encoding key text cause)
  | width {key text : String} {vector : DenseVector} :
      key ∈ x.slotKeys entries → LastText entries key text →
      TextEncoder.encode encoder text = .ok vector → vector.size ≠ x.dimensions →
      Reason x encoder entries key (.width key x.dimensions vector.size)

theorem Reason.key?_eq {x : VectorIndex} {encoder : ε} {entries : List (String × String)}
    {key : String} {e : IndexError} (h : Reason x encoder entries key e) : e.key? = some key := by
  cases h <;> rfl

/-! ## Encoding the slots -/

variable {x : VectorIndex} {encoder : ε} {entries : List (String × String)}

theorem toOption_encodeKey (key : String) :
    (encodeKey x.dimensions encoder entries key).toOption =
      (x.vectorOf? encoder entries key).map fun v => ⟨key, v, DenseVector.norm v⟩ := by
  rw [vectorOf?_eq]
  unfold encodeKey
  cases lastText? entries key with
  | none => rfl
  | some text =>
    simp only [Option.bind_some, usable?]
    cases TextEncoder.encode encoder text with
    | error cause => rfl
    | ok vector =>
      by_cases h : vector.size = x.dimensions
      · simp [h, Except.toOption, Option.filter]
      · simp [h, Except.toOption, Option.filter]

theorem reason_of_encodeKey {key : String} {e : IndexError} (hslot : key ∈ x.slotKeys entries)
    (h : encodeKey x.dimensions encoder entries key = .error e) :
    Reason x encoder entries key e := by
  unfold encodeKey at h
  cases htext : lastText? entries key with
  | none =>
    rw [htext] at h
    cases h
    exact .missing hslot (lastText?_eq_none_iff.mp htext)
  | some text =>
    have hlast : LastText entries key text := lastText?_eq_some_iff.mp htext
    rw [htext] at h
    simp only at h
    cases henc : TextEncoder.encode encoder text with
    | error cause =>
      rw [henc] at h
      cases h
      exact .encoding hslot hlast henc
    | ok vector =>
      rw [henc] at h
      simp only at h
      split at h
      · cases h
      · rename_i hsize
        cases h
        exact .width hslot hlast henc hsize

theorem values_encodeKey (keys : List String) :
    values (keys.map (encodeKey x.dimensions encoder entries)) =
      keys.filterMap fun key =>
        (x.vectorOf? encoder entries key).map fun v => ⟨key, v, DenseVector.norm v⟩ := by
  unfold values
  rw [List.filterMap_map]
  exact List.filterMap_congr fun key _ => toOption_encodeKey key

/-- Among slots, the errors are the reasons of those that stay empty. -/
theorem forall₂_errors_encodeKey :
    ∀ {keys : List String}, (∀ key ∈ keys, key ∈ x.slotKeys entries) →
      List.Forall₂ (Reason x encoder entries)
        (keys.filter fun key => (x.vectorOf? encoder entries key).isNone)
        (errors (keys.map (encodeKey x.dimensions encoder entries))) := by
  intro keys
  induction keys with
  | nil => intro _; exact .nil
  | cons key rest ih =>
    intro hslots
    -- `hopt` says on which of the two lists the key shows up
    have hrest := ih fun k hk => hslots k (List.mem_cons_of_mem _ hk)
    have hopt : (encodeKey x.dimensions encoder entries key).toOption =
        (x.vectorOf? encoder entries key).map fun v => ⟨key, v, DenseVector.norm v⟩ :=
      toOption_encodeKey key
    unfold errors at hrest ⊢
    cases henc : encodeKey x.dimensions encoder entries key with
    | ok stored =>
      rw [henc, Except.toOption] at hopt
      have hsome : (x.vectorOf? encoder entries key).isNone = false := by
        cases hv : x.vectorOf? encoder entries key with
        | none => rw [hv] at hopt; cases hopt
        | some v => rfl
      rw [List.filter_cons, hsome, if_neg Bool.false_ne_true, List.map_cons,
        List.filterMap_cons, henc]
      exact hrest
    | error e =>
      rw [henc, Except.toOption] at hopt
      have hnone : (x.vectorOf? encoder entries key).isNone = true := by
        rw [Option.isNone_iff_eq_none]
        exact Option.map_eq_none_iff.mp hopt.symm
      rw [List.filter_cons, hnone, if_pos rfl, List.map_cons, List.filterMap_cons, henc]
      exact .cons (reason_of_encodeKey (hslots key List.mem_cons_self) henc) hrest

/-- What a build finds wrong: the entries without a slot, then the slots without a vector. -/
def faults (x : VectorIndex) (encoder : ε) (entries : List (String × String)) : List IndexError :=
  (x.strays entries).map .unregisteredKey ++
    errors ((x.slotKeys entries).map (encodeKey x.dimensions encoder entries))

/-- Every key left out has its reason, in the same order. -/
theorem forall₂_faults (x : VectorIndex) (encoder : ε) (entries : List (String × String)) :
    List.Forall₂ (Reason x encoder entries) (x.leftOut encoder entries)
      (x.faults encoder entries) := by
  refine List.rel_append ?_ (forall₂_errors_encodeKey fun _ hkey => hkey)
  rw [List.forall₂_map_right_iff, List.forall₂_same]
  intro key hkey
  exact .unregistered (by simpa using (List.mem_filter.mp hkey).2)

/-! ## The stages of a build put together -/

/-- The keys left out, each with the words of its reason. -/
def reports (keys : List String) (reasons : List IndexError) : List (String × String) :=
  keys.zip (reasons.map IndexError.message)

/-- What is said of the keys left out, one event for each. -/
def failureEvents (skipped : List (String × String)) : List ProgressEvent :=
  skipped.map fun entry => .entryFailed entry.1 entry.2

theorem map_skippedEntry {keys : List String} {reasons : List IndexError}
    (h : List.Forall₂ (Reason x encoder entries) keys reasons) :
    reasons.map skippedEntry = reports keys reasons := by
  induction h with
  | nil => rfl
  | cons hreason _ ih =>
    rw [List.map_cons, ih, skippedEntry, hreason.key?_eq]
    rfl

/-- The content after a build that went through. -/
def contentOf (x : VectorIndex) (encoder : ε) (entries : List (String × String)) :
    List StoredVector :=
  (x.slotKeys entries).filterMap fun key =>
    (x.vectorOf? encoder entries key).map fun v => ⟨key, v, DenseVector.norm v⟩

theorem map_key_contentOf (x : VectorIndex) (encoder : ε) (entries : List (String × String)) :
    (x.contentOf encoder entries).map StoredVector.key =
      (x.slotKeys entries).filter fun key => (x.vectorOf? encoder entries key).isSome := by
  unfold contentOf
  induction x.slotKeys entries with
  | nil => rfl
  | cons key rest ih =>
    cases hv : x.vectorOf? encoder entries key with
    | none => simp [hv, ih]
    | some v => simp [hv, ih]

/-- What is stored is the vector of a text, of the width of the index, beside its norm. -/
theorem of_mem_contentOf {s : StoredVector} (hs : s ∈ x.contentOf encoder entries) :
    (∃ text, TextEncoder.encode encoder text = .ok s.vector) ∧ s.vector.size = x.dimensions ∧
      s.norm = DenseVector.norm s.vector := by
  obtain ⟨key, -, hkey⟩ := List.mem_filterMap.mp hs
  obtain ⟨vector, hvector, rfl⟩ := Option.map_eq_some_iff.mp hkey
  obtain ⟨entry, -, husable⟩ := Option.bind_eq_some_iff.mp hvector
  obtain ⟨hencode, hwidth⟩ := usable?_eq_some_iff.mp husable
  exact ⟨⟨entry.2, hencode⟩, hwidth, rfl⟩

/-- Looking up a key in the content finds the vector it was given, if it has a slot. -/
theorem find?_contentOf (x : VectorIndex) (encoder : ε) (entries : List (String × String))
    (key : String) :
    ((x.contentOf encoder entries).find? fun s => s.key == key).map StoredVector.vector =
      if key ∈ x.slotKeys entries then x.vectorOf? encoder entries key else none := by
  unfold contentOf
  induction x.slotKeys entries with
  | nil => rfl
  | cons slot rest ih =>
    by_cases heq : slot = key
    · subst heq
      cases hv : x.vectorOf? encoder entries slot with
      | none =>
        -- no vector now and none later: the keys behind give the same answer for the same key
        rw [List.filterMap_cons, hv, Option.map_none]
        simp only
        rw [ih, hv]
        simp
      | some v => simp [hv]
    · have hne : key ≠ slot := Ne.symm heq
      cases hv : x.vectorOf? encoder entries slot with
      | none =>
        rw [List.filterMap_cons, hv, Option.map_none]
        simp only
        rw [ih]
        simp [hne]
      | some v =>
        rw [List.filterMap_cons, hv, Option.map_some]
        simp only
        rw [List.find?_cons_of_neg (by simpa using heq), ih]
        simp [hne]

theorem mem_leftOut_iff {key : String} (hslot : key ∈ x.slotKeys entries) :
    key ∈ x.leftOut encoder entries ↔ x.vectorOf? encoder entries key = none := by
  simp [leftOut, strays, unfilled, hslot]

theorem filter_isSome_vectorOf? :
    ((x.slotKeys entries).filter fun key => (x.vectorOf? encoder entries key).isSome) =
      (x.slotKeys entries).filter fun key => key ∉ x.leftOut encoder entries := by
  refine List.filter_congr fun key hkey => ?_
  have hiff : key ∈ x.leftOut encoder entries ↔ x.vectorOf? encoder entries key = none :=
    mem_leftOut_iff hkey
  cases hv : x.vectorOf? encoder entries key with
  | none => simpa [hv] using hiff
  | some v => simpa [hv] using hiff

theorem build_of_not_ready (x : VectorIndex) (entries : List (String × String))
    (hready : ¬ TextEncoder.isReady encoder = true) :
    x.build encoder entries = .refuse x .encoderNotReady := by
  rw [build, if_pos (by simpa using hready)]

theorem build_of_other_width (entries : List (String × String))
    (hready : TextEncoder.isReady encoder = true)
    (hwidth : TextEncoder.dimensions encoder ≠ x.dimensions) :
    x.build encoder entries =
      .refuse x (.encoderWidth x.dimensions (TextEncoder.dimensions encoder)) := by
  rw [build, if_neg (by simp [hready]), if_pos hwidth]

theorem build_of_repeated (hready : TextEncoder.isReady encoder = true)
    (hwidth : TextEncoder.dimensions encoder = x.dimensions) {repeated : IndexError}
    (hkeys : KeyRegistry.ofList (entries.map Prod.fst) x.settings.allowDuplicates =
      .error repeated) :
    x.build encoder entries = .refuse x repeated := by
  rw [build, if_neg (by simp [hready]), if_neg (by simp [hwidth]), hkeys]

/-- A build that gets as far as encoding ends in one of two ways. -/
theorem build_eq (hready : TextEncoder.isReady encoder = true)
    (hwidth : TextEncoder.dimensions encoder = x.dimensions)
    (hkeys : x.settings.allowDuplicates = true ∨ (entries.map Prod.fst).Nodup) :
    x.build encoder entries =
      let skipped := reports (x.leftOut encoder entries) (x.faults encoder entries)
      match x.faults encoder entries, x.settings.allowPartialFailure with
      | first :: _, false => ⟨x, failureEvents skipped, .error first⟩
      | _, _ =>
        let stored := x.contentOf encoder entries
        ⟨{ x with stored }, failureEvents skipped ++ [.indexBuilt stored.length skipped.length],
          .ok ⟨stored.length, skipped⟩⟩ := by
  obtain ⟨entryKeys, hentryKeys⟩ := KeyRegistry.exists_ofList_eq_ok hkeys
  have hfirst := (KeyRegistry.ofList_eq_ok_iff.mp hentryKeys).2
  have hslots : (x.registered.getD entryKeys).keys = x.slotKeys entries := by
    unfold slotKeys
    cases x.registered with
    | none => exact hfirst
    | some registry => rfl
  have hstrays : (entryKeys.keys.filter fun key => !(x.registered.getD entryKeys).contains key) =
      x.strays entries := by
    unfold strays
    rw [hfirst]
    refine List.filter_congr fun key _ => ?_
    rw [(x.registered.getD entryKeys).inverse.contains_eq, hslots]
    simp
  -- with slots and strays named, what is reported is one list of keys with one reason each
  have hreports := map_skippedEntry (forall₂_faults x encoder entries)
  have hevents : (x.faults encoder entries).map
      (fun e => ProgressEvent.entryFailed (e.key?.getD "") e.message) =
        failureEvents (reports (x.leftOut encoder entries) (x.faults encoder entries)) := by
    rw [← hreports, failureEvents, List.map_map]
    rfl
  unfold build
  rw [if_neg (by simp [hready]), if_neg (by simp [hwidth]), hentryKeys]
  simp only [hstrays, hslots, values_encodeKey]
  rw [show (x.strays entries).map IndexError.unregisteredKey ++
      errors ((x.slotKeys entries).map (encodeKey x.dimensions encoder entries)) =
        x.faults encoder entries from rfl, hevents, hreports]
  rfl

/-- A build leaves the index alone, or it got as far as encoding and was allowed to finish. -/
theorem build_cases (x : VectorIndex) (encoder : ε) (entries : List (String × String)) :
    (∃ e, (x.build encoder entries).result = .error e ∧ (x.build encoder entries).state = x) ∨
      ∃ report, (x.build encoder entries).result = .ok report ∧
        (x.leftOut encoder entries = [] ∨ x.settings.allowPartialFailure = true) ∧
        (x.build encoder entries).state = { x with stored := x.contentOf encoder entries } := by
  by_cases hready : TextEncoder.isReady encoder = true
  · by_cases hwidth : TextEncoder.dimensions encoder = x.dimensions
    · cases hkeys : KeyRegistry.ofList (entries.map Prod.fst) x.settings.allowDuplicates with
      | error repeated =>
        rw [build_of_repeated hready hwidth hkeys]
        exact Or.inl ⟨repeated, rfl, rfl⟩
      | ok r =>
        rw [build_eq hready hwidth (KeyRegistry.ofList_eq_ok_iff.mp hkeys).1]
        have hlength := (forall₂_faults x encoder entries).length_eq
        cases hfaults : x.faults encoder entries with
        | nil =>
          rw [hfaults] at hlength
          exact Or.inr ⟨_, rfl, Or.inl (List.eq_nil_of_length_eq_zero hlength), rfl⟩
        | cons first rest =>
          cases hallow : x.settings.allowPartialFailure with
          | false => exact Or.inl ⟨first, rfl, rfl⟩
          | true => exact Or.inr ⟨_, rfl, Or.inr rfl, rfl⟩
    · rw [build_of_other_width entries hready hwidth]
      exact Or.inl ⟨_, rfl, rfl⟩
  · rw [build_of_not_ready x entries hready]
    exact Or.inl ⟨_, rfl, rfl⟩

/-- What a build that fails fails for: the encoder, a repeated key, or the first key left out. -/
theorem result_build_eq_error {error : IndexError}
    (h : (x.build encoder entries).result = .error error) :
    error = .encoderNotReady ∨
      error = .encoderWidth x.dimensions (TextEncoder.dimensions encoder) ∨
      KeyRegistry.ofList (entries.map Prod.fst) x.settings.allowDuplicates = .error error ∨
      ∃ key ∈ x.leftOut encoder entries, Reason x encoder entries key error := by
  by_cases hready : TextEncoder.isReady encoder = true
  · by_cases hwidth : TextEncoder.dimensions encoder = x.dimensions
    · refine Or.inr (Or.inr ?_)
      cases hkeys : KeyRegistry.ofList (entries.map Prod.fst) x.settings.allowDuplicates with
      | error repeated =>
        rw [build_of_repeated hready hwidth hkeys] at h
        exact Or.inl (congrArg Except.error (Except.error.inj h))
      | ok r =>
        right
        have hreasons := forall₂_faults x encoder entries
        rw [build_eq hready hwidth (KeyRegistry.ofList_eq_ok_iff.mp hkeys).1] at h
        cases hfaults : x.faults encoder entries with
        | nil =>
          rw [hfaults] at h
          cases h
        | cons first rest =>
          rw [hfaults] at h hreasons
          cases hallow : x.settings.allowPartialFailure with
          | true =>
            rw [hallow] at h
            cases h
          | false =>
            rw [hallow] at h
            obtain rfl := Except.error.inj h
            obtain ⟨key, keys, hreason, -, hout⟩ := List.forall₂_cons_right_iff.mp hreasons
            exact ⟨key, hout ▸ List.mem_cons_self, hreason⟩
    · rw [build_of_other_width entries hready hwidth] at h
      exact Or.inr (Or.inl (Except.error.inj h).symm)
  · rw [build_of_not_ready x entries hready] at h
    exact Or.inl (Except.error.inj h).symm

/-! ## The contract -/

/-- A build that went through: `reasons` are given for the keys left out, all else is indexed. -/
structure Completed (x : VectorIndex) (encoder : ε) (entries : List (String × String))
    (reasons : List IndexError) (step : Step VectorIndex IndexError BuildReport) : Prop where
  /-- The build succeeds and counts what it indexed and left out. -/
  result : step.result =
    .ok ⟨step.state.size, reports (x.leftOut encoder entries) reasons⟩
  /-- It reports each key left out, and at the end both counts. -/
  events : step.events = failureEvents (reports (x.leftOut encoder entries) reasons) ++
    [.indexBuilt step.state.size (x.leftOut encoder entries).length]
  /-- The slots that were not left out are the keys, in slot order. -/
  keys : step.state.keys =
    (x.slotKeys entries).filter fun key => key ∉ x.leftOut encoder entries
  /-- A key has the vector of its last text. -/
  get : ∀ key ∈ step.state.keys, ∃ text vector, LastText entries key text ∧
    TextEncoder.encode encoder text = .ok vector ∧ vector.size = x.dimensions ∧
      step.state.get? key = some vector
  /-- Nothing else has a vector. -/
  get_other : ∀ key ∉ step.state.keys, step.state.get? key = none
  /-- No key is indexed or left out twice, or both. -/
  once : (step.state.keys ++ x.leftOut encoder entries).Nodup
  /-- Every slot and every entry is indexed or left out, and nothing else is. -/
  covered : ∀ key, key ∈ step.state.keys ++ x.leftOut encoder entries ↔
    key ∈ x.slotKeys entries ∨ key ∈ entries.map Prod.fst
  /-- Only the content is replaced. -/
  frame : step.state = { x with stored := step.state.stored }

/-- A build that failed at encoding: the index stays, the first reason is the error. -/
structure Aborted (x : VectorIndex) (encoder : ε) (entries : List (String × String))
    (reasons : List IndexError) (step : Step VectorIndex IndexError BuildReport) : Prop where
  state : step.state = x
  result : ∃ first, reasons.head? = some first ∧ step.result = .error first
  events : step.events = failureEvents (reports (x.leftOut encoder entries) reasons)

/-- What every build does. -/
structure BuildContract (x : VectorIndex) (encoder : ε) (entries : List (String × String)) :
    Prop where
  /-- An encoder that is not ready is refused before anything else. -/
  not_ready : TextEncoder.isReady encoder = false →
    x.build encoder entries = .refuse x .encoderNotReady
  /-- So is one of another width. -/
  other_width : TextEncoder.isReady encoder = true →
    TextEncoder.dimensions encoder ≠ x.dimensions →
    x.build encoder entries =
      .refuse x (.encoderWidth x.dimensions (TextEncoder.dimensions encoder))
  /-- Repeated keys are refused where they are not allowed, by the first that stood before. -/
  repeated : TextEncoder.isReady encoder = true → TextEncoder.dimensions encoder = x.dimensions →
    x.settings.allowDuplicates = false → ¬ (entries.map Prod.fst).Nodup →
    ∃ before key after, entries.map Prod.fst = before ++ key :: after ∧ before.Nodup ∧
      key ∈ before ∧ x.build encoder entries = .refuse x (.duplicateKey key)
  /-- Otherwise the keys left out decide, together with the settings. -/
  encoded : TextEncoder.isReady encoder = true → TextEncoder.dimensions encoder = x.dimensions →
    (x.settings.allowDuplicates = true ∨ (entries.map Prod.fst).Nodup) →
    ∃ reasons, List.Forall₂ (Reason x encoder entries) (x.leftOut encoder entries) reasons ∧
      (x.leftOut encoder entries = [] ∨ x.settings.allowPartialFailure = true →
        Completed x encoder entries reasons (x.build encoder entries)) ∧
      (x.leftOut encoder entries ≠ [] → x.settings.allowPartialFailure = false →
        Aborted x encoder entries reasons (x.build encoder entries))

theorem nodup_keys_append_leftOut (x : VectorIndex) (encoder : ε)
    (entries : List (String × String)) :
    (((x.slotKeys entries).filter fun key => key ∉ x.leftOut encoder entries) ++
      x.leftOut encoder entries).Nodup := by
  have hslots := x.nodup_slotKeys entries
  refine List.nodup_append.mpr ⟨hslots.filter _, ?_, ?_⟩
  · -- strays have no slot, and unfilled keys have one
    refine List.nodup_append.mpr ⟨(nodup_eraseDups _).filter _, hslots.filter _, ?_⟩
    rintro a ha b hb rfl
    have hout : a ∉ x.slotKeys entries := by simpa using (List.mem_filter.mp ha).2
    exact hout (List.mem_filter.mp hb).1
  · rintro a ha b hb rfl
    exact absurd hb (by simpa using (List.mem_filter.mp ha).2)

theorem mem_keys_append_leftOut (x : VectorIndex) (encoder : ε)
    (entries : List (String × String)) (key : String) :
    key ∈ ((x.slotKeys entries).filter fun key => key ∉ x.leftOut encoder entries) ++
        x.leftOut encoder entries ↔
      key ∈ x.slotKeys entries ∨ key ∈ entries.map Prod.fst := by
  rw [List.mem_append, List.mem_filter]
  by_cases hslot : key ∈ x.slotKeys entries
  · by_cases hout : key ∈ x.leftOut encoder entries <;> simp [hslot, hout]
  · have hiff : key ∈ x.leftOut encoder entries ↔ key ∈ entries.map Prod.fst := by
      simp [leftOut, strays, unfilled, hslot, List.mem_eraseDups]
    simp [hslot, hiff]

/-- What replaces the content is what a completed build promises. -/
theorem completed_contentOf (x : VectorIndex) (encoder : ε) (entries : List (String × String))
    (reasons : List IndexError) (hlength : reasons.length = (x.leftOut encoder entries).length) :
    let skipped := reports (x.leftOut encoder entries) reasons
    let stored := x.contentOf encoder entries
    Completed x encoder entries reasons
      ⟨{ x with stored }, failureEvents skipped ++ [.indexBuilt stored.length skipped.length],
        .ok ⟨stored.length, skipped⟩⟩ := by
  intro skipped stored
  have hkeys : ({ x with stored } : VectorIndex).keys =
      (x.slotKeys entries).filter fun key => key ∉ x.leftOut encoder entries := by
    rw [← filter_isSome_vectorOf?]
    exact x.map_key_contentOf encoder entries
  have hget : ∀ key, ({ x with stored } : VectorIndex).get? key =
      if key ∈ x.slotKeys entries then x.vectorOf? encoder entries key else none :=
    x.find?_contentOf encoder entries
  have hskipped : skipped.length = (x.leftOut encoder entries).length := by
    simp [skipped, reports, hlength]
  refine ⟨rfl, by rw [← hskipped]; rfl, hkeys, ?_, ?_, ?_, ?_, rfl⟩
  · intro key hkey
    rw [hkeys, List.mem_filter] at hkey
    obtain ⟨hslot, hin⟩ := hkey
    rw [hget, if_pos hslot]
    cases hv : x.vectorOf? encoder entries key with
    | none => exact absurd ((mem_leftOut_iff hslot).mpr hv) (by simpa using hin)
    | some vector =>
      rw [vectorOf?_eq] at hv
      obtain ⟨text, htext, husable⟩ := Option.bind_eq_some_iff.mp hv
      obtain ⟨henc, hsize⟩ := usable?_eq_some_iff.mp husable
      exact ⟨text, vector, lastText?_eq_some_iff.mp htext, henc, hsize, rfl⟩
  · intro key hkey
    rw [hkeys, List.mem_filter] at hkey
    rw [hget]
    split
    · rename_i hslot
      refine (mem_leftOut_iff hslot).mp ?_
      by_contra hin
      exact hkey ⟨hslot, by simpa using hin⟩
    · rfl
  · rw [hkeys]
    exact x.nodup_keys_append_leftOut encoder entries
  · intro key
    rw [hkeys]
    exact x.mem_keys_append_leftOut encoder entries key

/--
**What a build does**, for every index, encoder and list of entries: refused at once, aborted with
the first reason, or completed.
-/
theorem build_contract (x : VectorIndex) (encoder : ε) (entries : List (String × String)) :
    BuildContract x encoder entries where
  not_ready := by
    intro hready
    rw [build, hready]
    rfl
  other_width := by
    intro hready hwidth
    rw [build, if_neg (by simp [hready]), if_pos hwidth]
  repeated := by
    intro hready hwidth hallow hrepeat
    have herr : ∃ e, KeyRegistry.ofList (entries.map Prod.fst) x.settings.allowDuplicates =
        .error e := by
      cases h : KeyRegistry.ofList (entries.map Prod.fst) x.settings.allowDuplicates with
      | error e => exact ⟨e, rfl⟩
      | ok r =>
        rcases (KeyRegistry.ofList_eq_ok_iff.mp h).1 with hyes | hnodup
        · rw [hallow] at hyes
          exact absurd hyes Bool.false_ne_true
        · exact absurd hnodup hrepeat
    obtain ⟨e, herr⟩ := herr
    obtain ⟨-, before, key, after, hsplit, hnodup, hmem, rfl⟩ :=
      KeyRegistry.ofList_eq_error_iff.mp herr
    refine ⟨before, key, after, hsplit, hnodup, hmem, ?_⟩
    rw [build, if_neg (by simp [hready]), if_neg (by simp [hwidth]), herr]
  encoded := by
    intro hready hwidth hkeys
    have hreasons := forall₂_faults x encoder entries
    have hlength := hreasons.length_eq.symm
    refine ⟨x.faults encoder entries, hreasons, ?_, ?_⟩
    · -- nothing is left out, or leaving out is allowed: either way the content is replaced
      intro hgo
      rw [build_eq hready hwidth hkeys]
      cases hfaults : x.faults encoder entries with
      | nil =>
        rw [hfaults] at hlength
        exact x.completed_contentOf encoder entries [] hlength
      | cons first rest =>
        rw [hfaults] at hlength
        have hallow : x.settings.allowPartialFailure = true := by
          refine hgo.resolve_left fun hnil => ?_
          rw [hnil] at hlength
          cases hlength
        rw [hallow]
        exact x.completed_contentOf encoder entries (first :: rest) hlength
    · intro hout hstrict
      rw [build_eq hready hwidth hkeys, hstrict]
      cases hfaults : x.faults encoder entries with
      | nil =>
        rw [hfaults] at hlength
        exact absurd (List.eq_nil_of_length_eq_zero hlength.symm) hout
      | cons first rest => exact ⟨rfl, ⟨first, rfl, rfl⟩, rfl⟩

end VectorIndex

end Gazetteer
