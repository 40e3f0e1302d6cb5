import Gazetteer.Proofs.Linking.EntityTables
import Mathlib.Data.List.Nodup
import Mathlib.Tactic.IntervalCases

/-!
# Alias keys read back

A key is written as identifier, point and place, and read by cutting at the last point. Digits
hold no point, so the cut falls where the key was joined, whatever points the identifier holds
(`cutAtLast_append_cons`). What follows: different aliases have different keys
(`toText_injective`), a key that can be read names the entity that it was made for
(`owner?_toText`), and a key whose place fits a machine word can be read (`ofText_toText`).
-/

set_option autoImplicit false

namespace Gazetteer

/-! ## Digits -/

namespace Whole

theorem digit?_digitChar {d : Nat} (h : d < 10) : digit? 10 d.digitChar = some d := by
  interval_cases d <;> rfl

theorem readFrom_append (base : Nat) :
    ∀ (front back : List Char) (sofar : Nat), readFrom base sofar (front ++ back) =
      (readFrom base sofar front).bind fun n => readFrom base n back := by
  intro front
  induction front with
  | nil => intro back sofar; rfl
  | cons c rest ih =>
    intro back sofar
    rw [List.cons_append, readFrom, readFrom]
    cases digit? base c with
    | none => rfl
    | some d => exact ih back (sofar * base + d)

/-- Reading the digits of a number gives the number. -/
theorem readFrom_toDigits (n : Nat) : readFrom 10 0 (Nat.toDigits 10 n) = some n := by
  induction n using Nat.strongRecOn with
  | ind n ih =>
    -- the digits end with that of `n % 10`; those before it are the digits of `n / 10`
    by_cases h : n < 10
    · rw [Nat.toDigits_of_lt_base h]
      simp [readFrom, digit?_digitChar h]
    · rw [Nat.toDigits_of_base_le (by decide) (Nat.not_lt.mp h), readFrom_append,
        ih (n / 10) (by omega), Option.bind_some, readFrom,
        digit?_digitChar (Nat.mod_lt _ (by decide))]
      simp only [readFrom, Option.some.injEq]
      omega

theorem ofChars?_toDigits (n : Nat) :
    ofChars? (Nat.toDigits 10 n) = if n < wordBound then some n else none := by
  have hread := readFrom_toDigits n
  have hdigit : ∀ c ∈ Nat.toDigits 10 n, c.isDigit = true := fun c hc =>
    Nat.isDigit_of_mem_toDigits (by decide) (by decide) hc
  cases hds : Nat.toDigits 10 n with
  | nil => exact absurd hds Nat.toDigits_ne_nil
  | cons c rest =>
    rw [hds] at hread hdigit
    have hplus : c ≠ '+' := by
      rintro rfl
      exact absurd (hdigit '+' List.mem_cons_self) (by decide)
    have hword : ofChars? (c :: rest) = wordOfDigits? 10 (c :: rest) := by
      unfold ofChars?
      split
      · rename_i heq
        exact absurd (List.cons.inj heq).1 hplus
      · rfl
    rw [hword, wordOfDigits?, ofDigits?, hread]
    by_cases h : n < wordBound <;> simp [Option.filter, h]
    intro hnil
    cases hnil

end Whole

/-! ## The cut at the last point -/

namespace AliasKey

theorem cutAtLast_of_not_mem {c : Char} :
    ∀ {cs : List Char}, c ∉ cs → cutAtLast c cs = none := by
  intro cs
  induction cs with
  | nil => intro _; rfl
  | cons d rest ih =>
    intro h
    rw [List.mem_cons, not_or] at h
    rw [cutAtLast, ih h.2]
    exact if_neg (Ne.symm h.1)

/-- What is joined by a character that the second part does not hold is cut apart there. -/
theorem cutAtLast_append_cons {c : Char} {after : List Char} (h : c ∉ after) :
    ∀ before, cutAtLast c (before ++ c :: after) = some (before, after) := by
  intro before
  induction before with
  | nil =>
    rw [List.nil_append, cutAtLast, cutAtLast_of_not_mem h]
    exact if_pos rfl
  | cons d rest ih => rw [List.cons_append, cutAtLast, ih]

theorem point_not_mem_toDigits (n : Nat) : '.' ∉ Nat.toDigits 10 n := fun h =>
  absurd (Nat.isDigit_of_mem_toDigits (by decide) (by decide) h) (by decide)

theorem toList_toText (k : AliasKey) :
    k.toText.toList = k.entityId.toList ++ '.' :: Nat.toDigits 10 k.ordinal := by
  simp [toText, String.toList_append, Nat.toString_eq_repr, Nat.toList_repr]

theorem cutAtLast_toText (k : AliasKey) :
    cutAtLast '.' k.toText.toList = some (k.entityId.toList, Nat.toDigits 10 k.ordinal) := by
  rw [toList_toText]
  exact cutAtLast_append_cons (point_not_mem_toDigits _) _

/-! ## Reading keys -/

/-- Different aliases have different keys. -/
theorem toText_injective : Function.Injective toText := by
  intro a b h
  have hcut := cutAtLast_toText a
  rw [h, cutAtLast_toText, Option.some.injEq, Prod.mk.injEq] at hcut
  obtain ⟨hid, hdigits⟩ := hcut
  have hordinal := Whole.readFrom_toDigits b.ordinal
  rw [hdigits, Whole.readFrom_toDigits, Option.some.injEq] at hordinal
  cases a
  cases b
  simp only [mk.injEq]
  exact ⟨(String.toList_inj.mp hid).symm, hordinal⟩

/-- What reading makes of a written key: the key itself, if it names an entity and fits. -/
theorem ofChars?_toText (k : AliasKey) :
    ofChars? k.toText.toList =
      if k.entityId ≠ "" ∧ k.ordinal < Whole.wordBound then some k else none := by
  unfold ofChars?
  rw [cutAtLast_toText]
  simp only [Option.bind_eq_bind, Option.bind_some, Whole.ofChars?_toDigits]
  by_cases hid : k.entityId = "" <;> by_cases hfit : k.ordinal < Whole.wordBound <;>
    simp [hid, hfit, String.ofList_toList]

theorem ofText_toText {k : AliasKey} (hid : k.entityId ≠ "")
    (hfit : k.ordinal < Whole.wordBound) : ofText k.toText = .ok k := by
  rw [ofText, ofChars?_toText, if_pos ⟨hid, hfit⟩]

/-- The entity that a text names, if it is an alias key. -/
def owner? (text : String) : Option String := (ofText text).toOption.map entityId

theorem owner?_eq_some_iff {text id : String} :
    owner? text = some id ↔ ∃ k, ofText text = .ok k ∧ k.entityId = id := by
  unfold owner?
  cases ofText text with
  | error e => simp [Except.toOption]
  | ok k => simp [Except.toOption]

/-- A key that can be read names the entity that it was made for. -/
theorem owner?_toText {k : AliasKey} {id : String} (h : owner? k.toText = some id) :
    id = k.entityId := by
  obtain ⟨k', hread, rfl⟩ := owner?_eq_some_iff.mp h
  rw [ofText, ofChars?_toText] at hread
  split at hread
  · rename_i heq
    split at heq
    · cases heq
      cases hread
      rfl
    · cases heq
  · cases hread

end AliasKey

/-! ## The keys of a catalog -/

namespace EntityTable

variable {t : EntityTable}

/-- An entry is an alias of an entity, under the key that says which. -/
theorem mem_entries_iff {entry : String × String} :
    entry ∈ t.entries ↔ ∃ e ∈ t.entities, ∃ ordinal, e.aliases[ordinal]? = some entry.2 ∧
      entry.1 = (AliasKey.mk e.id ordinal).toText := by
  unfold entries entriesOf
  simp only [List.mem_flatMap, List.mem_mapIdx]
  constructor
  · rintro ⟨e, he, ordinal, hlt, rfl⟩
    exact ⟨e, he, ordinal, List.getElem?_eq_getElem hlt, rfl⟩
  · rintro ⟨e, he, ordinal, hget, hkey⟩
    obtain ⟨hlt, htext⟩ := List.getElem?_eq_some_iff.mp hget
    exact ⟨e, he, ordinal, hlt, Prod.ext hkey.symm htext⟩

theorem length_entries (t : EntityTable) : t.entries.length = t.aliasCount := by
  simp [entries, entriesOf, aliasCount, aliasTexts, List.length_flatMap]

/-- The place of an alias is less than the number of all aliases. -/
theorem ordinal_lt_aliasCount {e : Entity} {ordinal : Nat} {text : String}
    (he : e ∈ t.entities) (hget : e.aliases[ordinal]? = some text) : ordinal < t.aliasCount := by
  have hlt := (List.getElem?_eq_some_iff.mp hget).1
  have hle : e.aliases.length ≤ t.aliasTexts.length := by
    obtain ⟨before, after, hsplit⟩ := List.append_of_mem he
    simp [aliasTexts, hsplit]
    omega
  exact Nat.lt_of_lt_of_le hlt hle

/-- No two entries have the same key. -/
theorem Inverse.nodup_map_fst_entries (h : t.Inverse) : (t.entries.map Prod.fst).Nodup := by
  -- keys of one entity differ in the place, keys of two in the identifier
  have hwithin : ∀ e : Entity, ((entriesOf e).map Prod.fst).Nodup := by
    intro e
    have hkeys : (entriesOf e).map Prod.fst =
        (List.range e.aliases.length).map fun n => (AliasKey.mk e.id n).toText := by
      refine List.ext_getElem (by simp [entriesOf]) fun i _ _ => ?_
      simp [entriesOf]
    rw [hkeys]
    refine List.nodup_range.map fun a b hab => ?_
    exact congrArg AliasKey.ordinal (AliasKey.toText_injective hab)
  have hacross : t.entities.Pairwise fun a b =>
      List.Disjoint ((entriesOf a).map Prod.fst) ((entriesOf b).map Prod.fst) := by
    refine (List.pairwise_map.mp h.nodup).imp fun hne key ha hb => hne ?_
    obtain ⟨entry, hentry, hkey⟩ := List.mem_map.mp ha
    obtain ⟨entry', hentry', hkey'⟩ := List.mem_map.mp hb
    obtain ⟨i, hi, rfl⟩ := List.mem_mapIdx.mp hentry
    obtain ⟨j, hj, rfl⟩ := List.mem_mapIdx.mp hentry'
    exact congrArg AliasKey.entityId (AliasKey.toText_injective (hkey.trans hkey'.symm))
  unfold entries
  rw [List.map_flatMap]
  exact List.nodup_flatMap.mpr ⟨fun e _ => hwithin e, hacross⟩

end EntityTable

end Gazetteer
