import Gazetteer.Linking.Catalog
import Gazetteer.Proofs.Entity.Normalizing
import Gazetteer.Proofs.Index.Registration

/-!
# What a table of entities holds

In a table in order the map and the list say the same: an identifier leads to the record that has it,
and to no other (`Inverse.get?_eq_some_iff`). So the list is all there is to know, and tables in order
with the same list are the same (`Inverse.eq_of_entities_eq`).

Putting one entity in comes with one equation for each of the two: for looking up
(`Inverse.get?_put`), and for the places (`Inverse.map_id_put`). Each has a case for an identifier
that has a position and one for an identifier that has none, because that is what `put` looks at; what
is put in one after the other follows by induction.
-/

set_option autoImplicit false

namespace Gazetteer

namespace EntityTable

variable {t t' : EntityTable} {e x : Entity} {id : String}

/-! ## Looking up -/

/-- An identifier leads to the record that has it. -/
theorem Inverse.get?_eq_some_iff (h : t.Inverse) :
    t.get? id = some e ↔ e ∈ t.entities ∧ e.id = id := by
  rw [get?, Option.bind_eq_some_iff, List.mem_iff_getElem?]
  constructor
  · rintro ⟨position, hposition, hget⟩
    have hid := (h id position).mp hposition
    rw [hget] at hid
    exact ⟨⟨position, hget⟩, Option.some.inj hid⟩
  · rintro ⟨⟨position, hget⟩, rfl⟩
    exact ⟨position, (h e.id position).mpr (by rw [hget, Option.map_some]), hget⟩

theorem Inverse.get?_of_mem (h : t.Inverse) (he : e ∈ t.entities) : t.get? e.id = some e :=
  h.get?_eq_some_iff.mpr ⟨he, rfl⟩

theorem Inverse.isSome_get?_iff (h : t.Inverse) :
    (t.get? id).isSome = true ↔ ∃ e ∈ t.entities, e.id = id := by
  simp only [Option.isSome_iff_exists, h.get?_eq_some_iff]

/-- The map leads to no position behind the last record. -/
theorem Inverse.exists_of_position (h : t.Inverse) {position : Nat}
    (hposition : t.positions.get? id = some position) :
    ∃ e, t.entities[position]? = some e ∧ e.id = id :=
  Option.map_eq_some_iff.mp ((h id position).mp hposition)

theorem Inverse.position_eq_none_iff (h : t.Inverse) :
    t.positions.get? id = none ↔ id ∉ t.entities.map Entity.id :=
  (inverse_iff.mp h).slot?_eq_none_iff

theorem Inverse.nodup (h : t.Inverse) : (t.entities.map Entity.id).Nodup :=
  (inverse_iff.mp h).nodup

theorem Inverse.eq_of_entities_eq (h : t.Inverse) (h' : t'.Inverse)
    (hentities : t.entities = t'.entities) : t = t' := by
  have hids : t.ids = t'.ids :=
    (inverse_iff.mp h).eq_of_keys_eq (inverse_iff.mp h') (congrArg (List.map Entity.id) hentities)
  have hpositions : t.positions = t'.positions := congrArg KeyTable.slots hids
  cases t
  cases t'
  cases hentities
  cases hpositions
  rfl

/-! ## One entity more -/

theorem mem_put (h : x ∈ (t.put e).entities) : x = e ∨ x ∈ t.entities := by
  cases hposition : t.positions.get? e.id with
  | some position =>
    rw [put_of_position hposition] at h
    exact (List.mem_or_eq_of_mem_set h).symm
  | none =>
    rw [put_of_new hposition] at h
    exact (List.mem_append.mp h).symm.imp_left List.mem_singleton.mp

/-- An entity is found under its identifier, and nothing else is found differently. -/
theorem Inverse.get?_put (h : t.Inverse) (e : Entity) (id : String) :
    (t.put e).get? id = if e.id = id then some e else t.get? id := by
  cases hposition : t.positions.get? e.id with
  | some position =>
    obtain ⟨old, hold, hid⟩ := h.exists_of_position hposition
    obtain ⟨hlt, -⟩ := List.getElem?_eq_some_iff.mp hold
    rw [put_of_position hposition, get?]
    by_cases hsame : e.id = id
    · rw [if_pos hsame, ← hsame, hposition, Option.bind_some, List.getElem?_set_self hlt]
    · rw [if_neg hsame, get?]
      refine Option.bind_congr fun other hother => List.getElem?_set_ne fun heq => hsame ?_
      -- at the position of another identifier stands a record with that identifier
      obtain ⟨d, hd, hdid⟩ := h.exists_of_position hother
      rw [← heq, hold] at hd
      rw [← hid, Option.some.inj hd, hdid]
  | none =>
    rw [put_of_new hposition, get?, SortedMap.get?_insert]
    by_cases hsame : e.id = id
    · rw [if_pos hsame.symm, if_pos hsame, Option.bind_some, List.getElem?_concat_length]
    · rw [if_neg (Ne.symm hsame), if_neg hsame, get?]
      refine Option.bind_congr fun other hother => ?_
      obtain ⟨d, hd, -⟩ := h.exists_of_position hother
      exact List.getElem?_append_left (List.getElem?_eq_some_iff.mp hd).1

/-- No identifier is lost. -/
theorem Inverse.isSome_get?_put (h : t.Inverse) (e : Entity) (hid : (t.get? id).isSome = true) :
    ((t.put e).get? id).isSome = true := by
  rw [h.get?_put]
  split
  · rfl
  · exact hid

theorem Inverse.entities_put_ne_nil (h : t.Inverse) (e : Entity) : (t.put e).entities ≠ [] := by
  have hget : (t.put e).get? e.id = some e := (h.get?_put e e.id).trans (if_pos rfl)
  exact List.ne_nil_of_mem ((h.put e).get?_eq_some_iff.mp hget).1

/-- An entity with a new identifier comes last; the places of all others stay what they are. -/
theorem Inverse.map_id_put (h : t.Inverse) (e : Entity) :
    (t.put e).entities.map Entity.id = Entity.addNew (t.entities.map Entity.id) e.id := by
  show (t.put e).ids.keys = Entity.addNew t.ids.keys e.id
  cases hposition : t.positions.get? e.id with
  | some position =>
    have hmem : e.id ∈ t.ids.keys := by
      by_contra hnew
      rw [h.position_eq_none_iff.mpr hnew] at hposition
      cases hposition
    rw [h.ids_put_of_position hposition, Entity.addNew_of_mem hmem]
  | none =>
    have hnew : e.id ∉ t.ids.keys := h.position_eq_none_iff.mp hposition
    rw [ids_put_of_new hposition, Entity.addNew_of_not_mem hnew]
    rfl

/-! ## Several entities -/

/-- The table with several entities put in, one after the other. -/
def putAll (t : EntityTable) (es : List Entity) : EntityTable := es.foldl put t

@[simp] theorem putAll_cons (t : EntityTable) (e : Entity) (es : List Entity) :
    t.putAll (e :: es) = (t.put e).putAll es := rfl

theorem putAll_append (t : EntityTable) (es more : List Entity) :
    t.putAll (es ++ more) = (t.putAll es).putAll more := List.foldl_append

theorem Inverse.putAll (es : List Entity) :
    ∀ {t : EntityTable}, t.Inverse → (t.putAll es).Inverse := by
  induction es with
  | nil => exact fun h => h
  | cons e rest ih => exact fun h => ih (h.put e)

/-- Of several entities with one identifier the last is found. -/
theorem Inverse.get?_putAll (id : String) (es : List Entity) :
    ∀ {t : EntityTable}, t.Inverse →
      (t.putAll es).get? id = (es.reverse.find? fun e => e.id == id).or (t.get? id) := by
  induction es with
  | nil => exact fun _ => rfl
  | cons e rest ih =>
    intro t h
    rw [putAll_cons, ih (h.put e), h.get?_put, List.reverse_cons, List.find?_append,
      Option.or_assoc]
    by_cases hid : e.id = id <;> simp [hid]

theorem Inverse.map_id_putAll (es : List Entity) :
    ∀ {t : EntityTable}, t.Inverse → (t.putAll es).entities.map Entity.id =
      (es.map Entity.id).foldl Entity.addNew (t.entities.map Entity.id) := by
  induction es with
  | nil => exact fun _ => rfl
  | cons e rest ih =>
    intro t h
    rw [putAll_cons, ih (h.put e), List.map_cons, List.foldl_cons, h.map_id_put]

theorem mem_putAll (es : List Entity) :
    ∀ {t : EntityTable}, x ∈ (t.putAll es).entities → x ∈ t.entities ∨ x ∈ es := by
  induction es with
  | nil => exact Or.inl
  | cons e rest ih =>
    intro t hx
    rcases ih (t := t.put e) hx with hput | hrest
    · rcases mem_put hput with rfl | hold
      · exact Or.inr List.mem_cons_self
      · exact Or.inl hold
    · exact Or.inr (List.mem_cons_of_mem _ hrest)

/-- Entities with identifiers of their own are put at the end, in order. -/
theorem Inverse.entities_putAll (es : List Entity) :
    ∀ {t : EntityTable}, t.Inverse → ((t.entities ++ es).map Entity.id).Nodup →
      (t.putAll es).entities = t.entities ++ es := by
  induction es with
  | nil => exact fun _ _ => (List.append_nil _).symm
  | cons e rest ih =>
    intro t h hnodup
    have hnew : e.id ∉ t.entities.map Entity.id := by
      rw [List.map_append, List.map_cons] at hnodup
      exact fun hmem => (List.nodup_append.mp hnodup).2.2 _ hmem _ List.mem_cons_self rfl
    have hput : (t.put e).entities = t.entities ++ [e] := by
      rw [put_of_new (h.position_eq_none_iff.mpr hnew)]
    rw [putAll_cons, ih (h.put e), hput, List.append_assoc, List.singleton_append]
    rwa [hput, List.append_assoc, List.singleton_append]

end EntityTable

/-! ## Catalogs -/

namespace Catalog

theorem eq_of_entities_eq {c c' : Catalog} (h : c.entities = c'.entities) : c = c' := by
  have htable : c.toEntityTable = c'.toEntityTable := c.inverse.eq_of_entities_eq c'.inverse h
  cases c
  cases c'
  cases htable
  rfl

/-- The catalog with several entities added or replaced, one after the other. -/
def putAll (c : Catalog) (es : List Entity) : Catalog := es.foldl put c

theorem toEntityTable_putAll (es : List Entity) :
    ∀ c : Catalog, (c.putAll es).toEntityTable = c.toEntityTable.putAll es := by
  induction es with
  | nil => exact fun _ => rfl
  | cons e rest ih => exact fun c => ih (c.put e)

/-- The entities of a catalog make up that catalog again. -/
theorem putAll_entities (c : Catalog) : empty.putAll c.entities = c := by
  refine eq_of_entities_eq ?_
  rw [toEntityTable_putAll]
  exact EntityTable.inverse_empty.entities_putAll c.entities c.inverse.nodup

end Catalog

end Gazetteer
