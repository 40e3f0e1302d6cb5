import Gazetteer.Index.KeyRegistry
import Gazetteer.Linking.AliasKey

/-!
# The catalog

The registered entities in the order in which their identifiers were first registered. Registering an
identifier again replaces the record and leaves its place.

A table of entities holds the records in a list, by position, and the positions in a map, by
identifier. The map alone says whether an identifier is registered and where its record is; the list
alone says which position is next. A catalog is a table in which the two are inverse, so that an
identifier always leads to its own record. Putting an entity in keeps it one, at a position that is
there already or at the next (`EntityTable.Inverse.put`).
-/

set_option autoImplicit false

namespace Gazetteer

/-! ## Tables -/

/-- Records by position, and positions by identifier. -/
structure EntityTable where
  positions : SortedMap Nat
  entities : List Entity
  deriving DecidableEq

namespace EntityTable

def empty : EntityTable := ⟨.empty, []⟩

/-- The record at the position of an identifier. -/
def get? (t : EntityTable) (id : String) : Option Entity :=
  (t.positions.get? id).bind fun position => t.entities[position]?

/-- The table with an entity at the position of its identifier, or at the next one. -/
def put (t : EntityTable) (e : Entity) : EntityTable :=
  match t.positions.get? e.id with
  | some position => { t with entities := t.entities.set position e }
  | none =>
    { positions := t.positions.insert e.id t.entities.length, entities := t.entities ++ [e] }

def size (t : EntityTable) : Nat := t.entities.length

def isEmpty (t : EntityTable) : Bool := t.entities.isEmpty

/-- All aliases of all entities: by entity, then in the order of the entity's list. -/
def aliasTexts (t : EntityTable) : List String := t.entities.flatMap Entity.aliases

def aliasCount (t : EntityTable) : Nat := t.aliasTexts.length

/-- The aliases of an entity with their keys. -/
def entriesOf (e : Entity) : List (String × String) :=
  e.aliases.mapIdx fun ordinal text => ((AliasKey.mk e.id ordinal).toText, text)

/-- All aliases with their keys, in the order of `aliasTexts`. -/
def entries (t : EntityTable) : List (String × String) := t.entities.flatMap entriesOf

/-- The entities that have a key in another system. -/
def linkedTo (t : EntityTable) (system key : String) : List Entity :=
  t.entities.filter fun e => (e.linksFor system).contains key

/-! ## Tables in order -/

variable {t : EntityTable} {e : Entity}

/-- An identifier has a position exactly if the record there has the identifier. -/
def Inverse (t : EntityTable) : Prop :=
  ∀ id position, t.positions.get? id = some position ↔
    (t.entities[position]?).map Entity.id = some id

/-- The identifiers with their positions. -/
def ids (t : EntityTable) : KeyTable := ⟨t.positions, t.entities.map Entity.id⟩

theorem inverse_iff : t.Inverse ↔ t.ids.Inverse := by
  have hkey : ∀ position, t.ids.key? position = (t.entities[position]?).map Entity.id :=
    fun position => List.getElem?_map
  simp only [Inverse, KeyTable.Inverse, hkey]
  exact Iff.rfl

theorem put_of_position {position : Nat} (h : t.positions.get? e.id = some position) :
    t.put e = { t with entities := t.entities.set position e } := by
  rw [put, h]

theorem put_of_new (h : t.positions.get? e.id = none) :
    t.put e =
      { positions := t.positions.insert e.id t.entities.length, entities := t.entities ++ [e] } := by
  rw [put, h]

/-- A record that is replaced had the same identifier, so no identifier moves. -/
theorem Inverse.ids_put_of_position (h : t.Inverse) {position : Nat}
    (hposition : t.positions.get? e.id = some position) : (t.put e).ids = t.ids := by
  have hkey : (t.entities.map Entity.id)[position]? = some e.id := by
    rw [List.getElem?_map, (h e.id position).mp hposition]
  obtain ⟨_, hget⟩ := List.getElem?_eq_some_iff.mp hkey
  rw [put_of_position hposition, ids, ids, List.map_set, ← hget, List.set_getElem_self]

theorem ids_put_of_new (h : t.positions.get? e.id = none) :
    (t.put e).ids = t.ids.append e.id := by
  rw [put_of_new h, ids, ids, KeyTable.append, List.map_append, List.length_map]
  rfl

theorem inverse_empty : empty.Inverse := inverse_iff.mpr KeyTable.inverse_empty

theorem Inverse.put (h : t.Inverse) (e : Entity) : (t.put e).Inverse := by
  rw [inverse_iff]
  cases hposition : t.positions.get? e.id with
  | some position =>
    rw [h.ids_put_of_position hposition]
    exact inverse_iff.mp h
  | none =>
    rw [ids_put_of_new hposition]
    exact (inverse_iff.mp h).append hposition

end EntityTable

/-! ## Catalogs -/

/-- Entities with different identifiers, in order. -/
structure Catalog extends EntityTable where
  inverse : toEntityTable.Inverse
  deriving DecidableEq

namespace Catalog

def empty : Catalog := ⟨.empty, EntityTable.inverse_empty⟩

instance : Inhabited Catalog := ⟨empty⟩

/-- The catalog with an entity added or replaced. -/
def put (c : Catalog) (e : Entity) : Catalog := ⟨c.toEntityTable.put e, c.inverse.put e⟩

end Catalog

end Gazetteer
