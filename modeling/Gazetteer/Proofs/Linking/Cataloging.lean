import Gazetteer.Proofs.Linking.Rebuilding
import Mathlib.Data.Finset.Card
import Mathlib.Data.List.TakeWhile

/-!
# The catalog as a map that keeps its order

Of all that a linker is asked, only the entities that it accepts leave a trace in its catalog, and
which these are can be read off the requests (`Request.accepted`). The table of a catalog is what
comes of putting them into the empty table, one after the other, and of nothing else
(`toEntityTable_run`). What is said of it is proved of that table, whatever was put in
(`recordsAccepted_putAll`): **its list and its map are inverse, and together they are a map from
identifiers to records, in which the last record of an identifier counts and the first one decides
the place** (`recordsAccepted_run`).

Both halves of that are equations about one entity more: `EntityTable.Inverse.get?_put` for looking
up, and `EntityTable.Inverse.map_id_put` for the places.
-/

set_option autoImplicit false

namespace Gazetteer

/-! ## First occurrences -/

theorem Entity.foldl_addNew_nil (texts : List String) :
    texts.foldl addNew [] = texts.eraseDups := by
  -- from the end, because that is where `addNew` adds
  induction texts using List.reverseRecOn with
  | nil => rfl
  | append_singleton texts text ih =>
    rw [List.foldl_append, ih, List.eraseDups_append, List.foldl_cons, List.foldl_nil]
    by_cases h : text ∈ texts
    · rw [addNew_of_mem (List.mem_eraseDups.mpr h)]
      simp [List.removeAll, h]
    · rw [addNew_of_not_mem fun hmem => h (List.mem_eraseDups.mp hmem)]
      simp [List.removeAll, h, List.eraseDups_cons]

/-! ## Aliases and links -/

namespace EntityTable

theorem aliasCount_eq_sum (t : EntityTable) :
    t.aliasCount = (t.entities.map fun e => e.aliases.length).sum := List.length_flatMap

theorem map_snd_entries (t : EntityTable) : t.entries.map Prod.snd = t.aliasTexts := by
  have hentity : ∀ e, (entriesOf e).map Prod.snd = e.aliases := by
    intro e
    refine List.ext_getElem (by simp [entriesOf]) fun i _ _ => ?_
    simp [entriesOf]
  rw [entries, List.map_flatMap, aliasTexts]
  exact congrArg (List.flatMap · t.entities) (funext hentity)

theorem mem_linkedTo_iff {t : EntityTable} {system key : String} {e : Entity} :
    e ∈ t.linkedTo system key ↔
      e ∈ t.entities ∧ ∃ keys, e.links.get? system = some keys ∧ key ∈ keys := by
  rw [linkedTo, List.mem_filter, Entity.linksFor, List.contains_iff_mem]
  cases e.links.get? system <;> simp

end EntityTable

/-! ## What is accepted -/

/-- The entities of a request that are accepted: those before the first that is not acceptable. -/
def Request.accepted : Request → List Entity
  | .add e => if e.Acceptable then [e] else []
  | .addAll es => es.takeWhile fun e => e.Acceptable
  | .train _ | .build | .find _ _ => []

theorem Request.acceptable_of_mem_accepted {r : Request} {e : Entity} (h : e ∈ r.accepted) :
    e.Acceptable := by
  cases r with
  | add d =>
    rw [accepted] at h
    split at h
    · rename_i hd
      exact List.mem_singleton.mp h ▸ hd
    · cases h
  | addAll es => simpa using List.mem_takeWhile_imp h
  | train o => cases h
  | build => cases h
  | find mention k => cases h

namespace Linker

section Adding

variable {ε : Type}

/-- An entity is added exactly if it is acceptable, whatever the linker. -/
theorem add_result_eq_ok_iff {l : Linker ε} {e : Entity} :
    (l.add e).result = .ok () ↔ e.Acceptable := by
  rw [← Entity.fault?_normalized_eq_none_iff]
  cases hfault : e.normalized.fault? with
  | some fault =>
    rw [add_of_fault hfault]
    exact ⟨nofun, nofun⟩
  | none =>
    rw [add_of_sound hfault]
    exact ⟨fun _ => rfl, fun _ => rfl⟩

/-- One entity leaves its record behind if it is acceptable, and nothing if it is not. -/
theorem toEntityTable_add (l : Linker ε) (e : Entity) :
    (l.add e).state.catalog.toEntityTable =
      l.catalog.toEntityTable.putAll (if e.Acceptable then [e.normalized] else []) := by
  cases hfault : e.normalized.fault? with
  | some fault =>
    have hrefused : ¬ e.Acceptable := by
      rw [← Entity.fault?_normalized_eq_none_iff, hfault]
      nofun
    rw [add_of_fault hfault, if_neg hrefused]
    rfl
  | none =>
    rw [add_of_sound hfault, if_pos (Entity.fault?_normalized_eq_none_iff.mp hfault)]
    rfl

theorem toEntityTable_addAll (es : List Entity) :
    ∀ l : Linker ε, (l.addAll es).state.catalog.toEntityTable =
      l.catalog.toEntityTable.putAll
        ((es.takeWhile fun e => e.Acceptable).map Entity.normalized) := by
  induction es with
  | nil => exact fun _ => rfl
  | cons e rest ih =>
    intro l
    cases hfault : e.normalized.fault? with
    | some fault =>
      have hrefused : ¬ e.Acceptable := by
        rw [← Entity.fault?_normalized_eq_none_iff, hfault]
        nofun
      rw [addAll_cons_of_fault hfault, List.takeWhile_cons_of_neg (by simpa using hrefused)]
      rfl
    | none =>
      have hacceptable := Entity.fault?_normalized_eq_none_iff.mp hfault
      rw [addAll_cons_of_sound hfault, List.takeWhile_cons_of_pos (by simpa using hacceptable)]
      exact ih _

end Adding

variable {ε : Type} [TextEncoder ε]

theorem toEntityTable_serve (l : Linker ε) (r : Request) :
    (l.serve r).catalog.toEntityTable =
      l.catalog.toEntityTable.putAll (r.accepted.map Entity.normalized) := by
  cases r with
  | add e =>
    rw [serve, toEntityTable_add, Request.accepted]
    split <;> rfl
  | addAll es => exact toEntityTable_addAll es l
  | train o => exact congrArg Catalog.toEntityTable (l.catalog_train o)
  | build => exact congrArg Catalog.toEntityTable l.catalog_build
  | find mention k => rfl

/-- The table after a run is made of the entities accepted, and of nothing else. -/
theorem toEntityTable_run (requests : List Request) :
    ∀ l : Linker ε, (l.run requests).catalog.toEntityTable =
      l.catalog.toEntityTable.putAll
        ((requests.flatMap Request.accepted).map Entity.normalized) := by
  induction requests with
  | nil => exact fun _ => rfl
  | cons r rest ih =>
    intro l
    show ((l.serve r).run rest).catalog.toEntityTable = _
    rw [ih, toEntityTable_serve, List.flatMap_cons, List.map_append, EntityTable.putAll_append]

/-! ## The map -/

/-- What a table says of the entities that were accepted, in this order, since it was empty. -/
structure RecordsAccepted (t : EntityTable) (accepted : List Entity) : Prop where
  /-- An identifier has a position exactly if the record there has the identifier. -/
  inverse : ∀ id position, t.positions.get? id = some position ↔
    (t.entities[position]?).map Entity.id = some id
  /-- The record of an identifier is the last that was accepted, put in order. -/
  get : ∀ id, t.get? id =
    (accepted.reverse.find? fun e => e.id == id).map Entity.normalized
  /-- Each identifier has one place, that of its first acceptance. -/
  ids : t.entities.map Entity.id = (accepted.map Entity.id).eraseDups
  size : t.size = (accepted.map Entity.id).toFinset.card
  aliasCount : t.aliasCount = (t.entities.map fun e => e.aliases.length).sum
  /-- Texts and entries of the aliases go side by side. -/
  texts : t.aliasTexts.length = t.aliasCount ∧ t.entries.map Prod.snd = t.aliasTexts
  /-- Every record can be found by a name, and its aliases are in order. -/
  stored : ∀ e ∈ t.entities, Text.isBlankText e.id = false ∧ e.aliases ≠ [] ∧ e.InOrder
  linkedTo_sublist : ∀ system key, (t.linkedTo system key).Sublist t.entities
  mem_linkedTo : ∀ system key e, e ∈ t.linkedTo system key ↔
    e ∈ t.entities ∧ ∃ keys, e.links.get? system = some keys ∧ key ∈ keys

theorem recordsAccepted_putAll {accepted : List Entity} (h : ∀ e ∈ accepted, e.Acceptable) :
    RecordsAccepted (EntityTable.empty.putAll (accepted.map Entity.normalized)) accepted := by
  have hempty := EntityTable.inverse_empty
  have hids : (EntityTable.empty.putAll (accepted.map Entity.normalized)).entities.map Entity.id =
      (accepted.map Entity.id).eraseDups := by
    rw [hempty.map_id_putAll, List.map_map, ← Entity.foldl_addNew_nil]
    rfl
  refine
    { inverse := hempty.putAll _, get := fun id => ?_, ids := hids, size := ?_
      aliasCount := EntityTable.aliasCount_eq_sum _
      texts := ⟨rfl, EntityTable.map_snd_entries _⟩, stored := fun x hx => ?_
      linkedTo_sublist := fun _ _ => List.filter_sublist
      mem_linkedTo := fun _ _ _ => EntityTable.mem_linkedTo_iff }
  · rw [hempty.get?_putAll, ← List.map_reverse, List.find?_map]
    exact Option.or_none
  · rw [EntityTable.size, ← List.length_map (f := Entity.id), hids,
      ← List.toFinset_card_of_nodup (nodup_eraseDups _)]
    refine congrArg Finset.card (Finset.ext fun id => ?_)
    rw [List.mem_toFinset, List.mem_toFinset, List.mem_eraseDups]
  · -- whatever is stored was put in order, and was acceptable before
    rcases EntityTable.mem_putAll _ hx with hnone | hput
    · cases hnone
    · obtain ⟨e, he, rfl⟩ := List.mem_map.mp hput
      obtain ⟨hid, hfound⟩ := h e he
      refine ⟨hid, ?_, e.inOrder_normalized⟩
      rcases hfound with hname | ⟨a, ha, hblank⟩
      · exact List.ne_nil_of_mem (e.inOrder_normalized.named hname)
      · exact List.ne_nil_of_mem (Entity.mem_aliases_normalized.mpr ⟨hblank, Or.inr ha⟩)

/--
**After every run the catalog is the map of the entities accepted.** What is accepted next is what can
be added; anything else is refused, and leaves list and map as they are.
-/
theorem recordsAccepted_run {l₀ : Linker ε} (hnew : l₀.IsNew) (requests : List Request) :
    RecordsAccepted (l₀.run requests).catalog.toEntityTable
        (requests.flatMap Request.accepted) ∧
      ∀ e, (((l₀.run requests).add e).result = .ok () ↔ e.Acceptable) ∧
        (¬ e.Acceptable → ((l₀.run requests).add e).state = l₀.run requests) := by
  refine ⟨?_, fun e => ⟨add_result_eq_ok_iff, fun hrefused => ?_⟩⟩
  · rw [toEntityTable_run, hnew.fields.1]
    refine recordsAccepted_putAll fun e he => ?_
    obtain ⟨r, -, hr⟩ := List.mem_flatMap.mp he
    exact Request.acceptable_of_mem_accepted hr
  · cases hresult : ((l₀.run requests).add e).result with
    | ok _ => exact absurd (add_result_eq_ok_iff.mp hresult) hrefused
    | error error => exact (add_eq_error hresult).1

/--
Directions are added between other requests. One has no identifier, one no name, and one stands
behind that one; the first comes once more, with another name and a link.
-/
def travels : List Request :=
  [.add (Entity.ofName "NE" "north east"), .add (Entity.ofName " " "nowhere"), .build,
    .addAll [Entity.ofName "N.1" "north", Entity.ofName "E" "", Entity.ofName "W" "west"],
    .train {}, .add ((Entity.ofName "NE" "east").withLink "maps" "7"), .find "north" 1]

/-- The first comes first still, as the record that was accepted last. -/
theorem recordsAccepted_travels :
    compass.IsNew ∧
      travels.flatMap Request.accepted =
        [Entity.ofName "NE" "north east", Entity.ofName "N.1" "north",
          (Entity.ofName "NE" "east").withLink "maps" "7"] ∧
      (compass.run travels).catalog.entities =
        [(Entity.ofName "NE" "east").withLink "maps" "7", Entity.ofName "N.1" "north"] ∧
      (compass.run travels).catalog.positions.entries = [("N.1", 1), ("NE", 0)] ∧
      RecordsAccepted (compass.run travels).catalog.toEntityTable
        [Entity.ofName "NE" "north east", Entity.ofName "N.1" "north",
          (Entity.ofName "NE" "east").withLink "maps" "7"] := by
  have haccepted : travels.flatMap Request.accepted =
      [Entity.ofName "NE" "north east", Entity.ofName "N.1" "north",
        (Entity.ofName "NE" "east").withLink "maps" "7"] := by decide +kernel
  refine ⟨isNew_compass, haccepted, by decide +kernel, by decide +kernel, ?_⟩
  rw [← haccepted]
  exact (recordsAccepted_run isNew_compass travels).1

end Linker

end Gazetteer
