import Gazetteer.Entity.Record
import Gazetteer.Proofs.Json.ReadingBack
import Gazetteer.Proofs.SortedMaps

/-!
# Records that come back

An entity that is written as a record and read again is the same entity (`ofText?_toText`): whatever
characters its texts hold, with or without a description, and with any links, a system without a key
among them. Three things have to go together for this: the text is read back as the object that was
written, what was left out of the object stands for what is read in its place, and links that come
one by one in the order of their systems make up the map again.
-/

set_option autoImplicit false

namespace Gazetteer

/-! ## Lists of texts -/

namespace Json

theorem texts_ofTexts (texts : List String) : (ofTexts texts).texts = some texts := by
  show (texts.map ofText).mapM text = some texts
  induction texts with
  | nil => rfl
  | cons t texts ih =>
    rw [List.map_cons, List.mapM_cons, ih]
    rfl

theorem readBack_ofTexts (texts : List String) : ReadBack (ofTexts texts) :=
  readBack_array fun j hj => by
    obtain ⟨t, -, rfl⟩ := List.mem_map.mp hj
    exact readBack_ofText t

/-- An entry of a map of lists of texts, as a member of an object. -/
def ofEntry (entry : String × List String) : Option String × Json :=
  (some entry.1, ofTexts entry.2)

theorem foldlM_addTextList (entries : List (String × List String)) :
    ∀ m, (entries.map ofEntry).foldlM addTextList m =
      some (entries.foldl (fun m e => m.insert e.1 e.2) m) := by
  induction entries with
  | nil => exact fun _ => rfl
  | cons entry entries ih =>
    intro m
    have hentry : addTextList m (ofEntry entry) = some (m.insert entry.1 entry.2) := by
      rw [ofEntry, addTextList, texts_ofTexts]
      rfl
    rw [List.map_cons, List.foldlM_cons, hentry]
    exact ih _

/-- A map is read back from the object of its entries. -/
theorem textLists_ofEntries (m : SortedMap (List String)) :
    (object (m.entries.map ofEntry)).textLists = some m := by
  rw [textLists, foldlM_addTextList]
  exact congrArg some m.ofList_entries

end Json

namespace Entity

open Json

/-! ## Members -/

/-- The member for a description, if there is one. -/
def describedBy (e : Entity) : List (Option String × Json) :=
  e.description.toList.map fun d => (some "description", ofText d)

/-- The member for links, unless there are none. -/
def linkedBy (e : Entity) : List (Option String × Json) :=
  if e.links.entries.isEmpty then [] else [(some "links", object (e.links.entries.map ofEntry))]

/-- The members of the record of an entity. -/
def members (e : Entity) : List (Option String × Json) :=
  [(some "id", ofText e.id), (some "name", ofText e.name), (some "aliases", ofTexts e.aliases)] ++
    (e.describedBy ++ e.linkedBy)

theorem toJson_eq (e : Entity) : e.toJson = object e.members := by
  rw [toJson, members, describedBy, linkedBy, List.isEmpty_map]
  cases e.description <;> cases e.links.entries.isEmpty <;> rfl

/-! ## What is read of the text -/

theorem readBack_toJson (e : Entity) : ReadBack e.toJson := by
  have hnamed : ∀ name {value : Json}, ReadBack value → ReadBackMember (some name, value) :=
    fun name _ hvalue => ⟨⟨name, rfl⟩, hvalue⟩
  have hentries : ReadBack (object (e.links.entries.map ofEntry)) := by
    refine readBack_object fun member hmember => ?_
    obtain ⟨entry, -, rfl⟩ := List.mem_map.mp hmember
    exact hnamed entry.1 (readBack_ofTexts entry.2)
  have hdescribed : ∀ member ∈ e.describedBy, ReadBackMember member := by
    intro member hmember
    obtain ⟨d, -, rfl⟩ := List.mem_map.mp hmember
    exact hnamed _ (readBack_ofText d)
  have hlinked : ∀ member ∈ e.linkedBy, ReadBackMember member := by
    unfold linkedBy
    split
    · exact fun _ h => absurd h List.not_mem_nil
    · exact List.forall_mem_singleton.mpr (hnamed _ hentries)
  rw [toJson_eq, members]
  refine readBack_object (List.forall_mem_append.mpr ⟨?_, List.forall_mem_append.mpr
    ⟨hdescribed, hlinked⟩⟩)
  simp only [List.forall_mem_cons]
  exact ⟨hnamed _ (readBack_ofText e.id), hnamed _ (readBack_ofText e.name),
    hnamed _ (readBack_ofTexts e.aliases), fun _ h => absurd h List.not_mem_nil⟩

/-! ## What is read of the members -/

theorem membersNamed_describedBy (e : Entity) (name : String) :
    membersNamed name e.describedBy =
      if name = "description" then e.description.toList.map ofText else [] := by
  rw [describedBy, membersNamed]
  cases e.description with
  | none => simp
  | some d =>
    by_cases h : name = "description"
    · simp [h]
    · simp [h, Ne.symm h]

theorem membersNamed_linkedBy (e : Entity) (name : String) :
    membersNamed name e.linkedBy =
      if name = "links" ∧ e.links.entries.isEmpty = false then
        [object (e.links.entries.map ofEntry)]
      else [] := by
  rw [linkedBy, membersNamed]
  cases e.links.entries.isEmpty with
  | true => simp
  | false =>
    by_cases h : name = "links"
    · simp [h]
    · simp [h, Ne.symm h]

theorem membersNamed_members (e : Entity) (name : String) :
    membersNamed name e.members =
      membersNamed name [(some "id", ofText e.id), (some "name", ofText e.name),
        (some "aliases", ofTexts e.aliases)] ++
        (membersNamed name e.describedBy ++ membersNamed name e.linkedBy) := by
  rw [members, membersNamed, List.filterMap_append, List.filterMap_append]
  rfl

/-- A description that was left out is none, and any other is read back. -/
theorem member_description (e : Entity) :
    member e.members "description" optionalText (some none) = some e.description := by
  rw [member, membersNamed_members, membersNamed_describedBy, membersNamed_linkedBy]
  cases e.description <;> rfl

/-- Links that were left out are none, and any others are read back. -/
theorem member_links (e : Entity) :
    member e.members "links" textLists (some .empty) = some e.links := by
  rw [member, membersNamed_members, membersNamed_describedBy, membersNamed_linkedBy]
  cases hentries : e.links.entries.isEmpty with
  | true =>
    have hempty : e.links = .empty := SortedMap.ext (List.isEmpty_iff.mp hentries)
    rw [hempty]
    rfl
  | false => exact textLists_ofEntries e.links

theorem ofJson?_toJson (e : Entity) : ofJson? e.toJson = some e := by
  have hid : member e.members "id" text none = some e.id := by
    rw [member, membersNamed_members, membersNamed_describedBy, membersNamed_linkedBy]
    rfl
  have hname : member e.members "name" text none = some e.name := by
    rw [member, membersNamed_members, membersNamed_describedBy, membersNamed_linkedBy]
    rfl
  have haliases : member e.members "aliases" texts (some []) = some e.aliases := by
    rw [member, membersNamed_members, membersNamed_describedBy, membersNamed_linkedBy]
    exact texts_ofTexts e.aliases
  have hnamed : (e.members.any fun m => m.1.isNone) = false := by
    rw [members, describedBy, linkedBy]
    cases e.description <;> cases e.links.entries.isEmpty <;> rfl
  rw [toJson_eq, ofJson?, ofMembers?, hnamed, hid, hname, haliases, member_description,
    member_links]
  rfl

/-- **Every entity is read back from its record.** -/
theorem ofText?_toText (e : Entity) : ofText? e.toText = some e := by
  rw [ofText?, toText, e.readBack_toJson.ofString?_compact, Option.bind_some, ofJson?_toJson]

/-- A bell is written as a number, and a system without a key is written all the same. -/
example : toText ⟨"Q1", "\"\u0007\\", [], none, ⟨[("mesh", [])], by decide⟩⟩ =
    "\x7b\"id\":\"Q1\",\"name\":\"\\\"\\u0007\\\\\",\"aliases\":[]," ++
      "\"links\":\x7b\"mesh\":[]\x7d\x7d" := by
  decide +kernel

end Entity

end Gazetteer
