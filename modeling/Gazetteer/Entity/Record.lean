import Gazetteer.Entity.Basic
import Gazetteer.Json.Reader

/-!
# Entities as JSON records

`Entity.toText` writes an entity as an object; a description or links that are not there are left out.
`Entity.ofText?` reads such objects and is more liberal: members may come in any order, all but the
identifier and the name may be missing, and members that mean nothing here are passed over. A known
member may not be given twice. An array is read as the values of the members in their order.
-/

set_option autoImplicit false

namespace Gazetteer

/-! ## Parts of records -/

/-- The text of a string that stands for one. -/
def Json.text : Json → Option String
  | .string text => text
  | _ => none

/-- The texts of an array of strings. -/
def Json.texts : Json → Option (List String)
  | .array items => items.mapM Json.text
  | _ => none

/-- The text of a string, or nothing for null. -/
def Json.optionalText : Json → Option (Option String)
  | .null => some none
  | j => j.text.map some

/-- Adds one member of an object of lists of texts; a later member replaces an earlier one. -/
def Json.addTextList (m : SortedMap (List String)) : Option String × Json →
    Option (SortedMap (List String))
  | (some name, value) => value.texts.map (m.insert name)
  | (none, _) => none

/-- An object whose members are lists of texts. -/
def Json.textLists : Json → Option (SortedMap (List String))
  | .object members => members.foldlM Json.addTextList .empty
  | _ => none

/-- The values of all members with a name. -/
def Json.membersNamed (name : String) (members : List (Option String × Json)) : List Json :=
  members.filterMap fun (n, value) => if n = some name then some value else none

/--
Reads the one member with a name by `read`. If there is none, the result is `missing`, which is no
result when the member is required; if there are several, there is no result.
-/
def Json.member {α : Type} (members : List (Option String × Json)) (name : String)
    (read : Json → Option α) (missing : Option α) : Option α :=
  match Json.membersNamed name members with
  | [] => missing
  | [value] => read value
  | _ => none

namespace Entity

/-! ## Writing -/

def toJson (e : Entity) : Json :=
  let named := [("id", Json.ofText e.id), ("name", .ofText e.name), ("aliases", .ofTexts e.aliases)]
  let described := e.description.toList.map fun d => ("description", Json.ofText d)
  let links := e.links.entries.map fun (system, keys) => (some system, Json.ofTexts keys)
  let linked := if links.isEmpty then [] else [("links", Json.object links)]
  .object ((named ++ described ++ linked).map fun (name, value) => (some name, value))

def toText (e : Entity) : String := e.toJson.compact

/-! ## Reading -/

/-- The entity that an object describes. -/
def ofMembers? (members : List (Option String × Json)) : Option Entity := do
  if members.any fun (name, _) => name.isNone then none
  let id ← Json.member members "id" Json.text none
  let name ← Json.member members "name" Json.text none
  let aliases ← Json.member members "aliases" Json.texts (some [])
  let description ← Json.member members "description" Json.optionalText (some none)
  let links ← Json.member members "links" Json.textLists (some .empty)
  return { id, name, aliases, description, links }

/-- The entity that an array describes by position. -/
def ofItems? : List Json → Option Entity
  | id :: name :: rest => do
    let id ← id.text
    let name ← name.text
    let aliases ← (rest[0]?.map Json.texts).getD (some [])
    let description ← (rest[1]?.map Json.optionalText).getD (some none)
    let links ← (rest[2]?.map Json.textLists).getD (some .empty)
    if rest.length ≤ 3 then return { id, name, aliases, description, links } else none
  | _ => none

/-- The entity that a value describes. -/
def ofJson? : Json → Option Entity
  | .object members => ofMembers? members
  | .array items => ofItems? items
  | _ => none

def ofText? (s : String) : Option Entity := (Json.ofString? s).bind ofJson?

def listOfText? (s : String) : Option (List Entity) :=
  match Json.ofString? s with
  | some (.array items) => items.mapM ofJson?
  | _ => none

end Entity

end Gazetteer
