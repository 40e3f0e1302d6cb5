import Gazetteer.SortedMap
import Gazetteer.Text.Blank

/-!
# Entities

An entity is a thing with a name: a person, a place, a substance. It has an identifier of its own,
further names (*aliases*), possibly a description, and links to the identifiers that other systems
have for it.
-/

set_option autoImplicit false

namespace Gazetteer

structure Entity where
  id : String
  name : String
  /-- The names by which the entity can be found. -/
  aliases : List String
  description : Option String
  /-- The keys of the entity in other systems, by the name of the system. -/
  links : SortedMap (List String)
  deriving DecidableEq

/-- Why an entity cannot be registered. -/
inductive EntityFault where
  | blankId
  | noAlias
  deriving DecidableEq, Repr

def EntityFault.message : EntityFault → String
  | blankId => "id must not be empty"
  | noAlias => "at least one non-empty alias is required"

namespace Entity

/-! ## Making entities -/

/-- Appends a text to a list unless it is there already. -/
def addNew (texts : List String) (text : String) : List String :=
  if texts.contains text then texts else texts ++ [text]

/-- The entity with just an identifier and a name. The name is an alias unless it is blank. -/
def ofName (id name : String) : Entity where
  id
  name
  aliases := if Text.isBlankText name then [] else [name]
  description := none
  links := .empty

/-- The entity with one alias more; an alias that is there already is not repeated. -/
def withAlias (e : Entity) (text : String) : Entity :=
  { e with aliases := addNew e.aliases text }

def withAliases (e : Entity) (texts : List String) : Entity := texts.foldl withAlias e

def withDescription (e : Entity) (text : String) : Entity := { e with description := some text }

/-- The entity with one more key in another system. -/
def withLink (e : Entity) (system key : String) : Entity :=
  { e with links := e.links.update system fun keys => addNew (keys.getD []) key }

/-! ## Looking at entities -/

/-- The keys of the entity in another system. -/
def linksFor (e : Entity) (system : String) : List String := (e.links.get? system).getD []

def hasAlias (e : Entity) (text : String) : Bool := e.aliases.contains text

/-! ## Putting records in order -/

/--
The record with its aliases in order: no blank one, none twice, and the name among them. A name that
was missing comes first.
-/
def normalized (e : Entity) : Entity :=
  let named := if Text.isBlankText e.name || e.hasAlias e.name then [] else [e.name]
  let aliases := (e.aliases.filter fun a => !Text.isBlankText a).foldl addNew named
  { e with aliases }

/-- What keeps an entity from being registered: a blank identifier, or no alias that could be found. -/
def fault? (e : Entity) : Option EntityFault :=
  if Text.isBlankText e.id then some .blankId
  else if e.aliases.all Text.isBlankText then some .noAlias
  else none

end Entity

end Gazetteer
