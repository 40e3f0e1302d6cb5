import Gazetteer.Linking.Fault
import Gazetteer.Number.Whole

/-!
# Alias keys

In the index every alias has a key of its own: the identifier of its entity, a point, and the place
of the alias in the list of that entity. Reading a key cuts at the last point, so identifiers may hold
points themselves.
-/

set_option autoImplicit false

namespace Gazetteer

/-- One alias of one entity. -/
structure AliasKey where
  entityId : String
  /-- The place of the alias in the entity's list, counted from 0. -/
  ordinal : Nat
  deriving DecidableEq, Repr

namespace AliasKey

def toText (k : AliasKey) : String := k.entityId ++ "." ++ toString k.ordinal

/-- What stands before and after the last occurrence of a character. -/
def cutAtLast (c : Char) : List Char → Option (List Char × List Char)
  | [] => none
  | d :: rest =>
    match cutAtLast c rest with
    | some (before, after) => some (d :: before, after)
    | none => if d = c then some ([], rest) else none

/-- Reads the characters of a key. The identifier may not be empty. -/
def ofChars? (cs : List Char) : Option AliasKey := do
  let (id, digits) ← cutAtLast '.' cs
  if id.isEmpty then none
  let ordinal ← Whole.ofChars? digits
  return ⟨String.ofList id, ordinal⟩

def ofText (s : String) : Except LinkError AliasKey :=
  match ofChars? s.toList with
  | some k => .ok k
  | none => .error (.aliasKey s)

/-- Whether one key comes before another or is the same: by entity first, then by place. -/
def precedes (a b : AliasKey) : Bool :=
  a.entityId < b.entityId || (a.entityId == b.entityId && a.ordinal ≤ b.ordinal)

def sort (keys : List AliasKey) : List AliasKey := keys.mergeSort precedes

end AliasKey

end Gazetteer
