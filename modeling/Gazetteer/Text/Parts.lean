/-!
# Parts of a text

`splitAround separator` cuts a text at each occurrence of a separator, looking from left to right and
going on after each one found, so occurrences do not overlap. There is one part more than there are
occurrences, and parts can be empty.
-/

set_option autoImplicit false

namespace Gazetteer.Text

/--
Cuts what is left of a text. `skip` characters still belong to the separator found last, and
`current` is the part under way, the nearest character first.
-/
def splitAroundFrom (separator : List Char) (skip : Nat) (current : List Char) :
    List Char → List (List Char)
  | [] => [current.reverse]
  | c :: rest =>
    match skip with
    | skip + 1 => splitAroundFrom separator skip current rest
    | 0 =>
      if separator.isPrefixOf (c :: rest) then
        current.reverse :: splitAroundFrom separator (separator.length - 1) [] rest
      else splitAroundFrom separator 0 (c :: current) rest

/-- The parts of a text between the occurrences of a separator that is not empty. -/
def splitAround (separator text : String) : List String :=
  (splitAroundFrom separator.toList 0 [] text.toList).map String.ofList

end Gazetteer.Text
