import Gazetteer.Text.CodePoints

/-!
# Blanks

Blanks separate words and are cut off at the ends of names. They are the characters with the Unicode
property White_Space, which has more members than ASCII knows: the no-break spaces, the spaces of
fixed width, the next-line control and the line and paragraph separators.
-/

set_option autoImplicit false

namespace Gazetteer.Text

/-- Code points with the property White_Space. -/
def blankRanges : CodePoints := [
  (0x9, 0xD), (0x20, 0x20), (0x85, 0x85), (0xA0, 0xA0), (0x1680, 0x1680), (0x2000, 0x200A),
  (0x2028, 0x2029), (0x202F, 0x202F), (0x205F, 0x205F), (0x3000, 0x3000)]

def isBlank (c : Char) : Bool := blankRanges.has c

/-- Cuts the blanks off both ends. -/
def trimChars (cs : List Char) : List Char :=
  ((cs.dropWhile isBlank).reverse.dropWhile isBlank).reverse

def trim (s : String) : String := String.ofList (trimChars s.toList)

def isBlankText (s : String) : Bool := s.toList.all isBlank

/--
The maximal runs of characters that are not blank, in order. `current` is the run under way, the
nearest character first.
-/
def splitBlankFrom (current : List Char) : List Char → List (List Char)
  | [] => if current.isEmpty then [] else [current.reverse]
  | c :: rest =>
    if isBlank c then
      if current.isEmpty then splitBlankFrom [] rest
      else current.reverse :: splitBlankFrom [] rest
    else splitBlankFrom (c :: current) rest

/-- The words of a text: its maximal runs of characters that are not blank. -/
def splitBlank (cs : List Char) : List (List Char) := splitBlankFrom [] cs

end Gazetteer.Text
