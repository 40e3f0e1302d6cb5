import Gazetteer.Text.Alphanumeric
import Gazetteer.Text.Blank
import Gazetteer.Text.CompatibilityForm
import Gazetteer.Text.LetterCase

/-!
# Words

Names are compared by their words. To find them, a text is brought into its composed compatibility
form, letters are put in lower case, and every character that is neither letter nor digit becomes a
space; what stands between spaces is a word.
-/

set_option autoImplicit false

namespace Gazetteer.Text

/-- A letter or digit in lower case, and a space for anything else. -/
def foldChar (c : Char) : List Char := if isAlphanumeric c then lowerChars c else [' ']

/-- The text in lower case with a space for every character that belongs to no word. -/
def foldChars (cs : List Char) : List Char := (compatibilityForm cs).flatMap foldChar

def wordsOf (s : String) : List String := (splitBlank (foldChars s.toList)).map String.ofList

/-- The normal spelling of a text: its words with one space between them. -/
def normalize (s : String) : String := " ".intercalate (wordsOf s)

end Gazetteer.Text
