import Gazetteer.Text.Decomposition.Latin
import Gazetteer.Text.Decomposition.Symbols
import Gazetteer.Text.Decomposition.EastAsian
import Gazetteer.Text.Decomposition.Ideographs
import Gazetteer.Text.Decomposition.Presentation
import Gazetteer.Text.Decomposition.Mathematical
import Gazetteer.Text.Decomposition.Supplement
import Gazetteer.Text.Hangul

/-!
# Compatibility decomposition

`decompose c` is the full decomposition of one character: what remains when precomposed letters are
taken apart into letter and marks, ligatures into letters, and styled or enclosed forms are replaced
by the plain ones. It is read off a table that is already closed under repetition, except for the
Hangul syllables, which follow a rule.
-/

set_option autoImplicit false

namespace Gazetteer.Text

/-- All pages of the table. A page holds the rows of 256 consecutive code points. -/
def Decomposition.pages : List (Nat × List (Nat × List Nat)) :=
  latin ++ symbols ++ eastAsian ++ ideographs ++ presentation ++ mathematical ++ supplement

/-- The row of a code point, if it has one. -/
def Decomposition.row? (n : Nat) : Option (List Nat) :=
  (Decomposition.pages.lookup (n / 256)).bind (List.lookup n)

/-- The full compatibility decomposition of a character. -/
def decompose (c : Char) : List Char :=
  match Hangul.split? c.toNat with
  | some jamo => jamo.map Char.ofNat
  | none =>
    match Decomposition.row? c.toNat with
    | some row => row.map Char.ofNat
    | none => [c]

end Gazetteer.Text
