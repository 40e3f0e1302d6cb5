import Gazetteer.Text.CombiningClass
import Gazetteer.Text.Composition
import Gazetteer.Text.Decomposition

/-!
# The composed compatibility form

Texts that look or mean the same are often spelled with different characters. Their *composed
compatibility form* (NFKC) is one spelling for all of them, reached in three steps: take every
character apart, put the marks that follow a letter into their canonical order, and join letters and
marks again as far as single characters for them exist.
-/

set_option autoImplicit false

namespace Gazetteer.Text

/-! ## Canonical order -/

/--
Puts `c` in front of a text whose marks are in order. A mark moves right past the marks of a lower
class, never past a starter or a mark of its own class.
-/
def insertMark (c : Char) : List Char → List Char
  | [] => [c]
  | d :: rest =>
    if 0 < combiningClass d ∧ combiningClass d < combiningClass c then d :: insertMark c rest
    else c :: d :: rest

/-- The text with each run of marks stably sorted by combining class. -/
def canonicalOrder (cs : List Char) : List Char := cs.foldr insertMark []

/-! ## Composition -/

/--
Composes what follows a starter. `held` are the marks since the starter that found no partner, the
nearest first, and `cls` is the class of the nearest. A character is blocked from the starter when
a held mark has its class or a higher one, and a starter is blocked by any held mark.
-/
def composeAfter (starter : Char) (held : List Char) (cls : Nat) : List Char → List Char
  | [] => starter :: held.reverse
  | c :: rest =>
    let reachable := held.isEmpty || cls < combiningClass c
    match if reachable then composePair starter c else none with
    | some joined => composeAfter joined held cls rest
    | none =>
      if combiningClass c = 0 then starter :: held.reverse ++ composeAfter c [] 0 rest
      else composeAfter starter (c :: held) (combiningClass c) rest

/-- Composes every starter with the marks that follow it. Marks without a starter stay. -/
def compose : List Char → List Char
  | [] => []
  | c :: rest =>
    if combiningClass c = 0 then composeAfter c [] 0 rest else c :: compose rest

/-! ## The form -/

/-- The composed compatibility form of a text. -/
def compatibilityForm (cs : List Char) : List Char :=
  compose (canonicalOrder (cs.flatMap decompose))

end Gazetteer.Text
