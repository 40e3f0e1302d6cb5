import Gazetteer.Json.Basic
import Gazetteer.Linking.Linker
import Gazetteer.Number.Decimal
import Gazetteer.Query.Arguments

/-!
# Answers

The candidates of each mention, as lines for people or as JSON for programs. JSON gives similarities
in as few digits as will do; lines give four places.
-/

set_option autoImplicit false

namespace Gazetteer

/-! ## Numbers in JSON -/

/-- How decimal digits become a JSON number. -/
structure NumberLayout where
  /-- Up to so many digits before the point, zeros included, are written out. -/
  mostWhole : Int
  /-- Up to so many zeros right behind the point are written out. -/
  mostZeros : Int

/-- Similarities have up to sixteen digits before the point, and up to four zeros behind it. -/
def NumberLayout.similarity : NumberLayout := ⟨16, 4⟩

/--
The number `digits * 10 ^ place` in decimal notation. Positional notation has at least one digit on
either side of the point; numbers too large or too small for it are written with an exponent.
-/
def NumberLayout.write (l : NumberLayout) (digits : Nat) (place : Int) : String :=
  let ds := Nat.toDigits 10 digits
  let zeros (n : Int) : List Char := List.replicate n.toNat '0'
  -- the number of digits before the point, or minus the number of zeros right behind it
  let whole : Int := ds.length + place
  if 0 < whole ∧ whole ≤ l.mostWhole then
    let before := ds.take whole.toNat ++ zeros place
    let after := ds.drop whole.toNat
    String.ofList (before ++ '.' :: if after.isEmpty then ['0'] else after)
  else if -l.mostZeros ≤ whole ∧ whole ≤ 0 then
    String.ofList ('0' :: '.' :: zeros (-whole) ++ ds)
  else
    let after := ds.drop 1
    String.ofList (ds.take 1 ++ if after.isEmpty then [] else '.' :: after) ++
      "e" ++ toString (whole - 1)

/-- A number as JSON: its value in 64 bits, in the fewest digits. Infinities have no JSON form. -/
def Binary32.toJson (x : Binary32) : Json :=
  if !x.isFinite then .null
  else
    let magnitude :=
      if x.pattern = 0 then "0.0"
      else
        let (digits, place) := Shortest.ofDouble x.toDouble
        NumberLayout.similarity.write digits place
    .number ((if x.isNegative then "-" else "") ++ magnitude)

/-! ## Lines -/

namespace Candidate

/-- A text filled up with spaces in front to a given width. -/
def padBefore (width : Nat) (s : String) : String :=
  String.ofList (List.replicate (width - s.length) ' ') ++ s

/-- A text filled up with spaces behind to a given width. -/
def padAfter (width : Nat) (s : String) : String :=
  s ++ String.ofList (List.replicate (width - s.length) ' ')

/-- A candidate on a line: rank, identifier, similarity and name in columns. -/
def line (c : Candidate) : String :=
  "  " ++ padBefore 3 (toString c.rank) ++ "  " ++ padAfter 12 c.entity.id ++ " " ++
    c.similarity.fixed 4 ++ "  " ++ c.entity.name ++ "\n"

/-- The lines of a mention: itself, then its candidates. -/
def lines (mention : String) (candidates : List Candidate) : String :=
  mention ++ "\n" ++
    if candidates.isEmpty then "  (no candidates)\n" else String.join (candidates.map line)

/-! ## JSON -/

def toJson (c : Candidate) : Json :=
  .object [
    (some "id", .ofText c.entity.id),
    (some "name", .ofText c.entity.name),
    (some "rank", .number (toString c.rank)),
    (some "similarity", c.similarity.toJson)]

/-- A mention with its candidates as an object. -/
def listToJson (mention : String) (candidates : List Candidate) : Json :=
  .object [
    (some "candidates", .array (candidates.map toJson)),
    (some "mention", .ofText mention)]

end Candidate

/-- The answer to a list of mentions, each with its candidates. -/
def AnswerFormat.write : AnswerFormat → List (String × List Candidate) → String
  | .text, results => String.join (results.map fun (mention, found) => Candidate.lines mention found)
  | .json, results =>
    (Json.array (results.map fun (mention, found) => Candidate.listToJson mention found)).pretty ++ "\n"

end Gazetteer
