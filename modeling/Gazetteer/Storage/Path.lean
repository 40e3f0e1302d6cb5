/-!
# Paths

A path is a list of pieces with slashes between them. Most questions about a path are about its
steps, the pieces that are not empty; but a slash at the end asks for a directory, and the text as a
whole can be too long, so all pieces are kept.

Two dots lead back to the directory above only where there is a directory to lead back from. That
depends on the storage, so paths are not simplified here.
-/

set_option autoImplicit false

namespace Gazetteer

/-- What stands between the slashes of a path; these pieces may be empty. -/
structure Path where
  pieces : List String
  deriving DecidableEq, Repr

namespace Path

def ofText (s : String) : Path := ⟨s.splitOn "/"⟩

def isAbsolute (p : Path) : Bool := p.pieces.head? == some "" && 1 < p.pieces.length

/-- The pieces that name a step. -/
def steps (p : Path) : List String := p.pieces.filter (· ≠ "")

/-- Whether the path ends in a slash, and so can only mean a directory. -/
def endsOpen (p : Path) : Bool := p.pieces.getLast? == some ""

/-- The bytes of the text of the path. -/
def size (p : Path) : Nat :=
  p.pieces.foldl (fun n piece => n + piece.utf8ByteSize) 0 + (p.pieces.length - 1)

/-- Whether the path is written with the character of number 0, as which no name can be written. -/
def hasNull (p : Path) : Bool := p.pieces.any fun piece => piece.toList.any (·.toNat = 0)

/--
The paths on the way to a path whose pieces are given, the last one first. A path ends with a step
other than a single dot, unless that dot is all there is.
-/
def wayBack : List String → List Path
  | [] => []
  | [first] => if first = "" then [] else [⟨[first]⟩]
  | piece :: before =>
    if piece = "" ∨ piece = "." then wayBack before
    else ⟨(piece :: before).reverse⟩ :: wayBack before

/--
The directories in which a path lies, the nearest first. Neither the root nor the directory where a
relative path starts is among them: these are always there.
-/
def above (p : Path) : List Path := (wayBack p.pieces.reverse).tail

end Path

end Gazetteer
