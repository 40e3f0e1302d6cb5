import Gazetteer.Encoding.TextEncoder

/-!
# Metrics

How similar two vectors are, in one of two ways: by the angle between them, or by their distance.
Sums go from left to right and start at the negative zero, the one number that changes no other when
it is added. Vectors of different widths are compared as far as both go.
-/

set_option autoImplicit false

namespace Gazetteer

namespace DenseVector

/-- The sum of numbers, from left to right. -/
def sum (xs : Array Binary32) : Binary32 := xs.foldl (· + ·) Binary32.negativeZero

def dot (a b : DenseVector) : Binary32 := sum (Array.zipWith (· * ·) a b)

/-- The length of a vector as an arrow. -/
def norm (a : DenseVector) : Binary32 := (sum (a.map fun x => x * x)).sqrt

/-- The distance between two vectors as points. -/
def distance (a b : DenseVector) : Binary32 :=
  (sum (Array.zipWith (fun x y => (x - y) * (x - y)) a b)).sqrt

end DenseVector

inductive Metric where
  /-- The cosine of the angle: 1 for the same direction, whatever the lengths. -/
  | cosine
  /-- One over one plus the distance: 1 for the same point, and less the farther apart. -/
  | inverseEuclidean
  deriving DecidableEq, Repr, Inhabited

namespace Metric

/-- The name of a metric as it stands in a configuration. -/
def name : Metric → String
  | cosine => "cosine"
  | inverseEuclidean => "inverse_euclidean"

def all : List Metric := [cosine, inverseEuclidean]

def ofName? (s : String) : Option Metric := all.find? fun m => m.name == s

/--
The similarity of a query and a stored vector. The norms are given, because each is needed for many
pairs. An arrow without length has no angle and counts as being at a right angle to all others;
rounding may not push a cosine out of its range.
-/
def similarity (m : Metric) (query : DenseVector) (queryNorm : Binary32) (stored : DenseVector)
    (storedNorm : Binary32) : Binary32 :=
  match m with
  | cosine =>
    if queryNorm.isSame .zero || storedNorm.isSame .zero then .zero
    else
      (DenseVector.dot query stored / (queryNorm * storedNorm)).clamp .negativeOne .one
  | inverseEuclidean => Binary32.one / (Binary32.one + DenseVector.distance query stored)

/-- Whether a query with this norm can be compared at all: for an angle it needs a length. -/
def accepts (m : Metric) (queryNorm : Binary32) : Bool :=
  match m with
  | cosine => Binary32.zero.isBelow queryNorm
  | inverseEuclidean => true

/-- The cosine of the angle between two vectors. -/
def cosineSimilarity (a b : DenseVector) : Binary32 :=
  cosine.similarity a (DenseVector.norm a) b (DenseVector.norm b)

end Metric

end Gazetteer
