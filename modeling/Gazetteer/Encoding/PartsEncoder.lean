import Gazetteer.Encoding.BucketEncoder
import Gazetteer.Text.Parts

/-!
# Encoding part by part

Some names have several parts, such as an entity and one of its aspects. Their vector is the sum of
the vectors of the parts. Training sees the parts too, never a name as a whole.
-/

set_option autoImplicit false

namespace Gazetteer

/-- The separator between parts unless another is asked for. -/
def defaultSeparator : String := " / "

/-- An encoder for the parts and what separates them. -/
structure PartsEncoder where
  base : BucketEncoder
  separator : String
  separates : separator ≠ ""
  deriving DecidableEq

namespace PartsEncoder

/-- The encoder for the parts around a separator, unless the separator is empty. -/
def ofBase (base : BucketEncoder) (separator : String) : Except EncoderError PartsEncoder :=
  if h : separator = "" then .error (.invalid .emptySeparator) else .ok ⟨base, separator, h⟩

def split (e : PartsEncoder) (text : String) : List String := Text.splitAround e.separator text

/-- Trains the encoder for the parts on the parts of all texts. -/
def train (e : PartsEncoder) (texts : List String) (o : TrainingOptions) :
    Step PartsEncoder EncoderError TrainingReport :=
  let step := e.base.trainOn (texts.flatMap e.split) o
  ⟨{ e with base := step.state }, step.events, step.result⟩

instance : TextEncoder PartsEncoder where
  dimensions e := e.base.shape.dimensions.toNat
  isReady e := e.base.vocabulary.isSome
  encode e text := e.base.encodeParts (e.split text)
  train := train

end PartsEncoder

end Gazetteer
