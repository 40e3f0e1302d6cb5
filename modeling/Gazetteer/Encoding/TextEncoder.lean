import Gazetteer.Encoding.Vocabulary
import Gazetteer.Number.Binary32
import Gazetteer.Progress

/-!
# Text encoders

An encoder turns texts into vectors. Whatever is built on encoders, the index and the linker, is
built on the four operations of `TextEncoder` alone and holds for every type that has them.
-/

set_option autoImplicit false

namespace Gazetteer

/-- A vector of any width. -/
abbrev DenseVector := Array Binary32

/-- Something that encodes texts, once it is ready, and can be trained. -/
class TextEncoder (ε : Type) where
  /-- The width of the vectors that the encoder means to produce. -/
  dimensions : ε → Nat
  isReady : ε → Bool
  encode : ε → String → Except EncoderError DenseVector
  /-- Learns from a collection of texts. The state of the step is the encoder afterwards. -/
  train : ε → List String → TrainingOptions → Step ε EncoderError TrainingReport

end Gazetteer
