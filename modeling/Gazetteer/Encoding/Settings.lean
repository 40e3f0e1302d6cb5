import Gazetteer.Encoding.PartsEncoder

/-!
# Encoders from settings

The settings of an encoder, their defaults, what can be wrong with them, and the untrained encoder
that they describe.
-/

set_option autoImplicit false

namespace Gazetteer

/-- The two kinds of encoder that settings and saved encoders describe. -/
inductive Encoder where
  /-- Encodes a text as a whole. -/
  | whole (e : BucketEncoder)
  /-- Encodes a text part by part. -/
  | parts (e : PartsEncoder)
  deriving DecidableEq

namespace Encoder

/-- The encoder that does the counting. -/
def base : Encoder → BucketEncoder
  | whole e => e
  | parts e => e.base

def train : Encoder → List String → TrainingOptions → Step Encoder EncoderError TrainingReport
  | whole e, texts, o =>
    let step := TextEncoder.train e texts o
    ⟨whole step.state, step.events, step.result⟩
  | parts e, texts, o =>
    let step := TextEncoder.train e texts o
    ⟨parts step.state, step.events, step.result⟩

def encode : Encoder → String → Except EncoderError DenseVector
  | whole e, text => TextEncoder.encode e text
  | parts e, text => TextEncoder.encode e text

instance : TextEncoder Encoder where
  dimensions e := e.base.shape.dimensions.toNat
  isReady e := e.base.vocabulary.isSome
  encode := encode
  train := train

end Encoder

/-- The settings of an encoder as a configuration gives them. -/
structure EncoderSettings where
  dimensions : UInt64 := 512
  hashes : UInt64 := 4
  strategy : Strategy := .entity
  /-- The width of pieces of words, where the strategy has pieces. -/
  gramWidth : UInt64 := 3
  /-- What separates parts, where the strategy has parts. -/
  separator : String := defaultSeparator
  language : Language := .english
  minFrequency : UInt32 := 1
  minTokenLength : UInt64 := 1
  deriving DecidableEq, Repr, Inhabited

namespace EncoderSettings

def shape (s : EncoderSettings) : Shape where
  dimensions := s.dimensions
  hashes := s.hashes
  kind :=
    match s.strategy with
    | .words => .words
    | .entity | .aspect => .grams s.gramWidth

def training (s : EncoderSettings) : TrainingOptions where
  minFrequency := s.minFrequency
  minTokenLength := s.minTokenLength
  language := s.language

/-- The first thing wrong with the settings: the shape, the training, or the separator. -/
def fault? (s : EncoderSettings) : Option EncoderFault :=
  (s.shape.fault?.or s.training.fault?).or
    (if s.strategy = .aspect ∧ s.separator = "" then some .aspectSeparator else none)

def validate (s : EncoderSettings) : Except EncoderError Unit :=
  match s.fault? with
  | some fault => .error (.invalid fault)
  | none => .ok ()

/-- The untrained encoder that the settings describe. -/
def build (s : EncoderSettings) : Except EncoderError Encoder := do
  s.validate
  let base ← BucketEncoder.ofShape s.shape
  match s.strategy with
  | .aspect => return .parts (← PartsEncoder.ofBase base s.separator)
  | .words | .entity => return .whole base

end EncoderSettings

end Gazetteer
