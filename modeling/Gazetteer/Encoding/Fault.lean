import Gazetteer.Storage

/-!
# What can be wrong with an encoder

Every cause has a constructor of its own; the wording is in the `message` functions and nowhere else.
-/

set_option autoImplicit false

namespace Gazetteer

/-- A setting that no encoder can work with, or a name that stands for no setting. -/
inductive EncoderFault where
  | noDimensions
  | hashCount (given : UInt64)
  | noGramWidth
  | noMinFrequency
  | noMinTokenLength
  /-- The aspect strategy without a separator. -/
  | aspectSeparator
  | emptySeparator
  | unknownLanguage (name : String)
  | unknownStrategy (name : String)
  deriving DecidableEq, Repr

/-- One digest holds eight words, and each hash uses one. -/
def maxHashes : Nat := 8

/-- The version of the format of saved encoders. -/
def savedVersion : UInt32 := 1

namespace EncoderFault

def message : EncoderFault → String
  | noDimensions => "dimensions must be at least 1"
  | hashCount given => s!"num_hashes must be between 1 and {maxHashes}, got {given}"
  | noGramWidth => "ngram width must be at least 1"
  | noMinFrequency => "min_frequency must be a positive integer"
  | noMinTokenLength => "min_token_length must be a positive integer"
  | aspectSeparator => "aspect preprocessing requires a non-empty separator"
  | emptySeparator => "composite separator must not be empty"
  | unknownLanguage name => s!"unsupported language '{name}'"
  | unknownStrategy name =>
    s!"unknown encoding strategy '{name}' (expected words, entity or aspect)"

end EncoderFault

/-- Why an encoder could not be made, trained, used, saved or loaded. -/
inductive EncoderError where
  /-- It has no vocabulary yet. -/
  | untrained
  | invalid (fault : EncoderFault)
  /-- The saved encoder has a format version other than `savedVersion`. -/
  | version (found : UInt32)
  /-- The bytes are not a saved encoder. -/
  | malformed
  | storage (path : String) (fault : StorageFault)
  deriving DecidableEq, Repr

namespace EncoderError

def message : EncoderError → String
  | untrained => "Encoder model not loaded: train the encoder or load a saved model first"
  | invalid fault => s!"Invalid encoder configuration: {fault.message}"
  | version found =>
    s!"Encoder model version mismatch: expected {savedVersion}, found {found}"
  | malformed => "Encoder model serialization failed:"
  | storage path fault => s!"Encoder model I/O failed for {path}: {fault.message}"

end EncoderError

end Gazetteer
