import Gazetteer.Entity.Basic
import Gazetteer.Index.Fault

/-!
# What can be wrong when mentions are linked

Causes of the linker's own, and those it hands on from its encoder and its index.
-/

set_option autoImplicit false

namespace Gazetteer

/-- A setting that the linker cannot work with. -/
inductive SettingsFault where
  | noOversampling
  | similarityNotFinite
  /-- The text is not a configuration: bad notation, an unknown name, or a value of a wrong kind. -/
  | unreadable
  deriving DecidableEq, Repr

def SettingsFault.message : SettingsFault → String
  | noOversampling => "knowledge_base.oversampling must be at least 1"
  | similarityNotFinite => "knowledge_base.min_similarity must be a finite number"
  | unreadable => "not a linker configuration"

/-- Why mentions could not be linked. -/
inductive LinkError where
  | entity (id : String) (fault : EntityFault)
  /-- A key that names no alias. -/
  | aliasKey (text : String)
  | settings (fault : SettingsFault)
  /-- The mention could not be encoded. -/
  | mention (text : String) (cause : EncoderError)
  | encoder (cause : EncoderError)
  | index (cause : IndexError)
  deriving DecidableEq, Repr

def LinkError.message : LinkError → String
  | entity id fault => s!"Invalid entity '{id}': {fault.message}"
  | aliasKey text => s!"Invalid alias key '{text}': expected '<entity id>.<ordinal>'"
  | settings fault => s!"Invalid configuration: {fault.message}"
  | mention text cause => s!"Failed to encode mention {Text.quoted text}: {cause.message}"
  | encoder cause => cause.message
  | index cause => cause.message

end Gazetteer
