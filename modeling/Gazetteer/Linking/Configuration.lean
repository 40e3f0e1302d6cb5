import Gazetteer.Encoding.Settings
import Gazetteer.Index.VectorIndex
import Gazetteer.Linking.Fault

/-!
# Configurations

A linker is configured in three sections: its encoder, its index, and how candidates are looked up.
Everything has a default.
-/

set_option autoImplicit false

namespace Gazetteer

structure LookupSettings where
  /-- How many aliases are fetched for each candidate that is wanted. -/
  oversampling : UInt64 := 10
  /-- Candidates have to be more similar than this. -/
  minSimilarity : Binary32 := .zero
  deriving DecidableEq, Repr, Inhabited

/-- The first thing wrong with the settings, if anything is. -/
def LookupSettings.fault? (s : LookupSettings) : Option SettingsFault :=
  if s.oversampling = 0 then some .noOversampling
  else if !s.minSimilarity.isFinite then some .similarityNotFinite
  else none

def LookupSettings.validate (s : LookupSettings) : Except LinkError Unit :=
  match s.fault? with
  | some fault => .error (.settings fault)
  | none => .ok ()

structure Configuration where
  encoder : EncoderSettings := {}
  index : IndexSettings := {}
  lookup : LookupSettings := {}
  deriving DecidableEq, Repr, Inhabited

/-- Nothing, unless a section has a fault; that of the encoder counts first. -/
def Configuration.validate (c : Configuration) : Except LinkError Unit := do
  c.encoder.validate.mapError .encoder
  c.lookup.validate

end Gazetteer
