import Gazetteer.Linking.ConfigurationText

/-!
# Configurations in files

Reading a configuration from a file, with what can go wrong on the way and in the text.
-/

set_option autoImplicit false

namespace Gazetteer

/-- Why a file does not give a configuration. -/
inductive ConfigurationError where
  | file (fault : TextFault)
  /-- Its text is not a configuration that a linker can work with. -/
  | content (cause : LinkError)
  deriving DecidableEq, Repr

def ConfigurationError.message : ConfigurationError → String
  | file fault => fault.message
  | content cause => cause.message

/-- Reads a configuration from the file at a path. -/
def Configuration.load (read : FileReader) (path : String) :
    Except ConfigurationError Configuration := do
  let text ← (read.text path).mapError .file
  (Configuration.ofText text).mapError .content

end Gazetteer
