import Gazetteer.Encoding.Fault
import Gazetteer.Text.Quoted

/-!
# What can be wrong with an index

The reasons for which an index cannot be built or searched, and their wording.
-/

set_option autoImplicit false

namespace Gazetteer

/-- Why an index could not be built or searched. -/
inductive IndexError where
  | duplicateKey (key : String)
  /-- An entry has a key that is not among the registered ones. -/
  | unregisteredKey (key : String)
  /-- No entry has this registered key. -/
  | missingEntry (key : String)
  /-- The text of an entry could not be encoded. -/
  | encoding (key text : String) (cause : EncoderError)
  /-- The vector of an entry has the wrong width. -/
  | width (key : String) (expected actual : Nat)
  /-- The vector to search for has the wrong width. -/
  | queryWidth (expected actual : Nat)
  /-- The encoder means to produce vectors of the wrong width. -/
  | encoderWidth (expected actual : Nat)
  | encoderNotReady
  deriving DecidableEq, Repr

namespace IndexError

/-- The key of the entry that the error is about; most errors are about one. -/
def key? : IndexError → Option String
  | duplicateKey key => some key
  | unregisteredKey key => some key
  | missingEntry key => some key
  | encoding key _ _ => some key
  | width key _ _ => some key
  | queryWidth _ _ => none
  | encoderWidth _ _ => none
  | encoderNotReady => none

def message : IndexError → String
  | duplicateKey key => s!"Duplicate index key '{key}'"
  | unregisteredKey key => s!"Key '{key}' is not in the registered key index"
  | missingEntry key => s!"Registered key '{key}' has no entry to encode"
  | encoding key text cause =>
    s!"Encoding failed for key '{key}' (text {Text.quoted text}): {cause.message}"
  | width key expected actual =>
    s!"Vector for key '{key}' has {actual} dimensions, index expects {expected}"
  | queryWidth expected actual =>
    s!"Query vector has {actual} dimensions, index expects {expected}"
  | encoderWidth expected actual =>
    s!"Encoder produces {actual}-dimensional vectors, index expects {expected}"
  | encoderNotReady => "Encoder not ready: train or load a model before building the index"

end IndexError

end Gazetteer
