import Gazetteer.Query.Run

/-!
# The command

Reads the files that a query names, answers it, and prints the answer or the error. The exit code is
0 for an answer, 1 for an error, and 2 for a command line that is no query.
-/

set_option autoImplicit false

namespace Gazetteer.Command

def usage : String :=
  "usage: --entities FILE [--config FILE] [--model FILE] [--top-k N] [--format text|json] MENTION..."

/-- What kept a file from being read. -/
def storageFault : IO.Error → StorageFault
  | .noFileOrDirectory _ _ _ => .missing
  | .permissionDenied _ _ _ => .notPermitted
  | .inappropriateType _ code details => ⟨details, some code.toNat⟩
  | .otherError code details => ⟨details, some code.toNat⟩
  | error => ⟨toString error, none⟩

def readFile (path : String) : IO (Except StorageFault (List UInt8)) := do
  try
    return .ok (← IO.FS.readBinFile path).toList
  catch error =>
    return .error (storageFault error)

def readFiles (q : Query) : IO FileReader := do
  let paths := q.entities :: (q.configuration.toList ++ q.encoder.toList)
  let files ← paths.mapM fun path => return (path, ← readFile path)
  return fun path => (files.lookup path).getD (.error .missing)

/-- Prints an error with what is behind it. -/
def printError (error : QueryError) : IO Unit := do
  IO.eprintln s!"Error: {error.message}"
  match error.cause? with
  | some cause => IO.eprintln s!"\nCaused by:\n    {cause}"
  | none => pure ()

/-- Answers the query of a command line. -/
def run (arguments : List String) : IO UInt32 := do
  let usualConfiguration ← IO.getEnv "KB_LINKER_CONFIG"
  match Query.ofArguments? usualConfiguration arguments with
  | none =>
    IO.eprintln usage
    return 2
  | some q =>
    match q.answer (← readFiles q) with
    | .ok answer =>
      IO.print answer
      return 0
    | .error error =>
      printError error
      return 1

end Gazetteer.Command

def main (arguments : List String) : IO UInt32 := Gazetteer.Command.run arguments
