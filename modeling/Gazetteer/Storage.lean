import Gazetteer.Storage.Fault
import Gazetteer.Storage.Path

/-!
# Files by path

Saved encoders are read from files and written to files. What a path means and why it may fail is
decided here, over a plain value: a list of the directories and files that there are. Directories
above a file are made when it is written.

A path is followed step by step, and each step starts from a directory that is there. So two dots
behind the name of a file are a fault, and so is a single dot.
-/

set_option autoImplicit false

namespace Gazetteer

/-! ## What there is -/

/--
How a directory answers in which the system keeps facts about itself. Nothing can be made there, and
there may be no limit to names: a long name is then as good as any other that is not there.
-/
structure ClosedDirectory where
  /-- What comes of the attempt to make a file. -/
  makingFile : StorageFault
  /-- What comes of the attempt to make a directory. -/
  makingDirectory : StorageFault
  /-- The bytes that a name may have, if there is a limit. -/
  longestName : Option Nat
  deriving DecidableEq, Repr

inductive StorageEntry where
  | directory
  | closed (how : ClosedDirectory)
  | file (bytes : List UInt8)
  /-- Stores nothing: there is nothing to read and writing has no effect, unless a fault forbids it. -/
  | device (reading writing : Option StorageFault)
  deriving DecidableEq, Repr

namespace StorageEntry

def isDirectory : StorageEntry → Bool
  | directory => true
  | closed _ => true
  | _ => false

/-- The bytes that a name may have in a directory, if there is a limit. -/
def longestName? : StorageEntry → Option Nat
  | closed how => how.longestName
  | _ => some 255

/-- What an entry holds that is not a directory. -/
def contents : StorageEntry → Except StorageFault (List UInt8)
  | file bytes => .ok bytes
  | device (some fault) _ => .error fault
  | _ => .ok []

end StorageEntry

/--
The entries below the root, each under its path from the root, and the directory from which relative
paths start. The root is always a directory.
-/
structure Storage where
  entries : List (List String × StorageEntry)
  workingDirectory : List String

namespace Storage

def at? (s : Storage) (place : List String) : Option StorageEntry :=
  if place.isEmpty then some .directory else s.entries.lookup place

/-- The storage with a new entry at a place in a directory, unless nothing can be made there. -/
def put (s : Storage) (directory place : List String) (entry : StorageEntry) :
    Except StorageFault Storage :=
  match s.at? directory with
  | some (.closed how) =>
    .error (if entry.isDirectory then how.makingDirectory else how.makingFile)
  | _ => .ok { s with entries := (place, entry) :: s.entries }

/-! ## From paths to places -/

def longestPath : Nat := 4095

/-- What is wrong with a path by itself, whatever there is in the storage. -/
def pathFault? (p : Path) : Option StorageFault :=
  if p.hasNull then some .nullInPath
  else if p.steps.isEmpty && !p.isAbsolute then some .missing
  else if longestPath < p.size then some .nameTooLong
  else none

/-- Makes sure that there is a directory at a place. -/
def needDirectory (s : Storage) (place : List String) : Except StorageFault Unit :=
  match s.at? place with
  | some entry => if entry.isDirectory then .ok () else .error .notDirectory
  | none => .error .missing

/-- The place that a step leads to from a directory. There need not be anything there. -/
def step (s : Storage) (place : List String) (name : String) :
    Except StorageFault (List String) :=
  if name = "." then .ok place
  else if name = ".." then .ok place.dropLast
  else if ((s.at? place).bind StorageEntry.longestName?).any (· < name.utf8ByteSize) then
    .error .nameTooLong
  else .ok (place ++ [name])

/-- The directory to which steps lead from a place. -/
def follow (s : Storage) : List String → List String → Except StorageFault (List String)
  | place, [] => do
    s.needDirectory place
    return place
  | place, name :: rest => do
    s.needDirectory place
    s.follow (← s.step place name) rest

/--
The directory in which a path makes its last step, and that step. The path of the root makes a step
on the spot.
-/
def lastStep (s : Storage) (p : Path) : Except StorageFault (List String × String) := do
  if let some fault := pathFault? p then throw fault
  let start := if p.isAbsolute then [] else s.workingDirectory
  return (← s.follow start p.steps.dropLast, p.steps.getLast?.getD ".")

/-! ## Reading and writing -/

def read (s : Storage) : FileReader := fun path => do
  let p := Path.ofText path
  let (directory, name) ← s.lastStep p
  match s.at? (← s.step directory name) with
  | some entry =>
    if entry.isDirectory then throw .isDirectory
    if p.endsOpen then throw .notDirectory
    entry.contents
  | none => throw .missing

/-- Makes a directory unless it is there. -/
def makeDirectory (s : Storage) (p : Path) : Except StorageFault Storage := do
  let (directory, name) ← s.lastStep p
  let place ← s.step directory name
  match s.at? place with
  | some entry => if entry.isDirectory then return s else throw .fileExists
  | none => s.put directory place .directory

/--
Makes the first of some directories, each of which lies in the next. The next is made only if the
first cannot be made because something above it is missing.
-/
def makeDirectories (s : Storage) : List Path → Except StorageFault Storage
  | [] => .ok s
  | p :: above =>
    match s.makeDirectory p with
    | .ok s => .ok s
    | .error fault =>
      if fault = .missing then do
        let s ← s.makeDirectories above
        s.makeDirectory p
      else .error fault

/--
Writes a file, making the directories above it first. A path that ends in a slash cannot be a file,
whether or not there is a directory.
-/
def write (s : Storage) (path : String) (bytes : List UInt8) : Except StorageFault Storage := do
  let p := Path.ofText path
  let s ← s.makeDirectories p.above
  let (directory, name) ← s.lastStep p
  if p.endsOpen then throw .isDirectory
  let place ← s.step directory name
  match s.at? place with
  | some (.device _ (some fault)) => throw fault
  | some (.device _ none) => return s
  | some (.file _) => return { s with entries := (place, .file bytes) :: s.entries }
  | some _ => throw .isDirectory
  | none => s.put directory place (.file bytes)

end Storage

end Gazetteer
