import Gazetteer.Bytes

/-!
# What keeps a file from being read or written

The faults of a storage, and readers of files that may have them. Most faults are those of the system
that holds the files, with the words and the number that it has for them.
-/

set_option autoImplicit false

namespace Gazetteer

/-- Why a file could not be read or written, with the number by which systems know the reason. -/
structure StorageFault where
  reason : String
  /-- A path that cannot even be handed to a system has no number. -/
  code : Option Nat
  deriving DecidableEq, Repr

namespace StorageFault

def notAllowed : StorageFault := ⟨"Operation not permitted", some 1⟩

def missing : StorageFault := ⟨"No such file or directory", some 2⟩

def failedTransfer : StorageFault := ⟨"Input/output error", some 5⟩

def noDevice : StorageFault := ⟨"No such device or address", some 6⟩

def notPermitted : StorageFault := ⟨"Permission denied", some 13⟩

def fileExists : StorageFault := ⟨"File exists", some 17⟩

def notDirectory : StorageFault := ⟨"Not a directory", some 20⟩

def isDirectory : StorageFault := ⟨"Is a directory", some 21⟩

def noSpace : StorageFault := ⟨"No space left on device", some 28⟩

def nameTooLong : StorageFault := ⟨"File name too long", some 36⟩

def nullInPath : StorageFault := ⟨"file name contained an unexpected NUL byte", none⟩

def message (f : StorageFault) : String :=
  match f.code with
  | some n => f.reason ++ " (os error " ++ toString n ++ ")"
  | none => f.reason

end StorageFault

/-- A way to get at the bytes of the file at a path. -/
abbrev FileReader := String → Except StorageFault (List UInt8)

/-- Why a file could not be read as text. -/
inductive TextFault where
  | storage (fault : StorageFault)
  /-- The bytes are not text in UTF-8. -/
  | notText
  deriving DecidableEq, Repr

def TextFault.message : TextFault → String
  | .storage fault => fault.message
  | .notText => "stream did not contain valid UTF-8"

/-- The text of the file at a path. -/
def FileReader.text (read : FileReader) (path : String) : Except TextFault String :=
  match read path with
  | .error fault => .error (.storage fault)
  | .ok bytes =>
    match Bytes.toText? bytes with
    | some s => .ok s
    | none => .error .notText

end Gazetteer
