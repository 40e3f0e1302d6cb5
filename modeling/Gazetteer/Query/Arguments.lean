import Gazetteer.Number.Whole

/-!
# The command line

A query names a file of entities, the mentions to look up, and some options. Each option takes a
value and may be given once, by its full name (`--top-k 3`, `--top-k=3`) or by a letter (`-k 3`,
`-k3`, `-k=3`). Whatever begins with a hyphen is an option, a lone hyphen excepted, until `--` ends
the options; values that begin with a hyphen are only accepted behind an equals sign or a letter.
-/

set_option autoImplicit false

namespace Gazetteer

inductive AnswerFormat where
  | text
  | json
  deriving DecidableEq, Repr, Inhabited

def AnswerFormat.ofName? : String → Option AnswerFormat
  | "text" => some .text
  | "json" => some .json
  | _ => none

structure Query where
  entities : String
  /-- The file with the configuration, unless the defaults will do. -/
  configuration : Option String
  /-- The file with a saved encoder, unless one is to be trained. -/
  encoder : Option String
  top : Nat
  format : AnswerFormat
  mentions : List String
  deriving DecidableEq, Repr

namespace Query

inductive Flag where
  | entities
  | configuration
  | encoder
  | top
  | format
  deriving DecidableEq, Repr

namespace Flag

def ofName? : String → Option Flag
  | "entities" => some entities
  | "config" => some configuration
  | "model" => some encoder
  | "top-k" => some top
  | "format" => some format
  | _ => none

def ofLetter? : Char → Option Flag
  | 'e' => some entities
  | 'c' => some configuration
  | 'm' => some encoder
  | 'k' => some top
  | 'o' => some format
  | _ => none

end Flag

/-- What an argument is, before `--` comes. -/
inductive Argument where
  /-- The end of the options. -/
  | endOfOptions
  /-- An option, with its value if that is part of the argument. -/
  | option (flag : Flag) (value : Option String)
  | mention (text : String)
  | unknown
  deriving DecidableEq, Repr

/-- The value behind the letter of an option. -/
def attachedValue : List Char → Option String
  | [] => none
  | '=' :: value => some (String.ofList value)
  | value => some (String.ofList value)

/-- Tells what an argument is. -/
def Argument.ofChars : List Char → Argument
  | ['-', '-'] => endOfOptions
  | '-' :: '-' :: rest =>
    let value :=
      match rest.dropWhile (· != '=') with
      | [] => none
      | _ :: value => some (String.ofList value)
    match Flag.ofName? (String.ofList (rest.takeWhile (· != '='))) with
    | some flag => option flag value
    | none => unknown
  | '-' :: letter :: rest =>
    match Flag.ofLetter? letter with
    | some flag => option flag (attachedValue rest)
    | none => unknown
  | text => mention (String.ofList text)

/-- Whether an argument can be the value of the option before it. -/
def isValue (argument : String) : Bool := argument == "-" || !argument.startsWith "-"

/-- Separates options with their values from mentions. -/
def sortArguments? : List String → Option (List (Flag × String) × List String)
  | [] => some ([], [])
  | argument :: rest =>
    match Argument.ofChars argument.toList with
    | .endOfOptions => some ([], rest)
    | .mention text =>
      (sortArguments? rest).map fun (options, mentions) => (options, text :: mentions)
    | .option flag (some value) =>
      (sortArguments? rest).map fun (options, mentions) => ((flag, value) :: options, mentions)
    | .option flag none =>
      match rest with
      | value :: rest =>
        if isValue value then
          (sortArguments? rest).map fun (options, mentions) => ((flag, value) :: options, mentions)
        else none
      | [] => none
    | .unknown => none

/-- How many candidates are listed unless the query says otherwise. -/
def usualTop : Nat := 5

def path? (s : String) : Option String := if s.isEmpty then none else some s

/--
Reads the command line. The configuration may come from elsewhere if the command line does not name
one. There is no query if an option is unknown, repeated, without value or with one that cannot be
read, if there is no file of entities, or if there is nothing to look up.
-/
def ofArguments? (usualConfiguration : Option String) (arguments : List String) : Option Query := do
  let (options, mentions) ← sortArguments? arguments
  if !(options.map Prod.fst).Nodup ∨ mentions.isEmpty then none
  let entities ← (options.lookup .entities).bind path?
  let configuration ← ((options.lookup .configuration).or usualConfiguration).mapM path?
  let encoder ← (options.lookup .encoder).mapM path?
  let top ← ((options.lookup .top).map fun s => Whole.ofChars? s.toList).getD (some usualTop)
  let format ← ((options.lookup .format).map AnswerFormat.ofName?).getD (some .text)
  return { entities, configuration, encoder, top, format, mentions }

end Query

end Gazetteer
