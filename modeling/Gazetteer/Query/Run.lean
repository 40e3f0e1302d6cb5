import Gazetteer.Encoding.SavedEncoder
import Gazetteer.Entity.Record
import Gazetteer.Linking.ConfigurationFile
import Gazetteer.Query.Answer

/-!
# Answering queries

A query is answered from its files alone. The configuration is read first, then the saved encoder,
then the entities; a saved encoder takes the place of the one that the configuration describes, and
spares the training. The first thing that goes wrong is the answer.
-/

set_option autoImplicit false

namespace Gazetteer

/-- Why a query has no answer. -/
inductive QueryError where
  | configuration (path : String) (cause : ConfigurationError)
  /-- The file of entities cannot be read. -/
  | entitiesFile (path : String) (cause : TextFault)
  /-- The file of entities is not a list of them. -/
  | entitiesText (path : String)
  | link (cause : LinkError)
  deriving DecidableEq, Repr

namespace QueryError

def message : QueryError → String
  | configuration path _ => s!"Failed to load config {path}"
  | entitiesFile path _ => s!"Failed to read entities from {path}"
  | entitiesText path => s!"Failed to parse entities in {path}"
  | link cause => cause.message

/--
The first line of the error as it is printed. A line ends with a line feed, and a return right before
it is part of that end; a return elsewhere is not.
-/
def headline (e : QueryError) : String :=
  let line := e.message.toList.takeWhile (· != '\n')
  String.ofList (if line.getLast? == some '\r' then line.dropLast else line)

/-- What is behind the error, if the message does not say it. -/
def cause? : QueryError → Option String
  | configuration _ cause => some cause.message
  | entitiesFile _ cause => some cause.message
  | entitiesText _ => none
  | link _ => none

end QueryError

namespace Query

/-- The configuration of a query: what its file says, or the defaults. -/
def configurationFrom (q : Query) (read : FileReader) : Except QueryError Configuration :=
  match q.configuration with
  | some path => (Configuration.load read path).mapError (.configuration path)
  | none => .ok {}

/-- The linker of a query, still without entities. -/
def emptyLinker (q : Query) (read : FileReader) (c : Configuration) :
    Except LinkError (Linker Encoder) :=
  match q.encoder with
  | some path => do
    let saved ← (SavedEncoder.load read path).mapError .encoder
    let encoder ← saved.toEncoder.mapError .encoder
    Linker.ofEncoder encoder c.index c.lookup
  | none => Linker.ofConfiguration c

def entitiesFrom (q : Query) (read : FileReader) : Except QueryError (List Entity) := do
  let text ← (read.text q.entities).mapError (.entitiesFile q.entities)
  match Entity.listOfText? text with
  | some entities => return entities
  | none => throw (.entitiesText q.entities)

/-- The linker with these entities, trained unless its encoder was saved, and indexed. -/
def prepare (q : Query) (linker : Linker Encoder) (entities : List Entity) :
    Except LinkError (Linker Encoder) := do
  let added := linker.addAll entities
  let _ ← added.result
  let linker := added.state
  let linker ←
    if q.encoder.isSome then pure linker
    else
      let step := linker.train linker.training
      let _ ← step.result
      pure step.state
  let step := linker.build
  let _ ← step.result
  return step.state

def results (q : Query) (read : FileReader) :
    Except QueryError (List (String × List Candidate)) := do
  let configuration ← q.configurationFrom read
  let linker ← (q.emptyLinker read configuration).mapError .link
  let entities ← q.entitiesFrom read
  let linker ← (q.prepare linker entities).mapError .link
  let found ← (linker.findAll q.mentions q.top).mapError .link
  return q.mentions.zip found

/-- The answer to a query in its format. -/
def answer (q : Query) (read : FileReader) : Except QueryError String :=
  (q.results read).map q.format.write

end Query

end Gazetteer
