import Gazetteer.Linking.Catalog
import Gazetteer.Linking.Configuration

/-!
# The linker

A linker resolves *mentions*, the words by which a text speaks of something, to entities. Entities are
added to its catalog, the encoder is trained on their aliases, and the aliases are indexed. After
that `find` encodes a mention, fetches the most similar aliases from the index, and keeps the best
one of each entity.

The index is a picture of the catalog at the time of the last build. Adding entities does not disturb
it, so it goes on serving; training does, because vectors of different vocabularies have nothing to do
with each other, so training empties it.
-/

set_option autoImplicit false

namespace Gazetteer

/-- How far a linker has come. -/
inductive Stage where
  | empty
  /-- Entities were registered since the index was built last. -/
  | populated
  /-- The index holds all registered entities. -/
  | indexed
  deriving DecidableEq, Repr, Inhabited

namespace Stage

def name : Stage → String
  | empty => "Empty"
  | populated => "Populated"
  | indexed => "Indexed"

end Stage

structure Candidate where
  entity : Entity
  /-- The similarity of the entity's best alias. -/
  similarity : Binary32
  /-- The position of that alias among all aliases fetched, counted from 1. -/
  rank : Nat
  deriving DecidableEq

/-- A catalog of entities with an index of their aliases. -/
structure Linker (ε : Type) where
  settings : LookupSettings
  /-- How the configuration asks to train. -/
  training : TrainingOptions
  encoder : ε
  index : VectorIndex
  catalog : Catalog
  stage : Stage

namespace Linker

variable {ε : Type} [TextEncoder ε]

/-! ## Making linkers -/

/-- The linker without entities over an encoder that is there already. -/
def ofEncoder (encoder : ε) (index : IndexSettings) (settings : LookupSettings) :
    Except LinkError (Linker ε) := do
  settings.validate
  return {
    settings
    training := {}
    encoder
    index := .ofSettings (TextEncoder.dimensions encoder) index
    catalog := .empty
    stage := .empty }

/-- The linker without entities over the untrained encoder of a configuration. -/
def ofConfiguration (c : Configuration) : Except LinkError (Linker Encoder) := do
  c.validate
  let encoder ← c.encoder.build.mapError .encoder
  let linker ← ofEncoder encoder c.index c.lookup
  return { linker with training := c.encoder.training }

/-! ## Adding entities -/

/-- The linker with a record in its catalog, whatever the record is. -/
def withEntity (l : Linker ε) (e : Entity) : Linker ε :=
  { l with catalog := l.catalog.put e, stage := .populated }

/-- Registers an entity, or replaces the one with its identifier. The record is put in order first. -/
def add (l : Linker ε) (e : Entity) : Step (Linker ε) LinkError Unit :=
  let e := e.normalized
  match e.fault? with
  | some fault => .refuse l (.entity e.id fault)
  | none => ⟨l.withEntity e, [], .ok ()⟩

/--
Registers entities up to the first that cannot be registered. Those before it stay registered; the
result is how many there were, or what was wrong.
-/
def addAll (l : Linker ε) : List Entity → Step (Linker ε) LinkError Nat
  | [] => ⟨l, [], .ok 0⟩
  | e :: rest =>
    let step := l.add e
    match step.result with
    | .error error => .refuse step.state error
    | .ok () =>
      let others := step.state.addAll rest
      { others with result := others.result.map (· + 1) }

/-! ## Training and indexing -/

/-- Trains the encoder on all aliases. If that succeeds, the index is emptied. -/
def train (l : Linker ε) (o : TrainingOptions) : Step (Linker ε) LinkError TrainingReport :=
  let step := TextEncoder.train l.encoder l.catalog.aliasTexts o
  match step.result with
  | .error cause => ⟨{ l with encoder := step.state }, step.events, .error (.encoder cause)⟩
  | .ok report =>
    ⟨{ l with
        encoder := step.state
        index := .ofSettings (TextEncoder.dimensions step.state) l.index.settings
        stage := if l.catalog.isEmpty then .empty else .populated },
      step.events, .ok report⟩

/-- Indexes all aliases of all entities. If that fails, all stays as it was. -/
def build (l : Linker ε) : Step (Linker ε) LinkError BuildReport :=
  if !TextEncoder.isReady l.encoder then .refuse l (.encoder .untrained)
  else
    let step := l.index.build l.encoder l.catalog.entries
    match step.result with
    | .error cause => ⟨{ l with index := step.state }, step.events, .error (.index cause)⟩
    | .ok report => ⟨{ l with index := step.state, stage := .indexed }, step.events, .ok report⟩

/-! ## Finding -/

/-- How many aliases are fetched for `k` candidates: a word of 64 bits, the greatest if need be. -/
def fetchCount (l : Linker ε) (k : Nat) : Nat :=
  min (k * l.settings.oversampling.toNat) (Whole.wordBound - 1)

/-- The identifier of the entity that a hit belongs to, with the similarity of the hit. -/
def ownedHit (hit : IndexHit) : Except LinkError (String × Binary32) :=
  (AliasKey.ofText hit.key).map fun key => (key.entityId, hit.similarity)

/-- A ranked hit with the record of its owner, if the owner is registered. -/
def candidate? (l : Linker ε) (hit : RankedHit) : Option Candidate :=
  (l.catalog.get? hit.owner).map fun entity => ⟨entity, hit.similarity, hit.rank⟩

/--
The entities that a mention most likely stands for, at most `k`, the likeliest first. A mention that
shares no feature with any alias has the zero vector and finds nothing.
-/
def find (l : Linker ε) (mention : String) (k : Nat) : Except LinkError (List Candidate) := do
  if k = 0 ∨ l.index.isEmpty then return []
  let query ← (TextEncoder.encode l.encoder mention).mapError (.mention mention)
  if (DenseVector.norm query).isSame .zero then return []
  let hits ← (l.index.find query (l.fetchCount k)).mapError .index
  let owned ← hits.mapM ownedHit
  return (bestPerOwner owned k l.settings.minSimilarity).filterMap l.candidate?

/-- The candidates of several mentions, or the error of the first that has one. -/
def findAll (l : Linker ε) (mentions : List String) (k : Nat) :
    Except LinkError (List (List Candidate)) :=
  mentions.mapM fun mention => l.find mention k

/-! ## Describing -/

/-- A line about the state of a linker, for people who look for mistakes. -/
def describe (l : Linker ε) : String :=
  "KnowledgeBase \x7b entities: " ++ toString l.catalog.size ++
    ", indexed_aliases: " ++ toString l.index.size ++
    ", encoder_ready: " ++ toString (TextEncoder.isReady l.encoder) ++
    ", state: " ++ l.stage.name ++ " \x7d"

end Linker

end Gazetteer
