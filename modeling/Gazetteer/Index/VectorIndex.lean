import Gazetteer.Index.KeyRegistry
import Gazetteer.Index.Metric
import Gazetteer.Index.Ranking

/-!
# The vector index

An index stores one vector for each of its keys and finds the keys whose vectors are most similar to
a query, by looking at all of them. It is always built as a whole: `build` encodes every entry and
puts the new content in place only when it is complete, so a failed build leaves the old content as
it was.
-/

set_option autoImplicit false

namespace Gazetteer

structure IndexSettings where
  metric : Metric := .cosine
  /-- Whether keys may repeat. The last text of a key counts then, and the first slot. -/
  allowDuplicates : Bool := false
  /-- Whether entries that cannot be used are left out, instead of failing the build. -/
  allowPartialFailure : Bool := false
  deriving DecidableEq, Repr, Inhabited

structure StoredVector where
  key : String
  vector : DenseVector
  norm : Binary32
  deriving DecidableEq

structure IndexHit where
  key : String
  similarity : Binary32
  deriving DecidableEq

/-- What came out of a build: how many entries are in, and which are out and why. -/
structure BuildReport where
  indexed : Nat
  skipped : List (String × String)
  deriving DecidableEq, Repr

/-- Vectors by key. The position of a stored vector is the slot of its key. -/
structure VectorIndex where
  dimensions : Nat
  settings : IndexSettings
  /-- The keys that a build has to cover, if they were registered beforehand. -/
  registered : Option KeyRegistry
  stored : List StoredVector
  deriving DecidableEq

namespace VectorIndex

def ofSettings (dimensions : Nat) (settings : IndexSettings) : VectorIndex :=
  ⟨dimensions, settings, none, []⟩

/-! ## Looking at the content -/

/-- The keys in slot order. -/
def keys (x : VectorIndex) : List String := x.stored.map StoredVector.key

def size (x : VectorIndex) : Nat := x.stored.length

def isEmpty (x : VectorIndex) : Bool := x.stored.isEmpty

def get? (x : VectorIndex) (key : String) : Option DenseVector :=
  (x.stored.find? fun s => s.key == key).map StoredVector.vector

def contains (x : VectorIndex) (key : String) : Bool := (x.get? key).isSome

/-! ## Registering keys -/

/--
Registers the keys that later builds have to cover, and decides for these builds too whether keys may
repeat. The stored vectors stay. The result is the number of different keys.
-/
def registerKeys (x : VectorIndex) (keys : List String) (allowDuplicates : Bool) :
    Step VectorIndex IndexError Nat :=
  match KeyRegistry.ofList keys allowDuplicates with
  | .error error => .refuse x error
  | .ok registry =>
    let settings := { x.settings with allowDuplicates }
    ⟨{ x with settings, registered := some registry }, [], .ok registry.size⟩

/-- Forgets the registered keys: later builds take their keys from the entries. -/
def clearKeys (x : VectorIndex) : VectorIndex := { x with registered := none }

/-! ## Building -/

/-- The last text of a key among the entries. -/
def lastText? (entries : List (String × String)) (key : String) : Option String :=
  entries.reverse.lookup key

variable {ε : Type} [TextEncoder ε]

/-- What becomes of a key: its vector if it has a text that encodes to the right width. -/
def encodeKey (dimensions : Nat) (encoder : ε) (entries : List (String × String)) (key : String) :
    Except IndexError StoredVector :=
  match lastText? entries key with
  | none => .error (.missingEntry key)
  | some text =>
    match TextEncoder.encode encoder text with
    | .error cause => .error (.encoding key text cause)
    | .ok vector =>
      if vector.size = dimensions then .ok ⟨key, vector, DenseVector.norm vector⟩
      else .error (.width key dimensions vector.size)

def values {β : Type} (results : List (Except IndexError β)) : List β :=
  results.filterMap Except.toOption

def errors {β : Type} (results : List (Except IndexError β)) : List IndexError :=
  results.filterMap fun
    | .error e => some e
    | .ok _ => none

/-- An entry that could not be used, and why, in words. -/
def skippedEntry (e : IndexError) : String × String := (e.key?.getD "", e.message)

/--
Encodes all entries and replaces the content. The keys are the registered ones or else those of the
entries, in the order of their registration. Everything that goes wrong is reported: first the
entries without a registered key, then the keys without a vector. If anything did and the settings do
not allow it, the build fails with the first of these errors.
-/
def build (x : VectorIndex) (encoder : ε) (entries : List (String × String)) :
    Step VectorIndex IndexError BuildReport :=
  if !TextEncoder.isReady encoder then .refuse x .encoderNotReady
  else if TextEncoder.dimensions encoder ≠ x.dimensions then
    .refuse x (.encoderWidth x.dimensions (TextEncoder.dimensions encoder))
  else
    match KeyRegistry.ofList (entries.map Prod.fst) x.settings.allowDuplicates with
    | .error e => .refuse x e
    | .ok entryKeys =>
      let slots := x.registered.getD entryKeys
      let strays := entryKeys.keys.filter fun key => !slots.contains key
      let results := slots.keys.map (encodeKey x.dimensions encoder entries)
      let failures := strays.map .unregisteredKey ++ errors results
      let failed := failures.map fun e => ProgressEvent.entryFailed (e.key?.getD "") e.message
      match failures, x.settings.allowPartialFailure with
      | first :: _, false => ⟨x, failed, .error first⟩
      | _, _ =>
        let stored := values results
        let report : BuildReport := ⟨stored.length, failures.map skippedEntry⟩
        ⟨{ x with stored }, failed ++ [.indexBuilt report.indexed report.skipped.length], .ok report⟩

/-! ## Searching -/

/-- All keys with their similarity to a query, in slot order. -/
def scored (x : VectorIndex) (query : DenseVector) : List IndexHit :=
  let queryNorm := DenseVector.norm query
  x.stored.map fun s => ⟨s.key, x.settings.metric.similarity query queryNorm s.vector s.norm⟩

/-- All keys ranked by their similarity to a query. -/
def ranked (x : VectorIndex) (query : DenseVector) : List IndexHit :=
  sortBySimilarity IndexHit.similarity (x.scored query)

/--
The `k` keys most similar to a query, or all if there are fewer; keys that are equally similar stand
in slot order, where a zero with a sign counts as less than one without. A query that the metric
cannot compare finds nothing.
-/
def find (x : VectorIndex) (query : DenseVector) (k : Nat) : Except IndexError (List IndexHit) :=
  if k = 0 ∨ x.isEmpty then .ok []
  else if query.size ≠ x.dimensions then .error (.queryWidth x.dimensions query.size)
  else if !x.settings.metric.accepts (DenseVector.norm query) then .ok []
  else .ok ((x.ranked query).take k)

end VectorIndex

end Gazetteer
