/-!
# Steps and what they report

Training an encoder and building an index take a while, so they report on the way. A report is data:
a step returns the events in the order in which they happened, and whoever runs the step decides what
becomes of them.
-/

set_option autoImplicit false

namespace Gazetteer

/-- What a long step reports. -/
inductive ProgressEvent where
  /-- Training looks at this many documents. -/
  | trainingStarted (documents : Nat)
  /-- The vocabulary is decided: features kept and features dropped. -/
  | vocabularyFixed (kept dropped : Nat)
  /-- An entry of an index could not be used, and why. -/
  | entryFailed (key reason : String)
  /-- An index is complete: entries it holds and entries left out. -/
  | indexBuilt (indexed skipped : Nat)
  deriving DecidableEq, Repr

/--
One step of something with a state: the state afterwards, whether or not the step succeeded, the
events on the way, and the result or the error.
-/
structure Step (σ ε α : Type) where
  state : σ
  events : List ProgressEvent
  result : Except ε α

namespace Step

/-- A step that fails at once: the state stays and there is nothing to report. -/
def refuse {σ ε α : Type} (state : σ) (error : ε) : Step σ ε α := ⟨state, [], .error error⟩

end Step

end Gazetteer
