/-!
# Phases of a run

Whatever can be opened and closed goes through three phases, in one direction only.
-/

namespace Dataflow

/-- The phase of something that is opened once and closed once. -/
inductive Phase where
  | unopened
  | opened
  | closed
  deriving DecidableEq, Repr, Inhabited

/-- The name of a phase, as messages give it. -/
def Phase.name : Phase → String
  | .unopened => "unopened"
  | .opened => "open"
  | .closed => "closed"

/-- What can be asked of something that has phases. -/
inductive Action where
  | toOpen
  | toPull
  | toPush
  | toClose
  deriving DecidableEq, Repr, Inhabited

/-- The name of an action, as messages give it. -/
def Action.name : Action → String
  | .toOpen => "open"
  | .toPull => "pull"
  | .toPush => "push"
  | .toClose => "close"

end Dataflow
