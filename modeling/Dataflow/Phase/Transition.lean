import Dataflow.Error

/-!
# Changes of phase

Opening is asked once, of something that is unopened; work is asked of something that is open;
closing is asked once, whether it was opened or not. Everything else is refused.
-/

namespace Dataflow

namespace Phase

/-- The phase after opening. -/
def start (operator : OperatorId) : Phase → Result Phase
  | .unopened => .ok .opened
  | phase => .error (.wrongPhase operator phase .toOpen)

/-- Refuses an action unless the phase is open. -/
def require (operator : OperatorId) (action : Action) : Phase → Result Unit
  | .opened => .ok ()
  | phase => .error (.wrongPhase operator phase action)

/-- Refuses to close a second time, and otherwise says whether the phase was open. -/
def stop (operator : OperatorId) : Phase → Result Bool
  | .unopened => .ok false
  | .opened => .ok true
  | .closed => .error (.wrongPhase operator .closed .toClose)

/-- Opening succeeds exactly once, before anything else. -/
@[simp] theorem start_eq_ok_iff {operator : OperatorId} {phase next : Phase} :
    phase.start operator = .ok next ↔ phase = .unopened ∧ next = .opened := by
  cases phase <;> simp [start, eq_comm]

/-- Work is done exactly in the open phase. -/
@[simp] theorem require_eq_ok_iff {operator : OperatorId} {action : Action} {phase : Phase}
    {u : Unit} : phase.require operator action = .ok u ↔ phase = .opened := by
  cases phase <;> simp [require]

/-- Work is refused in every other phase. -/
theorem require_eq_error_iff {operator : OperatorId} {action : Action} {phase : Phase}
    {error : Error} : phase.require operator action = .error error ↔
      phase ≠ .opened ∧ error = .wrongPhase operator phase action := by
  cases phase <;> simp [require, eq_comm]

/-- Closing succeeds exactly when nothing was closed before. -/
theorem stop_eq_ok_iff {operator : OperatorId} {phase : Phase} {wasOpen : Bool} :
    phase.stop operator = .ok wasOpen ↔
      phase ≠ .closed ∧ wasOpen = decide (phase = .opened) := by
  cases phase <;> simp [stop, eq_comm]

end Phase

end Dataflow
