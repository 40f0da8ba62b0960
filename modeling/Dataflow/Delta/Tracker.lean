import Dataflow.Delta.Basic

/-!
# Tracking a result

A tracker remembers the last snapshot of a result and gives the change to the next one. While input
flows it does so at most once in an interval; at the end it does so once more if anything came in
since. Times and the interval are in nanoseconds.
-/

namespace Dataflow

/-- What is remembered of a result. -/
structure Tracker where
  previous : List Tuple := []
  interval : Nat
  lastUpdate : Option Nat := none
  pending : Nat := 0
  deriving DecidableEq

namespace Tracker

variable (k : Tracker)

/-- One more input has come in. -/
def record : Tracker :=
  { k with pending := k.pending + 1 }

/-- Whether a change is due: something came in, and the last change is longer ago than the
interval. A time before the last change counts as the time of the last change. -/
def isDue (now : Nat) : Bool :=
  k.pending != 0 && k.lastUpdate.all fun last => decide (k.interval < now - last)

/-- The change to a snapshot, which is remembered. -/
def recompute (now : Nat) (snapshot : List Tuple) : Delta × Tracker :=
  (.between k.previous snapshot,
    { k with previous := snapshot, lastUpdate := some now, pending := 0 })

/-- The change to a snapshot if one is wanted; a snapshot that fails changes nothing. -/
def updateIf (wanted : Bool) (now : Nat) (snapshot : Unit → Result (List Tuple)) :
    Result (Option Delta × Tracker) :=
  if wanted then do
    let (delta, k) := k.recompute now (← snapshot ())
    return (some delta, k)
  else .ok (none, k)

/-- What an input calls for. -/
def onInput (now : Nat) : (Unit → Result (List Tuple)) → Result (Option Delta × Tracker) :=
  k.updateIf (k.isDue now) now

/-- What the end of the input calls for. -/
def onEnd (now : Nat) : (Unit → Result (List Tuple)) → Result (Option Delta × Tracker) :=
  k.updateIf (k.pending != 0) now

end Tracker

end Dataflow
