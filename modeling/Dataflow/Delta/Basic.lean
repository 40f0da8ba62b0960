import Dataflow.Flag

/-!
# Changes between snapshots

A change leads from one snapshot of a result to the next: the tuples that left the result, in the
order of the old snapshot, and those that joined it, in the order of the new one.
-/

namespace Dataflow

/-- A change of a result. -/
structure Delta where
  retractions : List Tuple
  insertions : List Tuple
  deriving DecidableEq

namespace Delta

/-- The change from one snapshot to another. -/
def between (old new : List Tuple) : Delta where
  retractions := old.filter (· ∉ new)
  insertions := new.filter (· ∉ old)

/-- Whether nothing changed. -/
def isEmpty (d : Delta) : Bool :=
  d.retractions.isEmpty && d.insertions.isEmpty

/-- The change as flagged tuples, retractions first. -/
def flagged (d : Delta) : Result (List Tuple) := do
  return (← d.retractions.mapM (Tuple.flag false)) ++ (← d.insertions.mapM (Tuple.flag true))

/-- A tuple is retracted exactly when it was there and is there no more. -/
@[simp] theorem mem_retractions_between {old new : List Tuple} {t : Tuple} :
    t ∈ (between old new).retractions ↔ t ∈ old ∧ t ∉ new := by
  simp [between]

/-- A tuple is inserted exactly when it is there and was not before. -/
@[simp] theorem mem_insertions_between {old new : List Tuple} {t : Tuple} :
    t ∈ (between old new).insertions ↔ t ∈ new ∧ t ∉ old := by
  simp [between]

end Delta

end Dataflow
