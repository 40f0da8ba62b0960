import Dataflow.Feed.Basic

/-!
# Feeds of given rows

The simplest feed gives the rows of a list in order.
-/

namespace Dataflow

/-- A feed of given rows. -/
structure Rows where
  operator : OperatorId
  schema : Schema
  rest : List Tuple
  phase : Phase := .unopened
  deriving DecidableEq

namespace Rows

/-- Opens the feed. -/
def start : Act Rows Unit := do
  let feed ← get
  set { feed with phase := ← feed.phase.start feed.operator }

/-- Gives the next row. -/
def next : Act Rows (Option Tuple) := do
  let feed ← get
  feed.phase.require feed.operator .toPull
  match feed.rest with
  | [] => return none
  | row :: rest =>
    set { feed with rest := rest }
    return some row

/-- Closes the feed and drops the rows it still has. -/
def stop : Act Rows Unit := do
  let feed ← get
  let _ ← feed.phase.stop feed.operator
  set { feed with phase := .closed, rest := [] }

instance : Feed Rows where
  operator := Rows.operator
  schema := Rows.schema
  start := start
  next := next
  stop := stop

end Rows

end Dataflow
