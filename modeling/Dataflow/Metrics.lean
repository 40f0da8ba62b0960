import Dataflow.Binary64.Shortest

/-!
# Metrics

A metrics registry is the record of what was measured, in order. The numbers it shows are totals
over this record: rows into and out of each operator, the time of each call, the rows that each
connector holds back, and the failed runs by the kind of their error.
-/

namespace Dataflow

/-- One measurement. -/
inductive Measurement where
  /-- An operator took in and gave out rows in one call of some seconds. -/
  | call (operator kind : String) (rowsIn rowsOut : Nat) (seconds : Binary64)
  | buffered (producer : String) (rows : Nat)
  | failure (kind : String)
  deriving DecidableEq, Repr

/-- The record of what was measured. -/
structure Metrics where
  newest : List Measurement
  deriving DecidableEq, Repr

namespace Metrics

/-- The record before any measurement. -/
def empty : Metrics :=
  ⟨[]⟩

/-- The record after one more measurement. -/
def record (m : Metrics) (measurement : Measurement) : Metrics :=
  ⟨measurement :: m.newest⟩

/-- The measurements in the order they were made. -/
def measurements (m : Metrics) : List Measurement :=
  m.newest.reverse

/-- A new measurement comes last. -/
@[simp] theorem measurements_record (m : Metrics) (x : Measurement) :
    (m.record x).measurements = m.measurements ++ [x] := by
  simp [measurements, record]

/-- What a call of an operator adds to a total. -/
def callOf (operator kind : String) : Measurement → Option (Nat × Nat × Binary64)
  | .call o k rowsIn rowsOut seconds =>
    if o = operator ∧ k = kind then some (rowsIn, rowsOut, seconds) else none
  | _ => none

/-- The calls of an operator, in order. -/
def calls (m : Metrics) (operator kind : String) : List (Nat × Nat × Binary64) :=
  m.measurements.filterMap (callOf operator kind)

/-- The rows that went into an operator. -/
def rowsIn (m : Metrics) (operator kind : String) : Nat :=
  (m.calls operator kind).foldl (fun total call => total + call.1) 0

/-- The rows that came out of an operator. -/
def rowsOut (m : Metrics) (operator kind : String) : Nat :=
  (m.calls operator kind).foldl (fun total call => total + call.2.1) 0

/-- The rows that the connector of a producer holds back, if any were ever reported. -/
def bufferedRows? (m : Metrics) (producer : String) : Option Nat :=
  m.newest.findSome? fun
    | .buffered p rows => if p = producer then some rows else none
    | _ => none

/-- The number of runs that failed with an error of a kind. -/
def failures (m : Metrics) (kind : String) : Nat :=
  m.newest.countP fun
    | .failure k => k == kind
    | _ => false

/-- What a measurement does to a number of a family. -/
inductive FamilyType where
  | counter
  | gauge
  | histogram
  deriving DecidableEq, Repr

/-- A family of numbers that are told apart by the values of labels. -/
structure Family where
  name : String
  help : String
  type : FamilyType
  labels : List String
  /-- The measurements in order, each with a value for every label. -/
  values : List (List String × Binary64)
  deriving DecidableEq, Repr

/-- A time that is not below zero. -/
def nonnegative (x : Binary64) : Binary64 :=
  if (Binary64.zero false).lt x then x else .zero false

/-- What the calls of the operators give for a family. -/
def ofCalls (m : Metrics) (value : Nat → Nat → Binary64 → Binary64) :
    List (List String × Binary64) :=
  m.measurements.filterMap fun
    | .call operator kind rowsIn rowsOut seconds =>
      some ([operator, kind], value rowsIn rowsOut seconds)
    | _ => none

/-- The families of a record. -/
def families (m : Metrics) : List Family :=
  [{ name := "textflow_operator_rows_in_total"
     help := "Input tuples delivered to each operator"
     type := .counter
     labels := ["operator", "kind"]
     values := m.ofCalls fun rowsIn _ _ => .ofNat rowsIn },
   { name := "textflow_operator_rows_out_total"
     help := "Output tuples produced by each operator"
     type := .counter
     labels := ["operator", "kind"]
     values := m.ofCalls fun _ rowsOut _ => .ofNat rowsOut },
   { name := "textflow_operator_process_seconds"
     help := "Time spent in each process call"
     type := .histogram
     labels := ["operator", "kind"]
     values := m.ofCalls fun _ _ seconds => nonnegative seconds },
   { name := "textflow_connector_buffered_rows"
     help := "Tuples buffered in a fan-out connector"
     type := .gauge
     labels := ["producer"]
     values := m.measurements.filterMap fun
       | .buffered producer rows => some ([producer], .ofNat rows)
       | _ => none },
   { name := "textflow_run_failures_total"
     help := "Workflow runs aborted by an error"
     type := .counter
     labels := ["error_kind"]
     values := m.measurements.filterMap fun
       | .failure kind => some ([kind], .ofNat 1)
       | _ => none }]

/-- The whole record as text. What makes a text of the families is not a part of the program; where
it fails, the text is empty. -/
def exposition (encode : List Family → Option String) (m : Metrics) : String :=
  (encode m.families).getD ""

end Metrics

end Dataflow
