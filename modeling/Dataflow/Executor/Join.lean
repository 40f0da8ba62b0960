import Dataflow.Executor.Basic

/-!
# Joins

A join pairs the tuples of an inner and an outer input. Two tuples belong together when they have
equal values in all attributes that both sides have, lists of spans apart, and some span of the
one lies near some span of the other. Each tuple is held against those of the other side that came
before it, so that a pair comes out as soon as it is complete. Once a side has ended, the tuples
of the other side need not be kept.
-/

namespace Dataflow

/-- One of the two inputs. -/
inductive JoinSide where
  | inner
  | outer
  deriving DecidableEq, Repr

/-- The difference of two natural numbers, whichever is greater. -/
def distance (a b : Nat) : Nat :=
  (a - b) + (b - a)

/-- Whether two spans start and end within a distance of each other. -/
def Span.isNear (threshold : Nat) (s t : Span) : Bool :=
  distance s.start t.start ≤ threshold && distance s.stop t.stop ≤ threshold

/-- How tuples are paired, as it follows from the schemas of both sides. -/
structure JoinPlan where
  innerColumn : String
  outerColumn : String
  threshold : Nat
  /-- The places, on both sides, of the values that have to be equal. -/
  keys : List (Nat × Nat)
  /-- The places of the outer fields that come behind the inner ones. -/
  extra : List Nat
  innerLists : List Nat
  outerLists : List Nat
  schema : Schema

namespace JoinPlan

/-- The value at a place of a tuple. -/
def valueAt (t : Tuple) (place : Nat) : Field :=
  t.fields[place]?.getD .null

/-- The spans of a value, if it is a list of them. -/
def spansOf : Field → List Span
  | .list spans => spans
  | _ => []

/-- The spans at some places of a tuple that were found in an attribute. -/
def spansIn (t : Tuple) (places : List Nat) (column : String) : List Span :=
  (places.flatMap fun place => spansOf (valueAt t place)).filter (·.column == column)

/-- Whether two tuples belong together. -/
def pairs (p : JoinPlan) (inner outer : Tuple) : Bool :=
  p.keys.all (fun (i, o) => valueAt inner i == valueAt outer o) &&
    (spansIn inner p.innerLists p.innerColumn).any fun s =>
      (spansIn outer p.outerLists p.outerColumn).any fun t => s.isNear p.threshold t

/-- The inner fields, then those that only the outer side has. -/
def joined (p : JoinPlan) (inner outer : Tuple) : Result Tuple :=
  Tuple.bind p.schema (inner.fields ++ p.extra.map (valueAt outer))

/-- The places of the lists of spans of a schema. -/
def listPlaces (schema : Schema) : List Nat :=
  schema.attributes.zipIdx.filterMap fun (column, place) =>
    if column.type = .list then some place else none

/-- How the tuples of two schemas are paired. -/
def ofSchemas (id : OperatorId) (innerColumn outerColumn : String) (threshold : Nat)
    (inner outer output : Schema) : Result JoinPlan := do
  let shared := outer.attributes.zipIdx.filterMap fun (column, o) =>
    if column.type = .list then none
    else (inner.indexOf? column.name).map fun i => (i, o)
  let extra := outer.attributes.zipIdx.filter fun (column, _) => !inner.contains column.name
  let schema ← inner.concat (← Schema.ofAttributes (extra.map (·.1)))
  if schema = output then
    return {
      innerColumn, outerColumn, threshold, schema
      keys := shared
      extra := extra.map (·.2)
      innerLists := listPlaces inner
      outerLists := listPlaces outer }
  else throw (.run (.joinSchema id))

end JoinPlan

/-- A join under way. -/
structure Join where
  operator : OperatorId
  innerLink : Link
  outerLink : Link
  plan : JoinPlan
  inner : List Tuple := []
  outer : List Tuple := []
  innerEnded : Bool := false
  outerEnded : Bool := false

namespace Join

/-- The side of a link. -/
def sideOf (j : Join) (link : Link) : Result JoinSide :=
  if link = j.innerLink then .ok .inner
  else if link = j.outerLink then .ok .outer
  else .error (.run (.unexpectedLink j.operator link))

/-- The pairs of a tuple with the kept tuples of the other side. -/
def probe (j : Join) (t : Tuple) : JoinSide → Result (List Tuple)
  | .inner => (j.outer.filter (j.plan.pairs t)).mapM (j.plan.joined t)
  | .outer => (j.inner.filter (j.plan.pairs · t)).mapM (j.plan.joined · t)

/-- The join with a tuple kept, if the other side may still need it. -/
def keep (j : Join) (t : Tuple) : JoinSide → Join
  | .inner => if j.outerEnded then j else { j with inner := j.inner ++ [t] }
  | .outer => if j.innerEnded then j else { j with outer := j.outer ++ [t] }

/-- The join after a side has ended. -/
def finish (j : Join) : JoinSide → Join
  | .inner => { j with innerEnded := true, outer := [] }
  | .outer => { j with outerEnded := true, inner := [] }

/-- What an input gives, and the join after it. -/
def take (j : Join) : Input → Result (List Tuple × Join)
  | .tuple t link => do
    let side ← j.sideOf link
    return (← j.probe t side, j.keep t side)
  | .exhausted link => do
    return ([], j.finish (← j.sideOf link))

/-- Takes something in; a failure changes nothing. -/
def process (_now : Nat) (input : Input) (j : Join) : Result (List Tuple) × Join :=
  match j.take input with
  | .ok (tuples, j) => (.ok tuples, j)
  | .error e => (.error e, j)

instance : Worker Join where
  start j := (.ok (), j)
  process := process
  stop j := (.ok (), { j with inner := [], outer := [] })

end Join

end Dataflow
