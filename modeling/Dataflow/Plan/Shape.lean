import Dataflow.Plan.Basic

/-!
# The shape of a plan

A plan that can run is a connected graph without cycles, with one sink, in which sources feed every
operator, and in which every operator has the links that its kind declares. The conditions are
looked at in this order, and the first one that fails is reported. The numbers of links come last:
a plan without sink or source always has some operator with a wrong number of links.
-/

namespace Dataflow

namespace Plan

variable (p : Plan)

/-- The end of a link that is no operator of the plan. -/
def missingEnd? (link : Link) : Option OperatorId :=
  [link.producer, link.consumer].find? fun id => !p.contains id

/-- The first link with an end that is no operator of the plan. -/
def unresolved? : Option (Link × OperatorId) :=
  p.links.findSome? fun link => (p.missingEnd? link).map fun missing => (link, missing)

/-- Whether none of the producers of an operator remains. -/
def isReady (remaining : List OperatorId) (id : OperatorId) : Bool :=
  (p.producersOf id).all fun producer => !remaining.contains producer

/-- Operators taken out one by one, each time the first one that is ready: those taken, in the
order of taking, and those that are never ready. -/
def takeReady (remaining : List OperatorId) : List OperatorId × List OperatorId :=
  match _found : remaining.find? (p.isReady remaining) with
  | none => ([], remaining)
  | some id =>
    let (taken, left) := takeReady (remaining.erase id)
    (id :: taken, left)
termination_by remaining.length
decreasing_by
  have mem := List.mem_of_find?_eq_some _found
  have := List.length_erase_of_mem mem
  have := List.length_pos_of_mem mem
  omega

/-- An operator met for the second time on the way from `current` from producer to producer within
`left`. The fuel is more than the number of operators in `left`. -/
def revisited (left : List OperatorId) :
    (fuel : Nat) → (seen : List OperatorId) → (current : OperatorId) → OperatorId
  | 0, _, current => current
  | fuel + 1, seen, current =>
    if seen.contains current then current
    else match (p.producersOf current).find? left.contains with
      | some producer => revisited left fuel (current :: seen) producer
      | none => current

/-- The operators with every producer before its consumers, the least name first where there is a
choice; or an operator on a cycle. -/
def order : Except ShapeError (List OperatorId) :=
  match p.takeReady p.ids with
  | (taken, []) => .ok taken
  | (_, first :: rest) =>
    .error (.cycle (p.revisited (first :: rest) (rest.length + 2) [] first))

/-- The operators of a list that are among some targets. -/
def met (targets unseen : List OperatorId) : List OperatorId :=
  unseen.filter targets.contains

/-- The operators of a list that are not among some targets. -/
def missed (targets unseen : List OperatorId) : List OperatorId :=
  unseen.filter fun id => !targets.contains id

/-- Each operator is either met or missed. -/
theorem length_met_add_length_missed (targets unseen : List OperatorId) :
    (met targets unseen).length + (missed targets unseen).length = unseen.length := by
  induction unseen with
  | nil => rfl
  | cons id unseen ih =>
    unfold met missed at *
    by_cases h : targets.contains id = true <;>
      simp only [List.filter_cons, h, if_true, if_false, List.length_cons, Bool.not_true,
        Bool.not_false, Bool.false_eq_true] <;> omega

/-- The operators among `unseen` that no path leads to from the frontier. -/
def beyond (next : OperatorId → List OperatorId) (unseen frontier : List OperatorId) :
    List OperatorId :=
  match frontier with
  | [] => unseen
  | id :: frontier =>
    beyond next (missed (next id) unseen) (frontier ++ met (next id) unseen)
termination_by unseen.length + frontier.length
decreasing_by
  have := length_met_add_length_missed (next id) unseen
  simp only [List.length_append, List.length_cons]
  omega

/-- The operators that a link joins with an operator. -/
def neighbours (id : OperatorId) : List OperatorId :=
  p.producersOf id ++ p.consumersOf id

/-- The operators that are not connected with the first one. -/
def disconnected : List OperatorId :=
  match p.ids with
  | [] => []
  | first :: others => beyond p.neighbours others [first]

/-- The names of the sinks. -/
def sinks : List OperatorId :=
  (p.operators.filter (·.kind.isSink)).map (·.id)

/-- The names of the sources. -/
def sources : List OperatorId :=
  (p.operators.filter (·.kind.isSource)).map (·.id)

/-- The operators that no source reaches. -/
def unfed : List OperatorId :=
  beyond p.consumersOf (p.ids.filter fun id => !p.sources.contains id) p.sources

/-- What is wrong with the number of links of an operator. -/
def arityError? (operator : Operator) : Option ShapeError :=
  let inputs := (p.producersOf operator.id).length
  let outputs := (p.consumersOf operator.id).length
  let declared := operator.kind.outputArity
  if inputs ≠ operator.kind.inputArity then
    some (.arity operator.id .input operator.kind.inputArity inputs)
  else if (declared = 0 ∧ outputs ≠ 0) ∨ outputs < declared then
    some (.arity operator.id .output declared outputs)
  else none

/-- The sink, if there is exactly one. -/
def onlySink : Except ShapeError OperatorId :=
  match p.sinks with
  | [] => .error .noSink
  | [sink] => .ok sink
  | sinks => .error (.multipleSink sinks)

/-- The order of the operators and the sink of a plan that can run, or the first condition that
fails. -/
def checkShape : Except ShapeError (List OperatorId × OperatorId) := do
  match p.unresolved? with
  | some (link, missing) => throw (.unknownOperator link missing)
  | none => pure ()
  let order ← p.order
  match p.disconnected with
  | id :: _ => throw (.disconnected id)
  | [] => pure ()
  let sink ← p.onlySink
  match p.unfed with
  | id :: _ => throw (.noSource id)
  | [] => pure ()
  match p.operators.findSome? p.arityError? with
  | some e => throw e
  | none => pure ()
  return (order, sink)

end Plan

/-- A plan that can run, with its operators in order and its sink. -/
structure ValidPlan where
  plan : Plan
  order : List OperatorId
  sink : OperatorId
  checked : plan.checkShape = .ok (order, sink)

/-- A plan as one that can run. -/
def Plan.validate (p : Plan) : Except ShapeError ValidPlan :=
  match h : p.checkShape with
  | .ok (order, sink) => .ok ⟨p, order, sink, h⟩
  | .error e => .error e

end Dataflow
