/-!
# Names of operators, links and connectors

Operators are named by their authors, links by the two operators they join, and connectors by
their place in a plan.
-/

namespace Dataflow

/-- The name of an operator, unique within a plan. Names are ordered by their characters. -/
abbrev OperatorId := String

/-- The place of a connector in a plan. -/
abbrev ConnectorId := Nat

/-- The name of a connector as it is shown. -/
def ConnectorId.text (id : ConnectorId) : String :=
  "connector-" ++ toString id

/-- A directed link between two operators. -/
structure Link where
  producer : OperatorId
  consumer : OperatorId
  deriving DecidableEq, Repr, Inhabited

/-- A link as it is shown. -/
def Link.text (link : Link) : String :=
  link.producer ++ " -> " ++ link.consumer

end Dataflow
