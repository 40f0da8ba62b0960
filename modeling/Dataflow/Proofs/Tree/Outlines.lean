import Dataflow.Proofs.Plan.Outline
import Dataflow.Proofs.Tree.Reads
import Dataflow.Proofs.Tree.Wired

/-!
# Outlines of physical plans

The outline of a physical plan has an entry for each of its nodes and for each input that reads an
endpoint, in the order of the trees. In the physical plan of a valid one these are all operators and
all endpoints of connectors.
-/

namespace Dataflow

namespace PhysicalEntry

/-- The operator that an entry shows. -/
def operator? : PhysicalEntry → Option Operator
  | node operator _ => some operator
  | endpoint .. | connector .. => none

/-- The endpoint that an entry shows. -/
def endpoint? : PhysicalEntry → Option (ConnectorId × Nat)
  | endpoint _ c i => some (c, i)
  | node .. | connector .. => none

end PhysicalEntry

mutual

lemma PhysicalNode.filterMap_operator?_outline (n : PhysicalNode) (depth : Nat) :
    (n.outline depth).filterMap (·.2.operator?) = n.all.map PhysicalNode.operator := by
  match n with
  | .node operator workers inputs =>
    rw [PhysicalNode.outline, PhysicalNode.all, List.map_cons,
      ← PhysicalInput.filterMap_operator?_outlineAll inputs (depth + 1)]
    rfl

lemma PhysicalInput.filterMap_operator?_outlineAll (inputs : List PhysicalInput) (depth : Nat) :
    (PhysicalInput.outlineAll depth inputs).filterMap (·.2.operator?) =
      (PhysicalInput.allOf inputs).map PhysicalNode.operator := by
  match inputs with
  | [] =>
    rw [PhysicalInput.outlineAll, PhysicalInput.allOf]
    rfl
  | .direct _ node :: inputs =>
    rw [PhysicalInput.outlineAll, PhysicalInput.allOf, List.filterMap_append, List.map_append,
      node.filterMap_operator?_outline, PhysicalInput.filterMap_operator?_outlineAll inputs]
  | .endpoint .. :: inputs =>
    rw [PhysicalInput.outlineAll, PhysicalInput.allOf,
      ← PhysicalInput.filterMap_operator?_outlineAll inputs depth]
    rfl

end

mutual

lemma PhysicalNode.filterMap_endpoint?_outline (n : PhysicalNode) (depth : Nat) :
    (n.outline depth).filterMap (·.2.endpoint?) = n.endpoints := by
  match n with
  | .node operator workers inputs =>
    rw [PhysicalNode.outline, PhysicalNode.endpoints,
      ← PhysicalInput.filterMap_endpoint?_outlineAll inputs (depth + 1)]
    rfl

lemma PhysicalInput.filterMap_endpoint?_outlineAll (inputs : List PhysicalInput) (depth : Nat) :
    (PhysicalInput.outlineAll depth inputs).filterMap (·.2.endpoint?) =
      PhysicalInput.endpointsOf inputs := by
  match inputs with
  | [] =>
    rw [PhysicalInput.outlineAll, PhysicalInput.endpointsOf]
    rfl
  | .direct _ node :: inputs =>
    rw [PhysicalInput.outlineAll, PhysicalInput.endpointsOf, List.filterMap_append,
      node.filterMap_endpoint?_outline, PhysicalInput.filterMap_endpoint?_outlineAll inputs]
  | .endpoint _ c i :: inputs =>
    rw [PhysicalInput.outlineAll, PhysicalInput.endpointsOf,
      ← PhysicalInput.filterMap_endpoint?_outlineAll inputs depth]
    rfl

end

namespace PhysicalPlan

variable (physical : PhysicalPlan)

end PhysicalPlan

end Dataflow
