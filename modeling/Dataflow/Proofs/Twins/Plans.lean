import Dataflow.Proofs.Plan.Conditions
import Dataflow.Plan.Physical

/-!
# Physical plans for several numbers of workers

The standard number of workers settles how many workers each node of a physical plan has, and
nothing else. Staffing a plan gives every node the number of workers that its operator asks for.
Every step of the layout commutes with it, so that the layouts of a plan for two standard numbers
are the same plan, staffed in two ways.
-/

namespace Dataflow

/-- The number of workers of an operator. -/
def Operator.staff (standard : Nat) (operator : Operator) : Nat :=
  (operator.kind.workers operator.id standard).toOption.getD 0

/-- Whether the number of workers is refused does not depend on the standard number. -/
lemma OperatorKind.workers_eq_map (standard other : Nat) (operator : Operator) :
    operator.kind.workers operator.id standard =
      (operator.kind.workers operator.id other).map fun _ => operator.staff standard := by
  unfold Operator.staff OperatorKind.workers
  cases operator.kind with
  | userFunction function =>
    simp only [functionWorkers]
    rcases function.role.isParallel with _ | _ <;> rcases function.workers with _ | _ | _ <;>
      first | rfl | (simp only; split_ifs <;> rfl)
  | _ => rfl

mutual

/-- A node with the numbers of workers that follow from a standard number. -/
def PhysicalNode.staff (standard : Nat) : PhysicalNode → PhysicalNode
  | .node operator _ inputs =>
    .node operator (operator.staff standard) (PhysicalInput.staffAll standard inputs)

/-- Inputs with the numbers of workers that follow from a standard number. -/
def PhysicalInput.staffAll (standard : Nat) : List PhysicalInput → List PhysicalInput
  | [] => []
  | .direct link node :: inputs =>
    .direct link (node.staff standard) :: PhysicalInput.staffAll standard inputs
  | .endpoint link connector index :: inputs =>
    .endpoint link connector index :: PhysicalInput.staffAll standard inputs

end

/-- An input with the numbers of workers that follow from a standard number. -/
def PhysicalInput.staff (standard : Nat) : PhysicalInput → PhysicalInput
  | .direct link node => .direct link (node.staff standard)
  | .endpoint link connector index => .endpoint link connector index

/-- A connector with the numbers of workers that follow from a standard number. -/
def ConnectorSpec.staff (standard : Nat) (spec : ConnectorSpec) : ConnectorSpec :=
  { spec with producer := spec.producer.staff standard }

/-- A plan with the numbers of workers that follow from a standard number. -/
def PhysicalPlan.staff (standard : Nat) (p : PhysicalPlan) : PhysicalPlan :=
  ⟨p.root.staff standard, p.connectors.map (ConnectorSpec.staff standard)⟩

variable (standard : Nat)

@[simp] lemma PhysicalInput.staffAll_cons (input : PhysicalInput) (inputs : List PhysicalInput) :
    staffAll standard (input :: inputs) = input.staff standard :: staffAll standard inputs := by
  cases input <;> simp [staffAll, staff]

@[simp] lemma PhysicalNode.id_staff (n : PhysicalNode) : (n.staff standard).id = n.id := by
  cases n
  simp [PhysicalNode.staff, PhysicalNode.id, PhysicalNode.operator]

namespace Layout

/-- A layout with the numbers of workers that follow from a standard number. -/
def staff (layout : Layout) : Layout :=
  ⟨layout.built.map fun entry => (entry.1, entry.2.staff standard),
    layout.connectors.map (ConnectorSpec.staff standard)⟩

lemma takeNode_staff (layout : Layout) (id : OperatorId) :
    (layout.staff standard).takeNode id =
      (layout.takeNode id).map (Prod.map (PhysicalNode.staff standard) (staff standard)) := by
  have hfind : (layout.staff standard).built.find? (·.1 == id) =
      (layout.built.find? (·.1 == id)).map fun entry => (entry.1, entry.2.staff standard) := by
    simp [staff, List.find?_map]
  unfold takeNode
  rw [hfind]
  cases layout.built.find? (·.1 == id) with
  | none => rfl
  | some entry => simp [staff, Except.map, List.filter_map, Function.comp_def]

lemma connectorFor_staff (layout : Layout) (producer : OperatorId) (endpoints : Nat) :
    (layout.staff standard).connectorFor producer endpoints =
      (layout.connectorFor producer endpoints).map (Prod.map id (staff standard)) := by
  have hfind : (layout.staff standard).connectors.find? (·.producer.id == producer) =
      (layout.connectors.find? (·.producer.id == producer)).map (ConnectorSpec.staff standard) := by
    simp [staff, List.find?_map, ConnectorSpec.staff]
  unfold connectorFor
  rw [hfind, takeNode_staff]
  cases layout.connectors.find? (·.producer.id == producer) with
  | some spec => rfl
  | none =>
    cases layout.takeNode producer with
    | error e => rfl
    | ok taken => simp [bind, Except.bind, pure, Except.pure, staff, ConnectorSpec.staff]

variable (other : Nat) (plan : Plan) (consumer : OperatorId)

lemma addInput_staff (layout : Layout) (producer : OperatorId) :
    addInput plan consumer (layout.staff standard) producer =
      (addInput plan consumer layout producer).map
        (Prod.map (PhysicalInput.staff standard) (staff standard)) := by
  unfold addInput
  dsimp only
  rw [takeNode_staff, connectorFor_staff]
  by_cases hone : (plan.consumersOf producer).length = 1
  · rw [if_pos hone, if_pos hone]
    cases layout.takeNode producer <;> rfl
  · rw [if_neg hone, if_neg hone]
    cases layout.connectorFor producer (plan.consumersOf producer).length with
    | error e => rfl
    | ok found =>
      cases hindex : (plan.consumersOf producer).findIdx? (· == consumer) <;> rfl

lemma addInputs_staff (layout : Layout) (producers : List OperatorId) :
    addInputs plan consumer (layout.staff standard) producers =
      (addInputs plan consumer layout producers).map
        (Prod.map (PhysicalInput.staffAll standard) (staff standard)) := by
  induction producers generalizing layout with
  | nil => rfl
  | cons producer producers ih =>
    unfold addInputs
    rw [addInput_staff]
    cases addInput plan consumer layout producer with
    | error e => rfl
    | ok added =>
      simp only [Except.map, Prod.map, bind, Except.bind]
      rw [ih]
      cases addInputs plan consumer added.2 producers with
      | error e => rfl
      | ok rest => simp [pure, Except.pure]

/-- A node is added for one standard number as for another, apart from the workers. -/
lemma addNode_staff (layout : Layout) (id : OperatorId) :
    addNode plan standard (layout.staff standard) id =
      (addNode plan other layout id).map (staff standard) := by
  unfold addNode
  match hoperator : plan.operator? id with
  | none => rfl
  | some operator =>
    obtain ⟨-, rfl⟩ := Plan.operator?_eq_some_iff.mp hoperator
    simp only
    rw [addInputs_staff, OperatorKind.workers_eq_map standard other]
    cases addInputs plan operator.id layout (plan.producersOf operator.id) with
    | error e => rfl
    | ok added =>
      cases operator.kind.workers operator.id other with
      | error e => rfl
      | ok count => rfl

lemma foldlM_addNode_staff (layout : Layout) (order : List OperatorId) :
    order.foldlM (addNode plan standard) (layout.staff standard) =
      (order.foldlM (addNode plan other) layout).map (staff standard) := by
  induction order generalizing layout with
  | nil => rfl
  | cons id order ih =>
    rw [List.foldlM_cons, List.foldlM_cons, addNode_staff standard other]
    cases addNode plan other layout id with
    | error e => rfl
    | ok layout => exact ih layout

end Layout

/-- The physical plan of a plan for one standard number of workers is that for any other one,
staffed anew. -/
theorem ValidPlan.physical_eq_map_staff (v : ValidPlan) (other : Nat) :
    v.physical standard = (v.physical other).map (PhysicalPlan.staff standard) := by
  unfold ValidPlan.physical
  have hfold := Layout.foldlM_addNode_staff standard other v.plan ⟨[], []⟩ v.order
  change v.order.foldlM (Layout.addNode v.plan standard) ⟨[], []⟩ = _ at hfold
  rw [hfold]
  cases v.order.foldlM (Layout.addNode v.plan other) ⟨[], []⟩ with
  | error e => rfl
  | ok layout =>
    simp only [Result.map_ok, Result.ok_bind]
    rw [Layout.takeNode_staff]
    cases layout.takeNode v.sink with
    | error e => rfl
    | ok taken =>
      have hnames : (taken.2.staff standard).built.map (·.1) = taken.2.built.map (·.1) := by
        simp [Layout.staff]
      simp only [Result.map_ok, Prod.map, Result.ok_bind, hnames]
      cases leastId? (taken.2.built.map (·.1)) <;> rfl

end Dataflow
