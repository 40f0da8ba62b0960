import Dataflow.Plan.Shape

/-!
# Physical plans

A physical plan says how a plan is run: a tree of nodes rooted at the sink, in which an operator
with one consumer stands under this consumer. An operator with several consumers feeds a connector
instead, and each of its consumers reads one endpoint of it.
-/

namespace Dataflow

mutual

/-- An operator with its number of workers and its inputs, in the order of the links. -/
inductive PhysicalNode where
  | node (operator : Operator) (workers : Nat) (inputs : List PhysicalInput)

/-- Where an input of a node comes from. -/
inductive PhysicalInput where
  | direct (link : Link) (node : PhysicalNode)
  | endpoint (link : Link) (connector : ConnectorId) (index : Nat)

end

namespace PhysicalNode

/-- The operator of a node. -/
def operator : PhysicalNode → Operator
  | node operator _ _ => operator

/-- The number of workers of a node. -/
def workers : PhysicalNode → Nat
  | node _ workers _ => workers

/-- The inputs of a node. -/
def inputs : PhysicalNode → List PhysicalInput
  | node _ _ inputs => inputs

/-- The name of the operator of a node. -/
def id (n : PhysicalNode) : OperatorId :=
  n.operator.id

end PhysicalNode

/-- The link that an input stands for. -/
def PhysicalInput.link : PhysicalInput → Link
  | .direct link _ | .endpoint link _ _ => link

/-- The node that stands under an input. -/
def PhysicalInput.node? : PhysicalInput → Option PhysicalNode
  | .direct _ node => some node
  | .endpoint .. => none

/-- The nodes right under a node. -/
def PhysicalNode.children (n : PhysicalNode) : List PhysicalNode :=
  n.inputs.filterMap PhysicalInput.node?

mutual

/-- A node and all nodes under it, each before those under it. -/
def PhysicalNode.all : PhysicalNode → List PhysicalNode
  | .node operator workers inputs =>
    .node operator workers inputs :: PhysicalInput.allOf inputs

/-- The nodes under a list of inputs. -/
def PhysicalInput.allOf : List PhysicalInput → List PhysicalNode
  | [] => []
  | .direct _ node :: inputs => node.all ++ PhysicalInput.allOf inputs
  | .endpoint .. :: inputs => PhysicalInput.allOf inputs

end

mutual

/-- Equality of nodes, part by part. -/
def PhysicalNode.same : PhysicalNode → PhysicalNode → Bool
  | .node operator workers inputs, .node operator' workers' inputs' =>
    operator == operator' && workers == workers' && PhysicalInput.sameAll inputs inputs'

/-- Equality of inputs, part by part. -/
def PhysicalInput.same : PhysicalInput → PhysicalInput → Bool
  | .direct link node, .direct link' node' => link == link' && node.same node'
  | .endpoint link connector index, .endpoint link' connector' index' =>
    link == link' && connector == connector' && index == index'
  | _, _ => false

/-- Equality of lists of inputs, one by one. -/
def PhysicalInput.sameAll : List PhysicalInput → List PhysicalInput → Bool
  | [], [] => true
  | input :: inputs, input' :: inputs' => input.same input' && PhysicalInput.sameAll inputs inputs'
  | _, _ => false

end

instance : BEq PhysicalNode := ⟨PhysicalNode.same⟩

/-- A connector: the node that feeds it, and the number of endpoints it has. -/
structure ConnectorSpec where
  id : ConnectorId
  producer : PhysicalNode
  endpoints : Nat
  deriving BEq

/-- How a plan is run. -/
structure PhysicalPlan where
  root : PhysicalNode
  connectors : List ConnectorSpec
  deriving BEq

namespace PhysicalPlan

/-- All nodes: those of the tree, then those above each connector. -/
def nodes (p : PhysicalPlan) : List PhysicalNode :=
  p.root.all ++ p.connectors.flatMap (·.producer.all)

/-- The first node of an operator. -/
def node? (p : PhysicalPlan) (id : OperatorId) : Option PhysicalNode :=
  p.nodes.find? (·.id == id)

/-- The connector at a place. -/
def connector? (p : PhysicalPlan) (id : ConnectorId) : Option ConnectorSpec :=
  p.connectors[id]?

/-- The first connector that an operator feeds. -/
def connectorOf? (p : PhysicalPlan) (producer : OperatorId) : Option ConnectorSpec :=
  p.connectors.find? (·.producer.id == producer)

end PhysicalPlan

/-- A layout under way: nodes that no consumer has taken yet, and the connectors so far. -/
structure Layout where
  built : List (OperatorId × PhysicalNode)
  connectors : List ConnectorSpec

namespace Layout

/-- Takes a node out of those laid out. -/
def takeNode (layout : Layout) (id : OperatorId) : Result (PhysicalNode × Layout) :=
  match layout.built.find? (·.1 == id) with
  | some (_, node) =>
    .ok (node, { layout with built := layout.built.filter (·.1 != id) })
  | none => .error (.run (.notLaidOut id))

/-- The connector of a producer, made when a consumer asks for it first. -/
def connectorFor (layout : Layout) (producer : OperatorId) (endpoints : Nat) :
    Result (ConnectorId × Layout) :=
  match layout.connectors.find? (·.producer.id == producer) with
  | some connector => .ok (connector.id, layout)
  | none => do
    let (node, layout) ← layout.takeNode producer
    let id := layout.connectors.length
    return (id, { layout with connectors := layout.connectors ++ [⟨id, node, endpoints⟩] })

/-- The input of a consumer from one of its producers. -/
def addInput (plan : Plan) (consumer : OperatorId) (layout : Layout) (producer : OperatorId) :
    Result (PhysicalInput × Layout) := do
  let link : Link := ⟨producer, consumer⟩
  let consumers := plan.consumersOf producer
  if consumers.length = 1 then
    let (node, layout) ← layout.takeNode producer
    return (.direct link node, layout)
  else
    let (connector, layout) ← layout.connectorFor producer consumers.length
    match consumers.findIdx? (· == consumer) with
    | some index => return (.endpoint link connector index, layout)
    | none => throw (.run (.notAConsumer producer consumer))

/-- The inputs of a consumer from a list of producers. -/
def addInputs (plan : Plan) (consumer : OperatorId) :
    Layout → List OperatorId → Result (List PhysicalInput × Layout)
  | layout, [] => .ok ([], layout)
  | layout, producer :: producers => do
    let (input, layout) ← addInput plan consumer layout producer
    let (inputs, layout) ← addInputs plan consumer layout producers
    return (input :: inputs, layout)

/-- The layout with the node of one more operator. -/
def addNode (plan : Plan) (workers : Nat) (layout : Layout) (id : OperatorId) :
    Result Layout := do
  match plan.operator? id with
  | none => throw (.run (.lostOperator id))
  | some operator =>
    let (inputs, layout) ← addInputs plan id layout (plan.producersOf id)
    let count ← operator.kind.workers id workers
    return { layout with built := (id, .node operator count inputs) :: layout.built }

end Layout

/-- The least of a list of names. -/
def leastId? : List OperatorId → Option OperatorId
  | [] => none
  | id :: ids => match leastId? ids with
    | some other => some (if other < id then other else id)
    | none => some id

/-- The physical plan of a plan that can run, with a standard number of workers. -/
def ValidPlan.physical (v : ValidPlan) (workers : Nat) : Result PhysicalPlan := do
  let layout ← v.order.foldlM (Layout.addNode v.plan workers) ⟨[], []⟩
  let (root, layout) ← layout.takeNode v.sink
  match leastId? (layout.built.map (·.1)) with
  | some orphan => throw (.run (.unreachable orphan v.sink))
  | none => return ⟨root, layout.connectors⟩

end Dataflow
