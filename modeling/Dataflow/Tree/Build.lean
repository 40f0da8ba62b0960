import Dataflow.Executor.Registry
import Dataflow.Plan.Physical
import Dataflow.Tree.Basic

/-!
# Building trees

A tree is built from a physical plan, every node after those that feed it. A connector is built
when the first consumer asks for one of its endpoints. Every connector has to be asked for, and
for each of its endpoints. A connector that feeds its own producer asks for itself while it is
being built. Its producer is then built once more, which fails at the first endpoint that it took
before; if it took none, it asks for itself again and again, so that the building does not come to
an end.
-/

namespace Dataflow

/-- A tree that is being built. -/
structure Scaffold (σ ω : Type) where
  nodes : List (Node σ ω)
  junctions : List (Option Junction)

namespace Scaffold

variable {σ ω : Type}

/-- A step of building. -/
abbrev Build (σ ω α : Type) : Type :=
  Act (Scaffold σ ω) α

/-- Adds a node and gives its place. -/
def addNode (node : Node σ ω) : Build σ ω Nat := do
  let s ← get
  set { s with nodes := s.nodes ++ [node] }
  return s.nodes.length

/-- The schema of what a supply gives. -/
def schemaOf (supply : Supply) : Build σ ω Schema := do
  let s ← get
  match supply with
  | .node place => return (s.nodes[place]?.map Node.schema).getD .empty
  | .endpoint id _ =>
    return ((s.junctions[id]?.join).map fun junction => junction.connector.schema).getD .empty

/-- Hands an endpoint of a connector to a consumer. -/
def joinEndpoint (id : ConnectorId) (index : Nat) (consumer : OperatorId) : Build σ ω Unit := do
  let s ← get
  match s.junctions[id]?.join with
  | none => throw (.run (.unknownConnector id))
  | some junction =>
    let connector ← junction.connector.take index
    let joined := { junction with
      connector := connector
      consumers := junction.consumers ++ [(consumer, index)] }
    set { s with junctions := s.junctions.set id (some joined) }

variable (registry : Registry σ ω) (context : Context)

/-- The crew of an operator: one source if it has no inputs, and a team otherwise. -/
def createCrew (operator : Operator) (workers : Nat) (slots : List Slot) (inputs : List Schema)
    (output : Schema) : Result (Crew σ ω) := do
  let tag := operator.kind.tag
  let make ← registry.require tag
  let request (worker : Nat) : Request :=
    { operator, inputs, links := slots.map Slot.link, output, worker, context }
  if slots.isEmpty then
    match ← make (request 0) with
    | .source s => return .source s false
    | .worker _ => throw (.run (.notASource tag operator.id))
  else
    let team ← (List.range (max workers 1)).mapM fun worker => do
      match ← make (request worker) with
      | .worker w => return w
      | .source _ => throw (.run (.notAnOperator tag operator.id))
    return .team { slots, workers := team }

/-- Adds the node of an operator behind its inputs. -/
def createNode (operator : Operator) (workers : Nat) (slots : List Slot) : Build σ ω Nat := do
  let inputs ← slots.mapM fun slot => schemaOf slot.supply
  let schema ← operator.outputSchema context.catalog.schemas inputs
  let crew ← createCrew registry context operator workers slots inputs schema
  addNode { operator, schema, crew }

mutual

/-- Builds a node and what feeds it, given how connectors are built. -/
def buildNode (connect : ConnectorId → Build σ ω Unit) : PhysicalNode → Build σ ω Nat
  | .node operator workers inputs => do
    let slots ← buildInputs connect operator.id inputs
    createNode registry context operator workers slots

/-- Builds what feeds a node. -/
def buildInputs (connect : ConnectorId → Build σ ω Unit) (consumer : OperatorId) :
    List PhysicalInput → Build σ ω (List Slot)
  | [] => return []
  | .direct link node :: inputs => do
    let place ← buildNode connect node
    return { link, supply := .node place } :: (← buildInputs connect consumer inputs)
  | .endpoint link id index :: inputs => do
    connect id
    joinEndpoint id index consumer
    return { link, supply := .endpoint id index } :: (← buildInputs connect consumer inputs)

end

/-- Builds a connector unless it is there, given how connectors above its producer are built. -/
def connectWith (plan : PhysicalPlan) (connect : ConnectorId → Build σ ω Unit)
    (id : ConnectorId) : Build σ ω Unit := do
  match (← get).junctions[id]?, plan.connector? id with
  | some (some _), _ => return
  | some none, some spec =>
    let place ← buildNode registry context connect spec.producer
    let schema ← schemaOf (.node place)
    let connector ← Connector.create id spec.producer.id schema spec.endpoints
    modify fun s =>
      { s with junctions := s.junctions.set id (some ⟨connector, place, []⟩) }
  | _, _ => throw (.run (.unknownConnector id))

/-- Builds a connector; connectors stand above one another to a limited depth. -/
def connect (plan : PhysicalPlan) : Nat → ConnectorId → Build σ ω Unit
  | 0, _ => .endless
  | depth + 1, id => connectWith registry context plan (connect plan depth) id

/-- The connectors, each of which has to be there and to have a consumer for each endpoint. -/
def finishJunctions (junctions : List (Option Junction)) : Result (List Junction) :=
  junctions.zipIdx.mapM fun (junction, id) =>
    match junction with
    | none => .error (.run (.unusedConnector id))
    | some junction =>
      let size := junction.connector.size
      if junction.consumers.length = size then .ok junction
      else .error (.run (.unusedEndpoints id size junction.consumers.length))

/-- Builds all nodes of a plan; gives the place of the sink and the connectors. Each connector may
stand above itself once. -/
def buildPlan (plan : PhysicalPlan) : Build σ ω (Nat × List Junction) := do
  let depth := 2 * plan.connectors.length + 1
  let root ← buildNode registry context (connect registry context plan depth) plan.root
  return (root, ← finishJunctions (← get).junctions)

end Scaffold

/-- The tree of a physical plan; none if the building does not come to an end. -/
def PhysicalPlan.tree? {σ ω : Type} (plan : PhysicalPlan) (registry : Registry σ ω)
    (context : Context) (clock : Nat → Nat) : Option (Result (Tree σ ω)) := do
  let start : Scaffold σ ω := ⟨[], plan.connectors.map fun _ => none⟩
  let (built, s) ← (Scaffold.buildPlan registry context plan).outcome start
  return built.map fun (root, junctions) =>
    { nodes := s.nodes, junctions, root, metrics := .empty, clock }

end Dataflow
