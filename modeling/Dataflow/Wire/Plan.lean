import Dataflow.Plan.Physical
import Dataflow.Wire.Operator

/-!
# Plans in Json

A submitted plan lists its operators and its links. Writing a plan lists the operators in the order
of their names, so that two submissions of one plan have one text.
-/

namespace Dataflow

namespace Link

/-- A link in Json. -/
def toJson (link : Link) : Json :=
  .object [("from", .string link.producer), ("to", .string link.consumer)]

/-- Reads a link. -/
def ofJson? : Decoder Link := fun room j =>
  match Json.record? ["from", "to"] room j with
  | some [producer, consumer] => do
    let producer ← Json.required? Json.string? producer
    let consumer ← Json.required? Json.string? consumer
    return ⟨producer, consumer⟩
  | _ => none

end Link

namespace Plan

/-- A plan in Json. -/
def toJson (p : Plan) : Json :=
  .object [("operators", .array (p.operators.map Operator.toJson)),
    ("links", .array (p.links.map Link.toJson))]

/-- Reads the operators and the links of a submitted plan. -/
def partsOfJson? : Decoder (List Operator × List Link) := fun room j =>
  match Json.record? ["operators", "links"] room j with
  | some [operators, links] => do
    let operators ← Json.required? (Json.items? Operator.ofJson? (room - 1)) operators
    let links ← Json.default? [] (Json.items? Link.ofJson? (room - 1)) links
    return (operators, links)
  | _ => none

/-- The text of a plan. -/
def text (p : Plan) : String :=
  p.toJson.text

/-- The plan of a submitted text. -/
def ofText (text : String) : Result Plan :=
  match decodeText? partsOfJson? text with
  | some (operators, links) => ofParts operators links
  | none => .error (.config .unreadablePlan)

end Plan

mutual

/-- A node in Json. -/
def PhysicalNode.toJson : PhysicalNode → Json
  | .node operator workers inputs =>
    .object [("operator", operator.toJson), ("workers", .nat workers),
      ("inputs", .array (PhysicalInput.allToJson inputs))]

/-- An input in Json. -/
def PhysicalInput.toJson : PhysicalInput → Json
  | .direct link node =>
    .object [("Direct", .object [("link", link.toJson), ("node", node.toJson)])]
  | .endpoint link connector index =>
    .object [("Endpoint", .object [("link", link.toJson),
      ("endpoint", .object [("connector", .nat connector), ("index", .nat index)])])]

/-- Inputs in Json. -/
def PhysicalInput.allToJson : List PhysicalInput → List Json
  | [] => []
  | input :: inputs => input.toJson :: PhysicalInput.allToJson inputs

end

/-- Reads the place of an endpoint. -/
def endpointOfJson? : Decoder (ConnectorId × Nat) := fun room j =>
  match Json.record? ["connector", "index"] room j with
  | some [connector, index] => do
    let connector ← Json.required? Json.word? connector
    let index ← Json.required? Json.word? index
    return (connector, index)
  | _ => none

mutual

/-- Reads a node. Each level of nesting uses up one level of room. -/
def PhysicalNode.ofJson? : Decoder PhysicalNode
  | 0, _ => none
  | room + 1, j =>
    match Json.record? ["operator", "workers", "inputs"] (room + 1) j with
    | some [operator, workers, inputs] => do
      let operator ← Json.required? (Operator.ofJson? room) operator
      let workers ← Json.required? Json.word? workers
      let inputs ← match inputs with
        | none => some []
        | some j => PhysicalInput.allOfJson? room j
      return .node operator workers inputs
    | _ => none

/-- Reads the inputs of a node. -/
def PhysicalInput.allOfJson? : Decoder (List PhysicalInput)
  | room + 1, .array items => items.mapM fun item => PhysicalInput.ofJson? room item
  | _, _ => none

/-- Reads an input. -/
def PhysicalInput.ofJson? : Decoder PhysicalInput
  | room + 1, .object [(tag, value)] => PhysicalInput.ofTagged? room tag value
  | _, _ => none

/-- Reads what stands under the name of a kind of input. -/
def PhysicalInput.ofTagged? (room : Nat) (tag : String) (value : Json) : Option PhysicalInput :=
  match room with
  | 0 => none
  | room + 1 =>
    match tag with
    | "Direct" =>
      match Json.record? ["link", "node"] (room + 1) value with
      | some [link, some node] => do
        let link ← Json.required? (Link.ofJson? room) link
        return .direct link (← PhysicalNode.ofJson? room node)
      | _ => none
    | "Endpoint" =>
      match Json.record? ["link", "endpoint"] (room + 1) value with
      | some [link, place] => do
        let link ← Json.required? (Link.ofJson? room) link
        let (connector, index) ← Json.required? (endpointOfJson? room) place
        return .endpoint link connector index
      | _ => none
    | _ => none

end

namespace ConnectorSpec

/-- A connector in Json. -/
def toJson (c : ConnectorSpec) : Json :=
  .object [("id", .nat c.id), ("producer", c.producer.toJson), ("endpoints", .nat c.endpoints)]

/-- Reads a connector. -/
def ofJson? : Decoder ConnectorSpec := fun room j =>
  match Json.record? ["id", "producer", "endpoints"] room j with
  | some [id, producer, endpoints] => do
    let id ← Json.required? Json.word? id
    let producer ← Json.required? (PhysicalNode.ofJson? (room - 1)) producer
    let endpoints ← Json.required? Json.word? endpoints
    return ⟨id, producer, endpoints⟩
  | _ => none

end ConnectorSpec

namespace PhysicalPlan

/-- A physical plan in Json. -/
def toJson (p : PhysicalPlan) : Json :=
  .object [("root", p.root.toJson), ("connectors", .array (p.connectors.map ConnectorSpec.toJson))]

/-- Reads a physical plan. -/
def ofJson? : Decoder PhysicalPlan := fun room j =>
  match Json.record? ["root", "connectors"] room j with
  | some [root, connectors] => do
    let root ← Json.required? (PhysicalNode.ofJson? (room - 1)) root
    let connectors ← Json.default? [] (Json.items? ConnectorSpec.ofJson? (room - 1)) connectors
    return ⟨root, connectors⟩
  | _ => none

/-- The text of a physical plan. -/
def text (p : PhysicalPlan) : String :=
  p.toJson.text

/-- The physical plan of a text. -/
def ofText? (text : String) : Option PhysicalPlan :=
  decodeText? ofJson? text

end PhysicalPlan

end Dataflow
