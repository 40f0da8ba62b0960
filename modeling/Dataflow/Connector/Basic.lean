import Dataflow.Phase.Transition
import Dataflow.Tuple

/-!
# Connectors

A connector hands the tuples of one producer to several consumers. Each consumer reads through an
endpoint with a position of its own, so that every endpoint sees the whole sequence from its
start. A tuple is held back until every endpoint that is not closed has read it. An endpoint that
nobody asked for yet also counts, so that it misses nothing.
-/

namespace Dataflow

/-- Where one consumer is in the tuples of a connector. -/
structure Endpoint where
  position : Nat := 0
  phase : Phase := .unopened
  taken : Bool := false
  deriving DecidableEq, Repr, Inhabited

/-- An endpoint holds tuples back until it is closed. -/
def Endpoint.isLive (e : Endpoint) : Bool :=
  e.phase != .closed

/-- The tuples that a connector holds, and the positions of its endpoints. -/
structure Connector where
  id : ConnectorId
  producer : OperatorId
  schema : Schema
  buffer : List Tuple
  /-- The number of tuples dropped before the first one held back. -/
  base : Nat
  endpoints : List Endpoint
  started : Bool
  ended : Bool
  deriving DecidableEq

namespace Connector

/-- A connector that has seen no tuple. -/
def create (id : ConnectorId) (producer : OperatorId) (schema : Schema) (endpoints : Nat) :
    Result Connector :=
  if endpoints = 0 then .error (.config (.noEndpoint id))
  else .ok
    { id, producer, schema, buffer := [], base := 0, endpoints := .replicate endpoints {}
      started := false, ended := false }

/-- The number of endpoints. -/
def size (c : Connector) : Nat :=
  c.endpoints.length

/-- The connector with one endpoint changed. -/
def change (c : Connector) (index : Nat) (f : Endpoint → Endpoint) : Connector :=
  { c with endpoints := c.endpoints.modify index f }

/-- Hands out an endpoint, which can be done once. -/
def take (c : Connector) (index : Nat) : Result Connector :=
  match c.endpoints[index]? with
  | none => .error (.run (.noSuchEndpoint c.id index c.size))
  | some e =>
    if e.taken then .error (.run (.endpointTaken c.id index))
    else .ok (c.change index fun e => { e with taken := true })

/-- Hands out the first endpoint that is left. -/
def takeNext (c : Connector) : Result (Nat × Connector) := do
  match c.endpoints.findIdx? (!·.taken) with
  | none => throw (.run (.allEndpointsTaken c.id c.size))
  | some index => return (index, ← c.take index)

/-- The number of tuples that the producer has given. -/
def reach (c : Connector) : Nat :=
  c.base + c.buffer.length

/-- The endpoint of an index. -/
def endpoint (c : Connector) (index : Nat) : Endpoint :=
  c.endpoints[index]?.getD {}

/-- The position of the slowest endpoint that is not closed. -/
def slowest? (c : Connector) : Option Nat :=
  ((c.endpoints.filter Endpoint.isLive).map Endpoint.position).min?

/-- The connector without the tuples that every endpoint has read. -/
def evict (c : Connector) : Connector :=
  let passed := c.slowest?.getD c.reach - c.base
  { c with
    buffer := c.buffer.drop passed
    base := c.base + min passed c.buffer.length }

/-- The connector with one more tuple from its producer. -/
def push (c : Connector) (t : Tuple) : Connector :=
  { c with buffer := c.buffer ++ [t] }

/-- The connector after its producer came to the end. -/
def finish (c : Connector) : Connector :=
  { c with ended := true }

/-- The tuple at the position of an endpoint, and the connector after the endpoint has read it. -/
def read (c : Connector) (index : Nat) : Result (Tuple × Connector) :=
  let position := (c.endpoint index).position
  match if c.base ≤ position then c.buffer[position - c.base]? else none with
  | some t => .ok (t, (c.change index fun e => { e with position := e.position + 1 }).evict)
  | none => .error (.run (.behind c.producer index position c.base))

/-- The connector after an endpoint was opened, which also calls for the producer to be opened. -/
def startEndpoint (c : Connector) (index : Nat) : Result Connector := do
  let phase ← (c.endpoint index).phase.start c.producer
  return { c.change index fun e => { e with phase := phase } with started := true }

/-- The connector after an endpoint was closed. -/
def stopEndpoint (c : Connector) (index : Nat) : Result Connector := do
  let _ ← (c.endpoint index).phase.stop c.producer
  return (c.change index fun e => { e with phase := .closed }).evict

/-- Whether any endpoint is not closed. -/
def isLive (c : Connector) : Bool :=
  c.endpoints.any Endpoint.isLive

/-- Changing an endpoint keeps the number of endpoints. -/
@[simp] theorem size_change (c : Connector) (index : Nat) (f : Endpoint → Endpoint) :
    (c.change index f).size = c.size := by
  simp [change, size]

/-- Dropping tuples keeps the number of tuples given. -/
@[simp] theorem reach_evict (c : Connector) : c.evict.reach = c.reach := by
  simp only [evict, reach, List.length_drop]
  omega

/-- A new tuple counts as given. -/
@[simp] theorem reach_push (c : Connector) (t : Tuple) : (c.push t).reach = c.reach + 1 := by
  simp [push, reach, Nat.add_assoc]

end Connector

end Dataflow
