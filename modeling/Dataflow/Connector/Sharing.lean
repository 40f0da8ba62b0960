import Dataflow.Connector.Basic
import Dataflow.Feed.Basic
import Dataflow.Metrics

/-!
# Reading through a connector

The endpoints of a connector drive its producer: the first one that is opened opens it, one that
has read everything held back pulls it, and the last one that is closed closes it. A connector
lives in some larger state, in which its producer lives as well; a seat says where. A fan-out is
the smallest such state.
-/

namespace Dataflow

/-- Where a connector is found in a larger state, and how the state takes measurements. -/
structure Seat (σ : Type) where
  read : σ → Connector
  write : Connector → σ → σ
  measure : Measurement → σ → σ

namespace Seat

variable {σ : Type} (seat : Seat σ)

/-- Puts the connector in its place and measures what it holds back. -/
def settle (c : Connector) : Act σ Unit :=
  modify fun s => seat.measure (.buffered c.producer c.buffer.length) (seat.write c s)

/-- Opens an endpoint. The producer is opened along with the first one. -/
def startEndpoint (startProducer : Act σ Unit) (index : Nat) : Act σ Unit := do
  let c := seat.read (← get)
  let opened ← c.startEndpoint index
  modify (seat.write opened)
  if !c.started then startProducer

/-- Gives an endpoint the tuple at its position. -/
def deliver (index : Nat) : Act σ (Option Tuple) := do
  let (t, c) ← (seat.read (← get)).read index
  seat.settle c
  return some t

/-- Gives an endpoint its next tuple. The producer is pulled only when the endpoint has read all
that it gave so far. -/
def pull (nextOfProducer : Act σ (Option Tuple)) (index : Nat) : Act σ (Option Tuple) := do
  let c := seat.read (← get)
  let e := c.endpoint index
  e.phase.require c.producer .toPull
  if e.position < c.reach then seat.deliver index
  else if c.ended then return none
  else match ← nextOfProducer with
    | some t =>
      modify fun s => seat.write ((seat.read s).push t) s
      seat.deliver index
    | none =>
      modify fun s => seat.write (seat.read s).finish s
      return none

/-- Closes an endpoint. The producer is closed along with the last one. -/
def stopEndpoint (stopProducer : Act σ Unit) (index : Nat) : Act σ Unit := do
  let c ← (seat.read (← get)).stopEndpoint index
  seat.settle c
  if !c.isLive then stopProducer

end Seat

/-- A connector with its producer beside it. -/
structure Fanout (υ : Type) where
  producer : υ
  connector : Connector
  metrics : Metrics

namespace Fanout

variable {υ : Type} [Feed υ]

/-- A fan-out that has seen no tuple. -/
def create (id : ConnectorId) (producer : υ) (endpoints : Nat) : Result (Fanout υ) := do
  let connector ← Connector.create id (Feed.operator producer) (Feed.schema producer) endpoints
  return ⟨producer, connector, .empty⟩

/-- The place of the connector. -/
def seat : Seat (Fanout υ) where
  read := connector
  write c f := { f with connector := c }
  measure m f := { f with metrics := f.metrics.record m }

/-- An action on the producer. -/
def ofProducer {α : Type} : Act υ α → Act (Fanout υ) α :=
  Act.within producer fun producer f => { f with producer := producer }

/-- Opens an endpoint. -/
def startEndpoint (index : Nat) : Act (Fanout υ) Unit :=
  seat.startEndpoint (ofProducer Feed.start) index

/-- Gives an endpoint its next tuple. -/
def pull (index : Nat) : Act (Fanout υ) (Option Tuple) :=
  seat.pull (ofProducer Feed.next) index

/-- Closes an endpoint. -/
def stopEndpoint (index : Nat) : Act (Fanout υ) Unit :=
  seat.stopEndpoint (ofProducer Feed.stop) index

end Fanout

end Dataflow
