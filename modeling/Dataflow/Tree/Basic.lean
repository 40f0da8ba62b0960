import Dataflow.Connector.Sharing
import Dataflow.Executor.Basic

/-!
# Trees of executors

A tree of executors runs a physical plan. Its nodes are numbered, and a node is fed by other nodes,
directly or through connectors. A node has either one source or a team of workers, which take the
tuples of its inputs in turn. The tree also keeps a record of the calls that its executors got.
-/

namespace Dataflow

/-- Where the tuples of an input come from. -/
inductive Supply where
  | node (place : Nat)
  | endpoint (connector : ConnectorId) (index : Nat)
  deriving DecidableEq, Repr

/-- An input of a node. -/
structure Slot where
  link : Link
  supply : Supply
  exhausted : Bool := false
  deriving DecidableEq, Repr

/-- The workers of a node, and what is on its way to and from them. -/
structure Team (ω : Type) where
  slots : List Slot
  workers : List ω
  /-- The number of workers, from the first on, that were opened. -/
  started : Nat := 0
  nextSlot : Nat := 0
  nextWorker : Nat := 0
  pending : List Tuple := []

/-- The input to pull: the first one that has not ended, beginning with the one whose turn it
is. -/
def Team.pick? {ω : Type} (team : Team ω) : Option (Nat × Slot) :=
  let numbered := team.slots.zipIdx.map fun (slot, i) => (i, slot)
  (numbered.drop team.nextSlot ++ numbered.take team.nextSlot).find? (!·.2.exhausted)

/-- What a node works with. -/
inductive Crew (σ ω : Type) where
  | source (s : σ) (started : Bool)
  | team (t : Team ω)

/-- A node: one operator at work. -/
structure Node (σ ω : Type) where
  operator : Operator
  schema : Schema
  phase : Phase := .unopened
  crew : Crew σ ω

/-- A connector of a tree. -/
structure Junction where
  connector : Connector
  producer : Nat
  /-- The consumers and the endpoints they read, in the order in which they were joined. -/
  consumers : List (OperatorId × Nat)

/-- What an executor is asked to do. -/
inductive Event where
  | start
  | next
  | process (input : Input)
  | stop
  deriving DecidableEq

/-- A call that an executor got. -/
structure Call where
  node : Nat
  worker : Option Nat
  event : Event
  failure : Option Error
  deriving DecidableEq

/-- Executors that run a physical plan. -/
structure Tree (σ ω : Type) where
  nodes : List (Node σ ω)
  junctions : List Junction
  root : Nat
  metrics : Metrics
  /-- The times that the clock shows, one reading after another, in nanoseconds. -/
  clock : Nat → Nat
  readings : Nat := 0
  newestCalls : List Call := []

namespace Tree

variable {σ ω : Type}

/-- The calls so far, in order. -/
def calls (t : Tree σ ω) : List Call :=
  t.newestCalls.reverse

/-- The node of the sink. -/
def sink? (t : Tree σ ω) : Option (Node σ ω) :=
  t.nodes[t.root]?

/-- The tree after a measurement. -/
def measure (t : Tree σ ω) (m : Measurement) : Tree σ ω :=
  { t with metrics := t.metrics.record m }

/-- The tree with one node changed. -/
def changeNode (t : Tree σ ω) (place : Nat) (f : Node σ ω → Node σ ω) : Tree σ ω :=
  { t with nodes := t.nodes.modify place f }

/-- The tree with the team of one node changed. -/
def changeTeam (t : Tree σ ω) (place : Nat) (f : Team ω → Team ω) : Tree σ ω :=
  t.changeNode place fun node =>
    match node.crew with
    | .team team => { node with crew := .team (f team) }
    | .source .. => node

/-- A connector that nothing reads from. -/
def noConnector : Connector :=
  ⟨0, "", .empty, [], 0, [], true, true⟩

/-- The place of a connector in the tree. -/
def seat (id : ConnectorId) : Seat (Tree σ ω) where
  read t := (t.junctions[id]?.map Junction.connector).getD noConnector
  write c t := { t with
    junctions := t.junctions.modify id fun junction => { junction with connector := c } }
  measure m t := t.measure m

end Tree

end Dataflow
