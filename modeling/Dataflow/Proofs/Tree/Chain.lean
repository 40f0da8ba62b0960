import Dataflow.Proofs.Plan.Physical
import Dataflow.Proofs.Tree.Build

/-!
# Chains

Where every operator has at most one producer and one consumer, a physical plan has no connectors,
and a tree is built node by node: each node is put behind the one that feeds it.
-/

namespace Dataflow

open Act

namespace PhysicalPlan.Realizes

variable {physical : PhysicalPlan} {p : Plan} {sink : OperatorId} {workers : Nat}
  {n : PhysicalNode} {id producer : OperatorId}

/-- Without an operator that has several consumers there are no connectors. -/
lemma connectors_eq_nil (h : physical.Realizes p sink workers)
    (hone : ∀ id, (p.consumersOf id).length ≤ 1) : physical.connectors = [] := by
  match hconnectors : physical.connectors with
  | [] => rfl
  | spec :: specs =>
    have htwo := (h.mem_producers spec.producer.id).mp (by simp [hconnectors])
    have hle := hone spec.producer.id
    omega

lemma node_eq (h : physical.Realizes p sink workers) (hn : n ∈ physical.nodes) {operator : Operator}
    (hmem : operator ∈ p.operators) (hid : n.id = operator.id) {count : Nat}
    (hcount : operator.kind.workers operator.id workers = .ok count) {inputs : List PhysicalInput}
    (hinputs : n.inputs = inputs) : n = .node operator count inputs := by
  have hstands := h.stands n hn
  have hworkers := hstands.workers_eq
  obtain ⟨own, number, given⟩ := n
  obtain rfl : own = operator := Plan.operator_ext hstands.operator_mem hmem hid
  obtain rfl : given = inputs := hinputs
  rw [show number = count from Except.ok.inj (hworkers.symm.trans hcount)]

lemma inputs_eq_nil (h : physical.Realizes p sink workers) (hn : n ∈ physical.nodes)
    (hid : n.id = id) (hlinks : p.links.filter (·.consumer = id) = []) : n.inputs = [] := by
  subst hid
  have heq := (h.stands n hn).links_eq
  rw [hlinks] at heq
  exact List.map_eq_nil_iff.mp heq

/-- The only input of a node comes from a node of its own if there are no connectors. -/
lemma exists_direct (h : physical.Realizes p sink workers) (hnone : physical.connectors = [])
    (hn : n.all ⊆ physical.nodes) (hid : n.id = id)
    (hlinks : p.links.filter (·.consumer = id) = [⟨producer, id⟩]) :
    ∃ m : PhysicalNode, n.inputs = [.direct ⟨producer, id⟩ m] ∧ m.id = producer ∧
      m.all ⊆ physical.nodes := by
  subst hid
  have hstands := h.stands n (hn (by simp [n.all_eq]))
  have heq := hstands.links_eq
  rw [hlinks, List.map_eq_singleton_iff] at heq
  obtain ⟨input, hinputs, hlink⟩ := heq
  have hinput := hstands.inputs input (by simp [hinputs])
  match input with
  | .direct link m =>
    obtain rfl : link = ⟨producer, n.id⟩ := hlink
    refine ⟨m, hinputs, hinput.1, fun other hother => hn ?_⟩
    rw [n.all_eq, hinputs, PhysicalInput.allOf_direct]
    exact List.mem_cons_of_mem _ hother
  | .endpoint link c i =>
    obtain ⟨-, ⟨spec, hspec, -⟩, -⟩ := hinput
    rw [hnone] at hspec
    cases hspec

end PhysicalPlan.Realizes

namespace Scaffold

variable {σ ω : Type} {registry : Registry σ ω} {context : Context}
  {connect : ConnectorId → Build σ ω Unit} {s s' : Scaffold σ ω} {operator : Operator}
  {workers : Nat} {slots : List Slot} {inputs : List Schema} {output : Schema} {crew : Crew σ ω}

/-- A node whose schema and crew can be made is added behind the others. -/
lemma outcome_createNode (hinputs : (slots.map fun slot => s.seen slot.supply) = inputs)
    (hschema : operator.outputSchema context.catalog.schemas inputs = .ok output)
    (hcrew : createCrew registry context operator workers slots inputs output = .ok crew) :
    (createNode registry context operator workers slots).outcome s =
      some (.ok s.nodes.length,
        { s with nodes := s.nodes ++ [⟨operator, output, .unopened, crew⟩] }) := by
  rw [createNode, outcome_bind, outcome_mapM_schemaOf, hinputs, andThen, outcome_bind, outcome_lift,
    hschema, andThen, outcome_bind, outcome_lift, hcrew]
  rfl

lemma outcome_buildNode_source
    (hschema : operator.outputSchema context.catalog.schemas [] = .ok output)
    (hcrew : createCrew registry context operator workers [] [] output = .ok crew) :
    (buildNode registry context connect (.node operator workers [])).outcome s =
      some (.ok s.nodes.length,
        { s with nodes := s.nodes ++ [⟨operator, output, .unopened, crew⟩] }) := by
  rw [buildNode, buildInputs]
  exact outcome_createNode rfl hschema hcrew

lemma outcome_buildNode_direct {link : Link} {m : PhysicalNode} {place : Nat} {below : Node σ ω}
    (hbelow : (buildNode registry context connect m).outcome s = some (.ok place, s'))
    (hplace : s'.nodes[place]? = some below)
    (hschema : operator.outputSchema context.catalog.schemas [below.schema] = .ok output)
    (hcrew : createCrew registry context operator workers [⟨link, .node place, false⟩]
      [below.schema] output = .ok crew) :
    (buildNode registry context connect (.node operator workers [.direct link m])).outcome s =
      some (.ok s'.nodes.length,
        { s' with nodes := s'.nodes ++ [⟨operator, output, .unopened, crew⟩] }) := by
  rw [buildNode, buildInputs, buildInputs, outcome_bind, outcome_bind, hbelow]
  exact outcome_createNode (by simp [seen, hplace]) hschema hcrew

end Scaffold

lemma PhysicalPlan.tree?_of_buildNode {σ ω : Type} {registry : Registry σ ω} {context : Context}
    {clock : Nat → Nat} {n : PhysicalNode} {place : Nat} {nodes : List (Node σ ω)}
    (h : ∀ connect, (Scaffold.buildNode registry context connect n).outcome ⟨[], []⟩ =
      some (.ok place, ⟨nodes, []⟩)) :
    PhysicalPlan.tree? ⟨n, []⟩ registry context clock =
      some (.ok { nodes, junctions := [], root := place, metrics := .empty, clock }) := by
  rw [tree?]
  simp only [List.map_nil, Scaffold.buildPlan, outcome_bind, h, andThen]
  rfl

end Dataflow
