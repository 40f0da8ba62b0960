import Dataflow.Proofs.Flow.Places
import Dataflow.Proofs.Plan.Typing
import Dataflow.Proofs.Tree.Likeness

/-!
# Nodes of valid plans

In a tree that runs a valid plan, the inputs of a node come from the producers of its operator in
the order of the links, and every node has the schema of its operator.
-/

namespace Dataflow

variable {σ ω : Type}

lemma PhysicalPlan.Realizes.linked {physical : PhysicalPlan} {p : Plan} {sink : OperatorId}
    {workers : Nat} (h : physical.Realizes p sink workers) : physical.Linked := by
  intro n hn input hinput
  have hstands := (h.stands n hn).inputs input hinput
  match input with
  | .direct .. => exact hstands.1
  | .endpoint .. => exact hstands.2.1

/-- A node that runs an operator of a valid plan: it is fed by the producers of the operator, and
its schema and its crew follow from theirs. -/
structure Node.Works (registry : Registry σ ω) (context : Context) (v : ValidPlan) (workers : Nat)
    (giver? : Supply → Option (Node σ ω)) (node : Node σ ω) (slots : List Slot)
    (inputs : List Schema) : Prop where
  mem : node.operator ∈ v.plan.operators
  links_eq : slots.map Slot.link = v.plan.links.filter (·.consumer == node.operator.id)
  fresh : ∀ slot ∈ slots, slot.exhausted = false
  givers : List.Forall₂ (fun slot a => ∃ below, giver? slot.supply = some below ∧
    below.operator.id = slot.link.producer ∧ below.schema = a) slots inputs
  schema : node.operator.outputSchema context.catalog.schemas inputs = .ok node.schema
  crew : ∃ count, node.operator.kind.workers node.operator.id workers = .ok count ∧
    Scaffold.createCrew registry context node.operator count slots inputs node.schema =
      .ok node.crew

namespace Node.Works

variable {registry : Registry σ ω} {context : Context} {v : ValidPlan} {workers : Nat}
  {giver? : Supply → Option (Node σ ω)} {node : Node σ ω} {slots : List Slot}
  {inputs : List Schema}

lemma supplies_eq (h : node.Works registry context v workers giver? slots inputs) :
    node.crew.supplies = slots.map Slot.supply := by
  obtain ⟨_, -, hcrew⟩ := h.crew
  exact (Scaffold.createCrew_eq_ok h.fresh hcrew).1

lemma producers_eq (h : node.Works registry context v workers giver? slots inputs) :
    slots.map (·.link.producer) = v.plan.producersOf node.operator.id := by
  rw [Plan.producersOf, ← h.links_eq, List.map_map]
  rfl

lemma nodup_links (h : node.Works registry context v workers giver? slots inputs) :
    (slots.map Slot.link).Nodup := by
  rw [h.links_eq]
  exact v.plan.distinct.filter _

lemma givers_below (h : node.Works registry context v workers giver? slots inputs) :
    List.Forall₂ (fun slot a => slot.supply ∈ node.crew.supplies ∧
      ∃ below, giver? slot.supply = some below ∧ below.operator.id = slot.link.producer ∧
        below.schema = a) slots inputs := by
  refine (List.forall₂_and_left _ _).mpr ⟨fun slot hslot => ?_, h.givers⟩
  rw [h.supplies_eq]
  exact List.mem_map_of_mem hslot

/-- If what feeds a node has the schemas of its producers, the node has that of its operator. -/
lemma hasSchema (h : node.Works registry context v workers giver? slots inputs)
    (hbelow : ∀ x ∈ node.crew.supplies, ∀ below, giver? x = some below →
      v.HasSchema context.catalog.schemas below.operator.id below.schema) :
    v.HasSchema context.catalog.schemas node.operator.id node.schema := by
  refine .intro h.mem ?_ h.schema
  rw [← h.producers_eq, List.forall₂_map_left_iff]
  refine h.givers_below.imp ?_
  rintro slot a ⟨hmem, below, hgiver, hid, rfl⟩
  rw [← hid]
  exact hbelow _ hmem below hgiver

end Node.Works

namespace Tree

variable {registry : Registry σ ω} {context : Context} {v : ValidPlan} {workers : Nat}
  {physical : PhysicalPlan} {t : Tree σ ω}

lemma nodes_placeOf {x : Supply} {node : Node σ ω} (h : t.giver? x = some node) :
    t.nodes[t.ledger.wiring.placeOf x]? = some node := by
  match x with
  | .node k => exact h
  | .endpoint c i =>
    obtain ⟨junction, hc, hnode⟩ := Option.bind_eq_some_iff.mp h
    rwa [Wiring.placeOf, Wiring.producerOf_eq (joint_of_junction hc)]

lemma placeOf_lt (hsound : t.ledger.wiring.Sound) {k : Nat} {node : Node σ ω}
    (hk : t.nodes[k]? = some node) {x : Supply} (hx : x ∈ node.crew.supplies) :
    t.ledger.wiring.placeOf x < k :=
  hsound.placeOf_lt (suppliesOf_node hk ▸ hx)

/-- Every node of a tree that runs a valid plan runs an operator of it. -/
lemma Resembles.exists_works (h : t.Resembles registry context physical)
    (hrealizes : physical.Realizes v.plan v.sink workers) {k : Nat} {node : Node σ ω}
    (hk : t.nodes[k]? = some node) :
    ∃ slots inputs, node.Works registry context v workers t.giver? slots inputs := by
  obtain ⟨n, hn, hoperator, slots, inputs, hlinks, hfresh, hgivers, hschema, hcrew⟩ :=
    h.nodes k node hk
  have hstands := hrealizes.stands n hn
  rw [← hoperator] at hschema hcrew
  refine ⟨slots, inputs, ?_, ?_, hfresh, hgivers, hschema, n.workers, ?_, hcrew⟩
  · rw [hoperator]
    exact hstands.operator_mem
  · rw [hlinks, hstands.links_eq, hoperator]
    exact List.filter_congr fun _ _ => rfl
  · rw [hoperator]
    exact hstands.workers_eq

lemma Resembles.exists_sink (h : t.Resembles registry context physical)
    (hrealizes : physical.Realizes v.plan v.sink workers) :
    ∃ node, t.nodes[t.root]? = some node ∧ node.operator.id = v.sink := by
  obtain ⟨node, hnode, hoperator⟩ := h.root
  refine ⟨node, hnode, ?_⟩
  rw [hoperator]
  exact hrealizes.root_eq

lemma Resembles.exists_node (h : t.Resembles registry context physical)
    (hrealizes : physical.Realizes v.plan v.sink workers) :
    ∀ operator ∈ v.plan.operators, ∃ node ∈ t.nodes, node.operator.id = operator.id := by
  refine v.forall_of_consumers (P := fun id => ∃ node ∈ t.nodes, node.operator.id = id) ?_ ?_
  · obtain ⟨node, hnode, hid⟩ := h.exists_sink hrealizes
    exact ⟨node, List.mem_of_getElem? hnode, hid⟩
  · rintro operator - ⟨node, hnode, hid⟩ p hp
    obtain ⟨k, hk⟩ := List.getElem?_of_mem hnode
    obtain ⟨slots, inputs, hworks⟩ := h.exists_works hrealizes hk
    rw [← hid, ← hworks.producers_eq] at hp
    obtain ⟨slot, hslot, rfl⟩ := List.mem_map.mp hp
    obtain ⟨_, -, below, hgiver, hbelow, -⟩ := exists_of_forall₂_left hworks.givers hslot
    exact ⟨below, List.mem_of_getElem? (nodes_placeOf hgiver), hbelow⟩

/-- Every node of a tree that runs a valid plan has the schema of its operator. -/
theorem Resembles.hasSchema (h : t.Resembles registry context physical)
    (hrealizes : physical.Realizes v.plan v.sink workers) (hsound : t.ledger.wiring.Sound)
    {k : Nat} {node : Node σ ω} (hk : t.nodes[k]? = some node) :
    v.HasSchema context.catalog.schemas node.operator.id node.schema := by
  induction k using Nat.strong_induction_on generalizing node with
  | _ k ih =>
    obtain ⟨slots, inputs, hworks⟩ := h.exists_works hrealizes hk
    exact hworks.hasSchema fun x hx below hbelow =>
      ih _ (placeOf_lt hsound hk hx) (nodes_placeOf hbelow)

/-- It is the schema that was inferred, if schemas were. -/
theorem Resembles.schema_eq (h : t.Resembles registry context physical)
    (hrealizes : physical.Realizes v.plan v.sink workers) (hsound : t.ledger.wiring.Sound)
    {schemas : List (OperatorId × Schema)}
    (hschemas : v.inferSchemas context.catalog.schemas = .ok schemas) {k : Nat} {node : Node σ ω}
    (hk : t.nodes[k]? = some node) : valueOf? node.operator.id schemas = some node.schema :=
  (ValidPlan.valueOf?_inferSchemas_iff hschemas).mpr (h.hasSchema hrealizes hsound hk)

end Tree

end Dataflow
