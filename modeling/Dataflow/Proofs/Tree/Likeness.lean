import Dataflow.Proofs.Plan.Layout
import Dataflow.Proofs.Tree.Account

/-!
# Built trees resemble their plans

Each node of a tree runs an operator of the plan, with a crew made for it, and is fed by nodes that
run the producers of its links, in the order of the links.
-/

namespace Dataflow

open Act

variable {σ ω : Type}

/-- The tuples of an input come from the producer of its link. -/
def PhysicalInput.Linked (plan : PhysicalPlan) : PhysicalInput → Prop
  | .direct link node => node.id = link.producer
  | .endpoint link c _ =>
    ∃ spec, plan.connectors[c]? = some spec ∧ spec.producer.id = link.producer

/-- All inputs of a plan are linked. -/
def PhysicalPlan.Linked (plan : PhysicalPlan) : Prop :=
  ∀ n ∈ plan.nodes, ∀ input ∈ n.inputs, input.Linked plan

/-- A node runs a physical node: it is fed by the producers of the links, from which its schema and
its crew follow. The function gives the node whose tuples a supply gives. -/
def Node.Runs (registry : Registry σ ω) (context : Context) (giver? : Supply → Option (Node σ ω))
    (n : PhysicalNode) (node : Node σ ω) : Prop :=
  node.operator = n.operator ∧ ∃ (slots : List Slot) (inputs : List Schema),
    slots.map Slot.link = n.inputs.map PhysicalInput.link ∧
    (∀ slot ∈ slots, slot.exhausted = false) ∧
    List.Forall₂ (fun slot schema => ∃ below, giver? slot.supply = some below ∧
      below.operator.id = slot.link.producer ∧ below.schema = schema) slots inputs ∧
    n.operator.outputSchema context.catalog.schemas inputs = .ok node.schema ∧
    Scaffold.createCrew registry context n.operator n.workers slots inputs node.schema =
      .ok node.crew

lemma Node.Runs.mono {registry : Registry σ ω} {context : Context}
    {giver? giver?' : Supply → Option (Node σ ω)} {n : PhysicalNode} {node : Node σ ω}
    (h : node.Runs registry context giver? n)
    (hmore : ∀ x below, giver? x = some below → giver?' x = some below) :
    node.Runs registry context giver?' n := by
  obtain ⟨hoperator, slots, inputs, hlinks, hfresh, hgivers, hschema, hcrew⟩ := h
  refine ⟨hoperator, slots, inputs, hlinks, hfresh, hgivers.imp ?_, hschema, hcrew⟩
  rintro slot schema ⟨below, hbelow, hid, heq⟩
  exact ⟨below, hmore _ below hbelow, hid, heq⟩

namespace Scaffold

variable {registry : Registry σ ω} {context : Context} {plan : PhysicalPlan}
  {s s' s'' : Scaffold σ ω}

/-- The node whose tuples a supply gives. -/
def giver? (s : Scaffold σ ω) : Supply → Option (Node σ ω)
  | .node k => s.nodes[k]?
  | .endpoint c _ => s.junctions[c]?.join.bind fun junction => s.nodes[junction.producer]?

/-- Nodes and connectors were added, and endpoints were handed out. -/
structure Extends (s s' : Scaffold σ ω) : Prop where
  nodes : s.nodes <+: s'.nodes
  junctions : ∀ (c : ConnectorId) junction, s.junctions[c]? = some (some junction) →
    ∃ junction', s'.junctions[c]? = some (some junction') ∧
      junction'.producer = junction.producer ∧
      junction'.connector.schema = junction.connector.schema

/-- What was built so far resembles a plan. -/
structure Resembles (registry : Registry σ ω) (context : Context) (plan : PhysicalPlan)
    (s : Scaffold σ ω) : Prop where
  nodes : ∀ (k : Nat) node, s.nodes[k]? = some node →
    ∃ n ∈ plan.nodes, node.Runs registry context s.giver? n
  junctions : ∀ (c : ConnectorId) junction, s.junctions[c]? = some (some junction) →
    ∃ node spec, s.nodes[junction.producer]? = some node ∧ plan.connectors[c]? = some spec ∧
      node.operator = spec.producer.operator ∧ junction.connector.schema = node.schema

lemma Extends.refl : s.Extends s :=
  ⟨List.prefix_rfl, fun _ junction hc => ⟨junction, hc, rfl, rfl⟩⟩

lemma Extends.trans (h : s.Extends s') (h' : s'.Extends s'') : s.Extends s'' where
  nodes := h.nodes.trans h'.nodes
  junctions := by
    intro c junction hc
    obtain ⟨junction', hc', hproducer, hschema⟩ := h.junctions c junction hc
    obtain ⟨junction'', hc'', hproducer', hschema'⟩ := h'.junctions c junction' hc'
    exact ⟨junction'', hc'', hproducer'.trans hproducer, hschema'.trans hschema⟩

lemma Extends.giver? (h : s.Extends s') {x : Supply} {node : Node σ ω}
    (hx : s.giver? x = some node) : s'.giver? x = some node := by
  match x with
  | .node k => exact getElem?_of_prefix h.nodes hx
  | .endpoint c i =>
    obtain ⟨junction, hc, hnode⟩ := Option.bind_eq_some_iff.mp hx
    obtain ⟨junction', hc', hproducer, -⟩ := h.junctions c junction (Option.join_eq_some_iff.mp hc)
    refine Option.bind_eq_some_iff.mpr ⟨junction', Option.join_eq_some_iff.mpr hc', ?_⟩
    rw [hproducer]
    exact getElem?_of_prefix h.nodes hnode

/-- A supply is seen with the schema of the node whose tuples it gives. -/
lemma Resembles.seen_eq (h : Resembles registry context plan s) {x : Supply} {node : Node σ ω}
    (hx : s.giver? x = some node) : s.seen x = node.schema := by
  match x with
  | .node k =>
    have hk : s.nodes[k]? = some node := hx
    rw [seen, hk, Option.map_some, Option.getD_some]
  | .endpoint c i =>
    obtain ⟨junction, hc, hnode⟩ := Option.bind_eq_some_iff.mp hx
    obtain ⟨node', spec, hnode', -, -, hschema⟩ :=
      h.junctions c junction (Option.join_eq_some_iff.mp hc)
    rw [hnode] at hnode'
    cases hnode'
    rw [seen, hc, Option.map_some, Option.getD_some, hschema]

lemma resembles_start :
    Resembles registry context plan ⟨[], plan.connectors.map fun _ => none⟩ := by
  refine ⟨fun k node hk => ?_, fun c junction hc => ?_⟩
  · simp at hk
  · obtain ⟨_, -, heq⟩ := List.mem_map.mp (List.mem_of_getElem? hc)
    cases heq

/-- An endpoint that is taken gives the tuples of the producer of its connector. -/
lemma resembles_joinEndpoint {c : ConnectorId} {i : Nat} {consumer : OperatorId}
    (h : Resembles registry context plan s) :
    (joinEndpoint c i consumer : Build σ ω Unit).Gives s fun _ s' =>
      Resembles registry context plan s' ∧ s.Extends s' ∧
        ∃ node spec, s'.giver? (.endpoint c i) = some node ∧ plan.connectors[c]? = some spec ∧
          node.operator = spec.producer.operator := by
  refine gives_joinEndpoint fun junction connector hsome htake => ?_
  have hschema : connector.schema = junction.connector.schema := by
    rw [Connector.take] at htake
    split at htake
    · cases htake
    · split_ifs at htake
      cases htake
      rfl
  have hlt := (List.getElem?_eq_some_iff.mp hsome).1
  have hextends : s.Extends { s with junctions := s.junctions.set c (some
      ⟨connector, junction.producer, junction.consumers ++ [(consumer, i)]⟩) } := by
    refine ⟨List.prefix_rfl, fun d old hd => ?_⟩
    by_cases hcd : c = d
    · subst hcd
      rw [hsome] at hd
      cases hd
      exact ⟨_, List.getElem?_set_self hlt, rfl, hschema⟩
    · exact ⟨old, (List.getElem?_set_ne hcd).trans hd, rfl, rfl⟩
  obtain ⟨node, spec, hnode, hspec, hoperator, hold⟩ := h.junctions c junction hsome
  refine ⟨⟨fun k node hk => ?_, fun d new hd => ?_⟩, hextends, node, spec, ?_, hspec, hoperator⟩
  · obtain ⟨n, hn, hruns⟩ := h.nodes k node hk
    exact ⟨n, hn, hruns.mono fun _ _ => hextends.giver?⟩
  · by_cases hcd : c = d
    · subst hcd
      rw [List.getElem?_set_self hlt] at hd
      cases hd
      exact ⟨node, spec, hnode, hspec, hoperator, hschema.trans hold⟩
    · exact h.junctions d new ((List.getElem?_set_ne hcd).symm.trans hd)
  · exact hextends.giver? (Option.bind_eq_some_iff.mpr
      ⟨junction, Option.join_eq_some_iff.mpr hsome, hnode⟩)

/-- A node is added for a physical node, behind what feeds it. -/
lemma resembles_createNode {n : PhysicalNode} {slots : List Slot}
    (h : Resembles registry context plan s) (hn : n ∈ plan.nodes)
    (hlinks : slots.map Slot.link = n.inputs.map PhysicalInput.link)
    (hslots : ∀ slot ∈ slots, slot.exhausted = false ∧
      ∃ below, s.giver? slot.supply = some below ∧ below.operator.id = slot.link.producer) :
    (createNode registry context n.operator n.workers slots).Gives s fun place s' =>
      Resembles registry context plan s' ∧ s.Extends s' ∧
        ∃ node, s'.nodes[place]? = some node ∧ node.operator = n.operator := by
  refine gives_createNode fun schema crew hschema hcrew => ?_
  have hextends : s.Extends
      { s with nodes := s.nodes ++ [⟨n.operator, schema, .unopened, crew⟩] } :=
    ⟨List.prefix_append .., fun c junction hc => ⟨junction, hc, rfl, rfl⟩⟩
  refine ⟨⟨fun k node hk => ?_, fun c junction hc => ?_⟩, hextends, _, List.getElem?_concat_length,
    rfl⟩
  · rcases getElem?_concat_eq_some_iff.mp hk with hold | ⟨rfl, rfl⟩
    · obtain ⟨n', hn', hruns⟩ := h.nodes k node hold
      exact ⟨n', hn', hruns.mono fun _ _ => hextends.giver?⟩
    · refine ⟨n, hn, rfl, slots, _, hlinks, fun slot hslot => (hslots slot hslot).1, ?_, hschema,
        hcrew⟩
      rw [List.forall₂_map_right_iff, List.forall₂_same]
      intro slot hslot
      obtain ⟨-, below, hbelow, hid⟩ := hslots slot hslot
      exact ⟨below, hextends.giver? hbelow, hid, (h.seen_eq hbelow).symm⟩
  · obtain ⟨node, spec, hnode, hspec, hrest⟩ := h.junctions c junction hc
    exact ⟨node, spec, getElem?_of_prefix hextends.nodes hnode, hspec, hrest⟩

mutual

lemma resembles_buildNode {connect : ConnectorId → Build σ ω Unit}
    (hconnect : ∀ s c, Resembles registry context plan s → (connect c).Gives s fun _ s' =>
      Resembles registry context plan s' ∧ s.Extends s') (hlinked : plan.Linked)
    {n : PhysicalNode} {s : Scaffold σ ω} (hn : ∀ m ∈ n.all, m ∈ plan.nodes)
    (h : Resembles registry context plan s) :
    (buildNode registry context connect n).Gives s fun place s' =>
      Resembles registry context plan s' ∧ s.Extends s' ∧
        ∃ node, s'.nodes[place]? = some node ∧ node.operator = n.operator := by
  match n with
  | .node operator workers inputs =>
    rw [PhysicalNode.all_eq, List.forall_mem_cons] at hn
    rw [buildNode, gives_bind]
    refine (resembles_buildInputs hconnect hlinked operator.id hn.2 (hlinked _ hn.1) h).mono
      fun slots s' h' => ?_
    obtain ⟨h', hextends, hlinks, hslots⟩ := h'
    refine (resembles_createNode (n := .node operator workers inputs) h' hn.1 hlinks hslots).mono ?_
    rintro place s'' ⟨h'', hextends', hnode⟩
    exact ⟨h'', hextends.trans hextends', hnode⟩

lemma resembles_buildInputs {connect : ConnectorId → Build σ ω Unit}
    (hconnect : ∀ s c, Resembles registry context plan s → (connect c).Gives s fun _ s' =>
      Resembles registry context plan s' ∧ s.Extends s') (hlinked : plan.Linked)
    (consumer : OperatorId) {inputs : List PhysicalInput} {s : Scaffold σ ω}
    (hn : ∀ m ∈ PhysicalInput.allOf inputs, m ∈ plan.nodes)
    (hinputs : ∀ input ∈ inputs, input.Linked plan) (h : Resembles registry context plan s) :
    (buildInputs registry context connect consumer inputs).Gives s fun slots s' =>
      Resembles registry context plan s' ∧ s.Extends s' ∧
        slots.map Slot.link = inputs.map PhysicalInput.link ∧
        ∀ slot ∈ slots, slot.exhausted = false ∧
          ∃ below, s'.giver? slot.supply = some below ∧ below.operator.id = slot.link.producer := by
  match inputs with
  | [] =>
    rw [buildInputs]
    exact gives_pure.mpr ⟨h, .refl, rfl, fun _ => List.not_mem_nil.elim⟩
  | .direct link m :: inputs =>
    obtain ⟨hid, hrest⟩ := List.forall_mem_cons.mp hinputs
    rw [PhysicalInput.allOf, List.forall_mem_append] at hn
    rw [buildInputs, gives_bind]
    refine (resembles_buildNode hconnect hlinked hn.1 h).mono fun place s' h' => ?_
    obtain ⟨h', hextends, node, hnode, hoperator⟩ := h'
    rw [gives_bind]
    refine (resembles_buildInputs hconnect hlinked consumer hn.2 hrest h').mono
      fun slots s'' h'' => ?_
    obtain ⟨h'', hextends', hlinks, hslots⟩ := h''
    refine gives_pure.mpr ⟨h'', hextends.trans hextends', by simp [hlinks],
      List.forall_mem_cons.mpr ⟨⟨rfl, node, ?_, ?_⟩, hslots⟩⟩
    · exact hextends'.giver? (x := .node place) hnode
    · rw [hoperator]
      exact hid
  | .endpoint link c i :: inputs =>
    obtain ⟨⟨spec, hspec, hid⟩, hrest⟩ := List.forall_mem_cons.mp hinputs
    rw [PhysicalInput.allOf] at hn
    rw [buildInputs, gives_bind]
    refine (hconnect s c h).mono fun _ s₁ h₁ => ?_
    obtain ⟨h₁, hextends⟩ := h₁
    rw [gives_bind]
    refine (resembles_joinEndpoint h₁).mono fun _ s' h' => ?_
    obtain ⟨h', hextends', node, spec', hnode, hspec', hoperator⟩ := h'
    rw [hspec] at hspec'
    cases hspec'
    rw [gives_bind]
    refine (resembles_buildInputs hconnect hlinked consumer hn hrest h').mono
      fun slots s'' h'' => ?_
    obtain ⟨h'', hextends'', hlinks, hslots⟩ := h''
    refine gives_pure.mpr ⟨h'', (hextends.trans hextends').trans hextends'', by simp [hlinks],
      List.forall_mem_cons.mpr ⟨⟨rfl, node, hextends''.giver? hnode, ?_⟩, hslots⟩⟩
    rw [hoperator]
    exact hid

end

lemma resembles_connect (hlinked : plan.Linked) (depth : Nat) {c : ConnectorId}
    (h : Resembles registry context plan s) :
    (connect registry context plan depth c).Gives s fun _ s' =>
      Resembles registry context plan s' ∧ s.Extends s' := by
  induction depth generalizing c s with
  | zero => exact gives_endless
  | succ depth ih =>
    refine gives_connectWith (fun _ _ => ⟨h, .refl⟩) fun spec hmissing hspec => ?_
    have hnodes : ∀ m ∈ spec.producer.all, m ∈ plan.nodes := fun m hm =>
      List.mem_append_right _ (List.mem_flatMap.mpr ⟨spec, List.mem_of_getElem? hspec, hm⟩)
    refine ((resembles_buildNode (fun s c h => ih (s := s) (c := c) h) hlinked hnodes h).and
      (missing_after_buildNode depth hmissing hspec)).mono fun place s' h' => ?_
    obtain ⟨⟨h', hextends, node, hnode, hoperator⟩, hmissing'⟩ := h'
    intro connector hcreate
    have hlt := (List.getElem?_eq_some_iff.mp hmissing').1
    have hextends' : s'.Extends
        { s' with junctions := s'.junctions.set c (some ⟨connector, place, []⟩) } := by
      refine ⟨List.prefix_rfl, fun d old hd => ?_⟩
      have hcd : c ≠ d := by
        rintro rfl
        rw [hmissing'] at hd
        cases hd
      exact ⟨old, (List.getElem?_set_ne hcd).trans hd, rfl, rfl⟩
    refine ⟨⟨fun k node hk => ?_, fun d new hd => ?_⟩, hextends.trans hextends'⟩
    · obtain ⟨n, hn, hruns⟩ := h'.nodes k node hk
      exact ⟨n, hn, hruns.mono fun _ _ => hextends'.giver?⟩
    · by_cases hcd : c = d
      · subst hcd
        rw [List.getElem?_set_self hlt] at hd
        cases hd
        refine ⟨node, spec, hnode, hspec, hoperator, ?_⟩
        rw [Connector.create] at hcreate
        split_ifs at hcreate
        cases hcreate
        exact h'.seen_eq (x := .node place) hnode
      · exact h'.junctions d new ((List.getElem?_set_ne hcd).symm.trans hd)

end Scaffold

/-- The node whose tuples a supply gives. -/
def Tree.giver? (t : Tree σ ω) : Supply → Option (Node σ ω)
  | .node k => t.nodes[k]?
  | .endpoint c _ => t.junctions[c]?.bind fun junction => t.nodes[junction.producer]?

/-- A tree runs a plan: every node runs a node of the plan, and the root that of the sink. -/
structure Tree.Resembles (registry : Registry σ ω) (context : Context) (plan : PhysicalPlan)
    (t : Tree σ ω) : Prop where
  nodes : ∀ (k : Nat) node, t.nodes[k]? = some node →
    ∃ n ∈ plan.nodes, node.Runs registry context t.giver? n
  root : ∃ node, t.nodes[t.root]? = some node ∧ node.operator = plan.root.operator

open Scaffold

theorem PhysicalPlan.resembles_of_tree? {plan : PhysicalPlan} {registry : Registry σ ω}
    {context : Context} {clock : Nat → Nat} {t : Tree σ ω} (hlinked : plan.Linked)
    (h : plan.tree? registry context clock = some (.ok t)) :
    t.Resembles registry context plan := by
  obtain ⟨s, ⟨hresembles, -, hroot⟩, hjunctions, -, heq⟩ := exists_of_tree? h
    (resembles_buildNode (fun s c h => resembles_connect hlinked _ h) hlinked
      (fun m hm => List.mem_append_left _ hm) resembles_start)
  have hnodes : s.nodes = t.nodes := by rw [heq]
  refine ⟨fun k node hk => ?_, hnodes ▸ hroot⟩
  obtain ⟨n, hn, hruns⟩ := hresembles.nodes k node (hnodes ▸ hk)
  refine ⟨n, hn, hruns.mono fun x below hx => ?_⟩
  match x with
  | .node k =>
    change t.nodes[k]? = some below
    exact hnodes ▸ hx
  | .endpoint c i =>
    obtain ⟨junction, hc, hnode⟩ := Option.bind_eq_some_iff.mp hx
    rw [hjunctions, Option.join_eq_some_iff, List.getElem?_map] at hc
    obtain ⟨_, hc, heq⟩ := Option.map_eq_some_iff.mp hc
    cases heq
    exact Option.bind_eq_some_iff.mpr ⟨junction, hc, hnodes ▸ hnode⟩

end Dataflow
