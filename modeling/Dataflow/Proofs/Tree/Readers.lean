import Dataflow.Pattern.Search
import Dataflow.Proofs.Tree.Census
import Dataflow.Proofs.Tree.Cleanup
import Dataflow.Proofs.Tree.Planned

/-!
# Who reads the endpoints of connectors

A connector records the consumers that it handed its endpoints to. While a tree is built, this
record lists the nodes that read the connector and the operators whose nodes are still to come. An
endpoint is handed out once and only if there is one, so that in the end, when as many were handed
out as there are, each of them was, to one reader each. -/

namespace Dataflow

open Act

variable {σ ω : Type} {registry : Registry σ ω} {context : Context} {plan : PhysicalPlan}

/-- The endpoint of a connector that an operator reads through a supply, if it does. -/
def Supply.readBy (reader : OperatorId) (c : ConnectorId) : Supply → Option (OperatorId × Nat)
  | .node _ => none
  | .endpoint d i => if d = c then some (reader, i) else none

/-- The endpoints of a connector that an operator reads through some supplies. -/
def readings (reader : OperatorId) (c : ConnectorId) (supplies : List Supply) :
    List (OperatorId × Nat) :=
  supplies.filterMap (Supply.readBy reader c)

/-- The endpoints of a connector that nodes read, each with the operator of the node. -/
def readersAmong (nodes : List (Node σ ω)) (c : ConnectorId) : List (OperatorId × Nat) :=
  nodes.flatMap fun node => readings node.operator.id c node.crew.supplies

/-- The endpoints of a connector that the nodes of a tree read, each with the operator of the
node. -/
def Tree.readers (t : Tree σ ω) (c : ConnectorId) : List (OperatorId × Nat) :=
  readersAmong t.nodes c

@[simp] lemma readings_nil (reader : OperatorId) (c : ConnectorId) : readings reader c [] = [] :=
  rfl

@[simp] lemma readings_node (reader : OperatorId) (c : ConnectorId) (place : Nat)
    (supplies : List Supply) :
    readings reader c (.node place :: supplies) = readings reader c supplies :=
  List.filterMap_cons_none rfl

lemma readings_cons (reader : OperatorId) (c : ConnectorId) (x : Supply)
    (supplies : List Supply) :
    readings reader c (x :: supplies) = readings reader c [x] ++ readings reader c supplies := by
  rw [readings, readings, readings, ← List.filterMap_append, List.singleton_append]

lemma readersAmong_concat (nodes : List (Node σ ω)) (node : Node σ ω) (c : ConnectorId) :
    readersAmong (nodes ++ [node]) c =
      readersAmong nodes c ++ readings node.operator.id c node.crew.supplies := by
  rw [readersAmong, List.flatMap_append, List.flatMap_singleton]
  rfl

lemma Connector.id_of_create {c : ConnectorId} {producer : OperatorId} {schema : Schema} {n : Nat}
    {con : Connector} (h : Connector.create c producer schema n = .ok con) : con.id = c := by
  rw [Connector.create] at h
  split_ifs at h
  cases h
  rfl

lemma Connector.id_of_take {con con' : Connector} {i : Nat} (h : con.take i = .ok con') :
    con'.id = con.id := by
  rw [Connector.take] at h
  split at h
  · cases h
  · split_ifs at h
    cases h
    rfl

namespace Scaffold

variable {s s' : Scaffold σ ω} {c : ConnectorId} {i : Nat}

/-- The consumers that a connector has on record, if it is there. -/
def recorded (s : Scaffold σ ω) (c : ConnectorId) : List (OperatorId × Nat) :=
  (s.junctions[c]?.join.map Junction.consumers).getD []

/-- The connectors have the nodes that read them on record, and besides only operators whose nodes
are still to come. -/
def Records (awaited : ConnectorId → List (OperatorId × Nat)) (s : Scaffold σ ω) : Prop :=
  ∀ c, (s.recorded c).Perm (readersAmong s.nodes c ++ awaited c)

variable {awaited : ConnectorId → List (OperatorId × Nat)}

lemma records_createNode {operator : Operator} {workers : Nat} {slots : List Slot}
    (hslots : ∀ slot ∈ slots, slot.exhausted = false)
    (h : Records (fun c => awaited c ++ readings operator.id c (slots.map Slot.supply)) s) :
    (createNode registry context operator workers slots).Gives s fun _ s' =>
      Records awaited s' := by
  refine gives_createNode fun schema crew _ hcrew c => ?_
  obtain ⟨hsupplies, -⟩ := createCrew_eq_ok hslots hcrew
  rw [readersAmong_concat, hsupplies, List.append_assoc]
  exact (h c).trans (List.perm_append_comm.append_left _)

/-- An operator that takes an endpoint is awaited. -/
lemma records_joinEndpoint (consumer : OperatorId) (h : Records awaited s) :
    (joinEndpoint c i consumer : Build σ ω Unit).Gives s fun _ s' =>
      Records (fun d => awaited d ++ readings consumer d [.endpoint c i]) s' := by
  refine gives_joinEndpoint fun junction connector hsome htake d => ?_
  have hlt := (List.getElem?_eq_some_iff.mp hsome).1
  rw [← List.append_assoc]
  by_cases hcd : c = d
  · subst hcd
    have hold : s.recorded c = junction.consumers := by
      rw [recorded, hsome]
      rfl
    have hread : readings consumer c [.endpoint c i] = [(consumer, i)] := by
      simp [readings, Supply.readBy]
    rw [recorded, List.getElem?_set_self hlt, hread]
    exact (hold ▸ h c).append_right _
  · have hread : readings consumer d [.endpoint c i] = [] := by simp [readings, Supply.readBy, hcd]
    rw [recorded, List.getElem?_set_ne hcd, hread, List.append_nil]
    exact h d

/-- A new connector has nothing on record, just as when it was missing. -/
lemma Records.addJunction {connector : Connector} {place : Nat} (h : Records awaited s)
    (hmissing : s.Missing c) :
    Records awaited { s with junctions := s.junctions.set c (some ⟨connector, place, []⟩) } := by
  intro d
  have hsame : recorded { s with junctions := s.junctions.set c (some ⟨connector, place, []⟩) } d =
      s.recorded d := by
    rw [recorded, recorded]
    by_cases hcd : c = d
    · subst hcd
      rw [Missing] at hmissing
      rw [List.getElem?_set_self (List.getElem?_eq_some_iff.mp hmissing).1, hmissing]
      rfl
    · rw [List.getElem?_set_ne hcd]
  rw [hsame]
  exact h d

mutual

lemma records_buildNode {connect : ConnectorId → Build σ ω Unit}
    (hconnect : ∀ awaited s c, Records awaited s →
      (connect c).Gives s fun _ s' => Records awaited s')
    (n : PhysicalNode) {awaited : ConnectorId → List (OperatorId × Nat)} {s : Scaffold σ ω}
    (h : Records awaited s) :
    (buildNode registry context connect n).Gives s fun _ s' => Records awaited s' := by
  match n with
  | .node operator workers inputs =>
    rw [buildNode, gives_bind]
    exact (records_buildInputs hconnect operator.id inputs h).mono
      fun slots s' ⟨hfresh, h'⟩ => records_createNode hfresh h'

/-- The consumer of some inputs is awaited for what they read. -/
lemma records_buildInputs {connect : ConnectorId → Build σ ω Unit}
    (hconnect : ∀ awaited s c, Records awaited s →
      (connect c).Gives s fun _ s' => Records awaited s')
    (consumer : OperatorId) (inputs : List PhysicalInput)
    {awaited : ConnectorId → List (OperatorId × Nat)} {s : Scaffold σ ω} (h : Records awaited s) :
    (buildInputs registry context connect consumer inputs).Gives s fun slots s' =>
      (∀ slot ∈ slots, slot.exhausted = false) ∧
        Records (fun c => awaited c ++ readings consumer c (slots.map Slot.supply)) s' := by
  match inputs with
  | [] =>
    rw [buildInputs]
    refine gives_pure.mpr ⟨fun _ => List.not_mem_nil.elim, fun c => ?_⟩
    simp only [List.map_nil, readings_nil, List.append_nil]
    exact h c
  | .direct link node :: inputs =>
    rw [buildInputs, gives_bind]
    refine (records_buildNode hconnect node h).mono fun place s' h' => gives_bind.mpr ?_
    refine (records_buildInputs hconnect consumer inputs h').mono fun slots s'' ⟨hfresh, h''⟩ => ?_
    refine gives_pure.mpr ⟨List.forall_mem_cons.mpr ⟨rfl, hfresh⟩, fun c => ?_⟩
    simp only [List.map_cons, readings_node]
    exact h'' c
  | .endpoint link d i :: inputs =>
    rw [buildInputs, gives_bind]
    refine (hconnect awaited s d h).mono fun _ s₁ h₁ => gives_bind.mpr ?_
    refine (records_joinEndpoint (c := d) (i := i) consumer h₁).mono
      fun _ s₂ h₂ => gives_bind.mpr ?_
    refine (records_buildInputs hconnect consumer inputs h₂).mono fun slots s₃ ⟨hfresh, h₃⟩ => ?_
    refine gives_pure.mpr ⟨List.forall_mem_cons.mpr ⟨rfl, hfresh⟩, fun c => ?_⟩
    simp only [List.map_cons]
    rw [readings_cons, ← List.append_assoc (awaited c)]
    exact h₃ c

end

lemma records_connect (depth : Nat) (h : Records awaited s) :
    (connect registry context plan depth c).Gives s fun _ s' => Records awaited s' := by
  induction depth generalizing awaited s c with
  | zero => exact gives_endless
  | succ depth ih =>
    refine gives_connectWith (fun _ _ => h) fun spec hmissing hspec => ?_
    refine ((records_buildNode (fun _ _ _ h => ih h) spec.producer h).and
      (missing_after_buildNode depth hmissing hspec)).mono fun place s' ⟨h', hmissing'⟩ => ?_
    exact fun connector _ => h'.addJunction hmissing'

/-- A connector is the one at a place of the plan: it has the endpoints that are planned there, is
fed by a node that runs the planned operator, and was asked for each of the endpoints on record
once. -/
structure Embodies (plan : PhysicalPlan) (nodes : List (Node σ ω)) (c : ConnectorId)
    (junction : Junction) : Prop where
  planned : ∃ spec, plan.connectors[c]? = some spec ∧
    junction.connector.producer = spec.producer.id ∧ junction.connector.size = spec.endpoints ∧
    nodes[junction.producer]?.map Node.operator = some spec.producer.operator
  id_eq : junction.connector.id = c
  nodup : (junction.consumers.map Prod.snd).Nodup
  handedOut : ∀ i ∈ junction.consumers.map Prod.snd, junction.connector.HandedOut i

/-- There is a place for each connector of the plan, and what is there is that connector. -/
structure Faithful (plan : PhysicalPlan) (s : Scaffold σ ω) : Prop where
  length_eq : s.junctions.length = plan.connectors.length
  embodies : ∀ (c : ConnectorId) junction, s.junctions[c]? = some (some junction) →
    Embodies plan s.nodes c junction

/-- A connector that is put in its place may be a new one or an old one that changed. -/
lemma Faithful.setJunction {junction : Junction} (h : Faithful plan s)
    (hjunction : Embodies plan s.nodes c junction) :
    Faithful plan { s with junctions := s.junctions.set c (some junction) } := by
  refine ⟨List.length_set.trans h.length_eq, fun d new hnew => ?_⟩
  by_cases hcd : c = d
  · subst hcd
    rw [List.getElem?_set, if_pos rfl] at hnew
    split_ifs at hnew
    cases hnew
    exact hjunction
  · rw [List.getElem?_set_ne hcd] at hnew
    exact h.embodies d new hnew

lemma Embodies.addNode {nodes : List (Node σ ω)} {junction : Junction}
    (h : Embodies plan nodes c junction) (node : Node σ ω) :
    Embodies plan (nodes ++ [node]) c junction := by
  obtain ⟨spec, hspec, hproducer, hsize, hnode⟩ := h.planned
  refine ⟨⟨spec, hspec, hproducer, hsize, ?_⟩, h.id_eq, h.nodup, h.handedOut⟩
  obtain ⟨node', hnode', hoperator⟩ := Option.map_eq_some_iff.mp hnode
  have hstays := getElem?_of_prefix (List.prefix_append nodes [node]) hnode'
  rw [hstays, Option.map_some, hoperator]

/-- An endpoint that is handed out goes on record. -/
lemma Embodies.take {nodes : List (Node σ ω)} {junction : Junction} {connector : Connector}
    {consumer : OperatorId} (h : Embodies plan nodes c junction)
    (htake : junction.connector.take i = .ok connector) :
    Embodies plan nodes c
      ⟨connector, junction.producer, junction.consumers ++ [(consumer, i)]⟩ := by
  have htakes := Connector.takes_of_take htake
  obtain ⟨hproducer, -⟩ := Connector.parts_of_take htake
  obtain ⟨spec, hspec, hspecProducer, hsize, hnode⟩ := h.planned
  refine ⟨⟨spec, hspec, hproducer.trans hspecProducer, htakes.length_eq.trans hsize, hnode⟩,
    (Connector.id_of_take htake).trans h.id_eq, ?_, ?_⟩
  · rw [List.map_append, List.nodup_append']
    refine ⟨h.nodup, List.nodup_singleton _, fun j hj hi => ?_⟩
    rw [List.mem_singleton.mp hi] at hj
    exact htakes.not_handedOut (h.handedOut _ hj)
  · rw [List.map_append, List.forall_mem_append]
    refine ⟨fun j hj => (htakes.handedOut_iff j).mpr (.inr (h.handedOut j hj)), fun j hj => ?_⟩
    exact (htakes.handedOut_iff j).mpr (.inl (List.mem_singleton.mp hj))

lemma runs_buildNode {connect : ConnectorId → Build σ ω Unit} (n : PhysicalNode) :
    (buildNode registry context connect n).Gives s fun place s' =>
      s'.nodes[place]?.map Node.operator = some n.operator := by
  match n with
  | .node operator workers inputs =>
    rw [buildNode, gives_bind]
    refine gives_iff.mpr fun slots s' _ => ?_
    exact gives_createNode fun schema crew _ _ => by
      simp [PhysicalNode.operator]

/-- Building keeps the connectors as planned, if building further ones does. -/
lemma along_faithful {connect : ConnectorId → Build σ ω Unit}
    (hconnect : ∀ s c, Faithful plan s → (connect c).Gives s fun _ s' => Faithful plan s') :
    Along registry context connect (fun _ => True) (fun _ => True) fun _ s => Faithful plan s where
  connect := fun _ s c _ h => (hconnect s c h).mono fun _ _ h' => ⟨trivial, h'⟩
  join := fun _ _ c _ _ _ h => gives_joinEndpoint fun junction _ hsome htake =>
    h.setJunction ((h.embodies c junction hsome).take htake)
  create := fun _ _ _ _ _ _ h => gives_createNode fun _ _ _ _ =>
    ⟨h.length_eq, fun c junction hjunction => (h.embodies c junction hjunction).addNode _⟩

lemma faithful_connect (depth : Nat) (h : Faithful plan s) :
    (connect registry context plan depth c).Gives s fun _ s' => Faithful plan s' := by
  induction depth generalizing s c with
  | zero => exact gives_endless
  | succ depth ih =>
    refine gives_connectWith (fun _ _ => h) fun spec hmissing hspec => ?_
    have halong := (along_faithful fun _ _ h => ih h :
      Along registry context (connect registry context plan depth) _ _ _)
    refine ((halong.gives_buildNode (l := []) (fun _ _ => trivial) h).and
      (runs_buildNode spec.producer)).mono ?_
    rintro place s' ⟨⟨-, h'⟩, hplace⟩ connector hcreate
    obtain ⟨hproducer, -, hlength⟩ := Connector.parts_of_create hcreate
    exact h'.setJunction ⟨⟨spec, hspec, hproducer, hlength, hplace⟩,
      Connector.id_of_create hcreate, List.nodup_nil, fun _ => List.not_mem_nil.elim⟩

end Scaffold

open Scaffold

/-- When as many endpoints of a connector are on record as it has, each of them is, once. -/
lemma Scaffold.Embodies.perm_range {nodes : List (Node σ ω)} {c : ConnectorId} {junction : Junction}
    (h : Embodies plan nodes c junction)
    (hlength : junction.consumers.length = junction.connector.size) :
    (junction.consumers.map Prod.snd).Perm (List.range junction.connector.size) := by
  have hsubset : junction.consumers.map Prod.snd ⊆ List.range junction.connector.size := by
    intro i hi
    obtain ⟨e, he, -⟩ := h.handedOut i hi
    exact List.mem_range.mpr (List.getElem?_eq_some_iff.mp he).1
  refine (h.nodup.subperm hsubset).perm_of_length_le ?_
  rw [List.length_range, List.length_map, hlength]

/-- In a tree that was built, every node of the plan has become one node, so that no connector was
built more than once. Each connector of the plan is there, fed by the node of its producer, and has
on record who reads it: its endpoints are read by one node each, whatever is done to the tree. -/
theorem PhysicalPlan.endpoints_handed_out [Source σ] [Worker ω] {clock : Nat → Nat} {t : Tree σ ω}
    (h : plan.tree? registry context clock = some (.ok t)) :
    (t.nodes.map Node.operator).Perm (plan.nodes.map PhysicalNode.operator) ∧
    t.junctions.length = plan.connectors.length ∧
    ∀ (c : ConnectorId) spec, plan.connectors[c]? = some spec →
      ∃ junction, t.junctions[c]? = some junction ∧ junction.connector.id = c ∧
        junction.connector.producer = spec.producer.id ∧
        t.nodes[junction.producer]?.map Node.operator = some spec.producer.operator ∧
        junction.connector.size = spec.endpoints ∧
        (junction.consumers.map Prod.snd).Perm (List.range spec.endpoints) ∧
        junction.consumers.Perm (t.readers c) ∧
        ∀ ops t', t.Runs ops t' → ∀ i < spec.endpoints,
          ∃! k, .endpoint c i ∈ t'.ledger.wiring.suppliesOf k := by
  have hstart : Faithful plan (⟨[], plan.connectors.map fun _ => none⟩ : Scaffold σ ω) := by
    refine ⟨List.length_map _, fun c junction hjunction => ?_⟩
    rw [List.getElem?_map] at hjunction
    cases hspec : plan.connectors[c]? <;> rw [hspec] at hjunction <;> cases hjunction
  have hblank : Records (fun _ => [])
      (⟨[], plan.connectors.map fun _ => none⟩ : Scaffold σ ω) := by
    intro c
    rw [recorded, List.getElem?_map]
    cases plan.connectors[c]? <;> exact .refl _
  have halong := (along_faithful fun _ _ h => faithful_connect _ h : Along registry context
    (connect registry context plan (2 * plan.connectors.length + 1)) _ _ fun _ => Faithful plan)
  obtain ⟨s, ⟨⟨-, hfaithful⟩, hrecords⟩, hjunctions, hlength, heq⟩ := exists_of_tree? h
    ((halong.gives_buildNode (l := []) (fun _ _ => trivial) hstart).and
      (records_buildNode (fun _ _ _ h => records_connect _ h) plan.root hblank))
  have hnodes : s.nodes = t.nodes := by rw [heq]
  have hsize : t.junctions.length = plan.connectors.length := by
    rw [← hfaithful.length_eq, hjunctions, List.length_map]
  refine ⟨operators_perm_of_tree? h, hsize, fun c spec hspec => ?_⟩
  obtain ⟨junction, hjunction⟩ : ∃ junction, t.junctions[c]? = some junction :=
    ⟨_, List.getElem?_eq_getElem (hsize ▸ (List.getElem?_eq_some_iff.mp hspec).1)⟩
  have hthere : s.junctions[c]? = some (some junction) := by
    rw [hjunctions, List.getElem?_map, hjunction, Option.map_some]
  have hembodies := hfaithful.embodies c junction hthere
  obtain ⟨spec', hspec', hproducer, hendpoints, hnode⟩ := hembodies.planned
  obtain rfl : spec = spec' := Option.some.inj (hspec.symm.trans hspec')
  have hperm := hembodies.perm_range (hlength junction (List.mem_of_getElem? hjunction))
  have hrecord : junction.consumers.Perm (readersAmong s.nodes c) := by
    have hc := hrecords c
    rwa [List.append_nil, recorded, hthere] at hc
  refine ⟨junction, hjunction, hembodies.id_eq, hproducer, hnodes ▸ hnode, hendpoints, ?_, ?_,
    fun ops t' hrun i hi => ?_⟩
  · rwa [hendpoints] at hperm
  · rwa [hnodes] at hrecord
  · have hfresh := fresh_of_tree? h
    rw [(hrun.advances hfresh.orderly).1.wiring_eq]
    have hjoint : t.ledger.wiring.joints[c]? =
        some (junction.producer, junction.connector.phases.length) := by
      simp [Tree.ledger, Ledger.wiring, hjunction, Junction.entry]
    have hphases : i < junction.connector.phases.length := by
      rw [Connector.phases, List.length_map]
      exact hi.trans_eq hendpoints.symm
    obtain ⟨k, hk, -⟩ := hfresh.sound.exists_consumer hjoint hphases
    exact ⟨k, hk, fun k' hk' => hfresh.sound.eq_of_mem_suppliesOf hk' hk⟩

/-- Pages that are joined with themselves: the join reads the endpoints of the first connector the
other way round, and the producer of that one reads the only endpoint of the second. What the plan
calls its connectors is not their places. -/
def handWritten : PhysicalPlan where
  root := .node ⟨"sink", .tupleSink⟩ 1 [.direct ⟨"pairs", "sink"⟩
    (.node ⟨"pairs", .join "page" "page" 1⟩ 2
      [.endpoint ⟨"pages", "pairs"⟩ 0 1, .endpoint ⟨"again", "pairs"⟩ 0 0])]
  connectors := [
    ⟨7, .node ⟨"pages", .projection ["page"]⟩ 3 [.endpoint ⟨"scan", "pages"⟩ 1 0], 2⟩,
    ⟨7, .node ⟨"scan", .scanSource "docs"⟩ 1 [], 1⟩]

/-- Its tree has one node for each of its four operators, and a reader for each endpoint. -/
theorem handWritten_endpoints_handed_out : ∃ t,
    handWritten.tree? (Registry.standard Pattern.engine) noDocs (fun _ => 0) = some (.ok t) ∧
    (t.nodes.map Node.operator).Perm [⟨"sink", .tupleSink⟩, ⟨"pairs", .join "page" "page" 1⟩,
      ⟨"pages", .projection ["page"]⟩, ⟨"scan", .scanSource "docs"⟩] ∧
    (∃ junction, t.junctions[0]? = some junction ∧ junction.consumers.Perm (t.readers 0) ∧
      (junction.consumers.map Prod.snd).Perm [0, 1]) ∧
    ∃ junction, t.junctions[1]? = some junction ∧ junction.consumers.Perm (t.readers 1) ∧
      (junction.consumers.map Prod.snd).Perm [0] := by
  have hbuilt : ((handWritten.tree? (Registry.standard Pattern.engine) noDocs fun _ => 0).bind
      Except.toOption).isSome = true := by
    decide +kernel
  obtain ⟨t, htree⟩ := Option.isSome_iff_exists.mp hbuilt
  simp only [Option.bind_eq_some_iff, toOption_eq_some_iff] at htree
  obtain ⟨_, htree, rfl⟩ := htree
  obtain ⟨hoperators, -, hjunctions⟩ := PhysicalPlan.endpoints_handed_out htree
  obtain ⟨first, hfirst, -, -, -, -, hrange, hreaders, -⟩ := hjunctions 0 _ rfl
  obtain ⟨second, hsecond, -, -, -, -, hrange', hreaders', -⟩ := hjunctions 1 _ rfl
  exact ⟨t, htree, hoperators, ⟨first, hfirst, hreaders, hrange⟩, second, hsecond, hreaders',
    hrange'⟩

end Dataflow
