import Dataflow.Proofs.Plan.Physical
import Dataflow.Proofs.Wire.Plan

/-!
# Physical plans that are written and read

A physical plan is read back from its text exactly if the text does not nest too deeply; a deeper
text is refused. A node that stands directly under another one is written four levels below it. So
plans survive as long as not too many operators stand under one another without a connector between
them.
-/

namespace Dataflow

lemma PhysicalInput.allToJson_eq_map (inputs : List PhysicalInput) :
    allToJson inputs = inputs.map toJson := by
  induction inputs with
  | nil => simp [allToJson]
  | cons input inputs ih => simp [allToJson, ih]

lemma PhysicalInput.allOfJson?_eq (room : Nat) (j : Json) :
    allOfJson? room j = Json.items? ofJson? room j := by
  cases room <;> cases j <;> rfl

/-- The numbers of a node and of its inputs are those of a machine word, and its operator reads
back. -/
structure PhysicalNode.Portable (n : PhysicalNode) : Prop where
  kind : n.operator.kind.Portable
  workers_lt : n.workers < 2 ^ 64
  place_lt : ∀ link c i, .endpoint link c i ∈ n.inputs → c < 2 ^ 64 ∧ i < 2 ^ 64

lemma endpoint_depth (c i : Nat) :
    (Json.object [("connector", .nat c), ("index", .nat i)]).depth = 1 :=
  rfl

lemma endpoint_reads {c i : Nat} (hc : c < 2 ^ 64) (hi : i < 2 ^ 64) : Decoder.Reads endpointOfJson?
    (.object [("connector", .nat c), ("index", .nat i)]) (c, i) := by
  intro room
  rw [endpoint_depth]
  cases room with
  | zero => rfl
  | succ room =>
    have hrecord := Json.record?_object [("connector", .nat c), ("index", .nat i)] (by simp) room
    rw [if_pos (by omega), endpointOfJson?]
    simp only [List.map_cons, List.map_nil] at hrecord
    simp only [hrecord, Json.required?, Option.bind_some, Json.word?_nat hc, Json.word?_nat hi]
    rfl

lemma PhysicalInput.reads_endpoint (link : Link) {c i : Nat} (hc : c < 2 ^ 64) (hi : i < 2 ^ 64) :
    Decoder.Reads ofJson? (endpoint link c i).toJson (.endpoint link c i) := by
  intro room
  rw [toJson]
  match room with
  | 0 => rfl
  | 1 => simp [ofJson?, ofTagged?, Json.depth, Json.membersDepth]
  | room + 2 =>
    have hrecord := Json.record?_object [("link", link.toJson),
      ("endpoint", .object [("connector", .nat c), ("index", .nat i)])] (by simp) room
    simp only [List.map_cons, List.map_nil] at hrecord
    rw [ofJson?, ofTagged?]
    simp only [hrecord, Json.required?, Option.bind_some, link.reads room,
      endpoint_reads hc hi room, Json.depth_object_le_iff, List.forall_mem_cons]
    by_cases hlink : link.toJson.depth ≤ room <;>
      by_cases hplace : (Json.object [("connector", .nat c), ("index", .nat i)]).depth ≤ room <;>
      simp [hlink, hplace]

lemma PhysicalInput.reads_direct (link : Link) {n : PhysicalNode}
    (h : Decoder.Reads PhysicalNode.ofJson? n.toJson n) :
    Decoder.Reads ofJson? (direct link n).toJson (.direct link n) := by
  intro room
  rw [toJson]
  match room with
  | 0 => rfl
  | 1 => simp [ofJson?, ofTagged?, Json.depth, Json.membersDepth]
  | room + 2 =>
    have hrecord := Json.record?_object [("link", link.toJson), ("node", n.toJson)] (by simp) room
    simp only [List.map_cons, List.map_nil] at hrecord
    rw [ofJson?, ofTagged?]
    simp only [hrecord, Json.required?, Option.bind_some, link.reads room, h room,
      Json.depth_object_le_iff, List.forall_mem_cons]
    by_cases hlink : link.toJson.depth ≤ room <;> by_cases hnode : n.toJson.depth ≤ room <;>
      simp [hlink, hnode]

mutual

/-- A node is read back, wherever as many levels are left as it has. -/
lemma PhysicalNode.reads {n : PhysicalNode} (h : ∀ m ∈ n.all, m.Portable) :
    Decoder.Reads PhysicalNode.ofJson? n.toJson n := by
  match n with
  | .node operator workers inputs =>
    intro room
    rw [PhysicalNode.all] at h
    obtain ⟨hnode, hinputs⟩ := List.forall_mem_cons.mp h
    rw [PhysicalNode.toJson, PhysicalInput.allToJson_eq_map]
    cases room with
    | zero => simp [PhysicalNode.ofJson?, Json.depth]
    | succ room =>
      have hrecord := Json.record?_object [("operator", operator.toJson), ("workers", .nat workers),
        ("inputs", .array (inputs.map PhysicalInput.toJson))] (by simp) room
      have hoperator : Operator.ofJson? room operator.toJson =
          if operator.toJson.depth ≤ room then some operator else none :=
        Operator.reads hnode.kind room
      have hworkers : Json.word? (.nat workers) = some workers := Json.word?_nat hnode.workers_lt
      have hitems : Decoder.Reads (Json.items? PhysicalInput.ofJson?)
          (.array (inputs.map PhysicalInput.toJson)) inputs :=
        Decoder.Reads.items? (PhysicalInput.reads hnode.place_lt hinputs)
      simp only [List.map_cons, List.map_nil] at hrecord
      rw [PhysicalNode.ofJson?]
      simp only [hrecord, Json.required?, Option.bind_some, hoperator, hworkers,
        PhysicalInput.allOfJson?_eq, hitems room, Json.depth_object_le_iff, List.forall_mem_cons]
      by_cases hoperator : operator.toJson.depth ≤ room <;>
        by_cases hinputs : (Json.array (inputs.map PhysicalInput.toJson)).depth ≤ room <;>
        simp [hoperator, hinputs, show (Json.nat workers).depth ≤ room from Nat.zero_le room]

lemma PhysicalInput.reads {inputs : List PhysicalInput}
    (hplaces : ∀ link c i, .endpoint link c i ∈ inputs → c < 2 ^ 64 ∧ i < 2 ^ 64)
    (h : ∀ m ∈ PhysicalInput.allOf inputs, m.Portable) :
    ∀ input ∈ inputs, Decoder.Reads PhysicalInput.ofJson? input.toJson input := by
  match inputs with
  | [] => simp
  | .direct link node :: inputs =>
    rw [PhysicalInput.allOf] at h
    obtain ⟨hnode, hinputs⟩ := List.forall_mem_append.mp h
    rw [List.forall_mem_cons]
    exact ⟨PhysicalInput.reads_direct link (PhysicalNode.reads hnode),
      PhysicalInput.reads (fun link c i hmem => hplaces link c i (List.mem_cons_of_mem _ hmem))
        hinputs⟩
  | .endpoint link c i :: inputs =>
    rw [PhysicalInput.allOf] at h
    obtain ⟨hc, hi⟩ := hplaces link c i List.mem_cons_self
    rw [List.forall_mem_cons]
    exact ⟨PhysicalInput.reads_endpoint link hc hi,
      PhysicalInput.reads (fun link c i hmem => hplaces link c i (List.mem_cons_of_mem _ hmem)) h⟩

end

mutual

lemma PhysicalNode.proper_toJson {n : PhysicalNode} (h : ∀ m ∈ n.all, m.Portable) :
    n.toJson.Proper := by
  match n with
  | .node operator workers inputs =>
    rw [PhysicalNode.all] at h
    obtain ⟨hnode, hinputs⟩ := List.forall_mem_cons.mp h
    rw [PhysicalNode.toJson, PhysicalInput.allToJson_eq_map]
    have hall := PhysicalInput.proper_toJson hnode.place_lt hinputs
    apply Json.Proper.object
    simp only [List.forall_mem_cons]
    exact ⟨Operator.proper_toJson hnode.kind, Json.proper_nat hnode.workers_lt,
      .array_map hall, by simp⟩

lemma PhysicalInput.proper_toJson {inputs : List PhysicalInput}
    (hplaces : ∀ link c i, .endpoint link c i ∈ inputs → c < 2 ^ 64 ∧ i < 2 ^ 64)
    (h : ∀ m ∈ PhysicalInput.allOf inputs, m.Portable) :
    ∀ input ∈ inputs, input.toJson.Proper := by
  match inputs with
  | [] => simp
  | .direct link node :: inputs =>
    rw [PhysicalInput.allOf] at h
    obtain ⟨hnode, hinputs⟩ := List.forall_mem_append.mp h
    have hnode := PhysicalNode.proper_toJson hnode
    rw [List.forall_mem_cons, PhysicalInput.toJson]
    refine ⟨.object ?_, PhysicalInput.proper_toJson
      (fun link c i hmem => hplaces link c i (List.mem_cons_of_mem _ hmem)) hinputs⟩
    simp [Json.Proper.object, link.proper_toJson, hnode]
  | .endpoint link c i :: inputs =>
    rw [PhysicalInput.allOf] at h
    obtain ⟨hc, hi⟩ := hplaces link c i List.mem_cons_self
    rw [List.forall_mem_cons, PhysicalInput.toJson]
    refine ⟨.object ?_, PhysicalInput.proper_toJson
      (fun link c i hmem => hplaces link c i (List.mem_cons_of_mem _ hmem)) h⟩
    simp [Json.Proper.object, link.proper_toJson, Json.proper_nat hc, Json.proper_nat hi]

end

/-- The numbers of a connector are those of a machine word. -/
structure ConnectorSpec.Portable (c : ConnectorSpec) : Prop where
  id_lt : c.id < 2 ^ 64
  endpoints_lt : c.endpoints < 2 ^ 64

namespace ConnectorSpec

variable {c : ConnectorSpec}

lemma reads (h : c.Portable) (hproducer : ∀ m ∈ c.producer.all, m.Portable) :
    Decoder.Reads ofJson? c.toJson c := by
  intro room
  rw [toJson]
  cases room with
  | zero => simp [ofJson?, Json.record?, Json.depth]
  | succ room =>
    have hrecord := Json.record?_object [("id", .nat c.id), ("producer", c.producer.toJson),
      ("endpoints", .nat c.endpoints)] (by simp) room
    have hnode := PhysicalNode.reads hproducer room
    simp only [List.map_cons, List.map_nil] at hrecord
    rw [ofJson?]
    simp only [hrecord, Json.required?, Option.bind_some, Nat.add_sub_cancel, hnode,
      Json.word?_nat h.id_lt, Json.word?_nat h.endpoints_lt, Json.depth_object_le_iff,
      List.forall_mem_cons]
    by_cases hproducer : c.producer.toJson.depth ≤ room <;>
      simp [hproducer, show ∀ n, (Json.nat n).depth ≤ room from fun _ => Nat.zero_le room]

lemma proper_toJson (h : c.Portable) (hproducer : ∀ m ∈ c.producer.all, m.Portable) :
    c.toJson.Proper := by
  apply Json.Proper.object
  simp [Json.proper_nat h.id_lt, Json.proper_nat h.endpoints_lt,
    PhysicalNode.proper_toJson hproducer]

end ConnectorSpec

namespace PhysicalPlan

variable {p : PhysicalPlan}

/-- All numbers of a physical plan are those of a machine word, and its operators read back. -/
structure Portable (p : PhysicalPlan) : Prop where
  nodes : ∀ n ∈ p.nodes, n.Portable
  connectors : ∀ c ∈ p.connectors, c.Portable

lemma Portable.reads (h : p.Portable) : Decoder.Reads ofJson? p.toJson p := by
  have hroot : ∀ m ∈ p.root.all, m.Portable :=
    fun m hm => h.nodes m (List.mem_append_left _ hm)
  have hproducer : ∀ c ∈ p.connectors, ∀ m ∈ c.producer.all, m.Portable :=
    fun c hc m hm => h.nodes m (List.mem_append_right _ (List.mem_flatMap.mpr ⟨c, hc, hm⟩))
  intro room
  rw [toJson]
  cases room with
  | zero => rfl
  | succ room =>
    have hrecord := Json.record?_object [("root", p.root.toJson),
      ("connectors", .array (p.connectors.map ConnectorSpec.toJson))] (by simp) room
    have hnode := PhysicalNode.reads hroot room
    have hspecs := Decoder.Reads.items?
      (fun c hc => ConnectorSpec.reads (h.connectors c hc) (hproducer c hc)) room
    rw [ofJson?]
    simp only [List.map_cons, List.map_nil] at hrecord
    simp only [hrecord, Json.required?, Option.bind_some, Json.default?, Nat.add_sub_cancel,
      hnode, hspecs, Json.depth_object_le_iff, List.forall_mem_cons]
    by_cases hroot : p.root.toJson.depth ≤ room <;>
      by_cases hspecs : (Json.array (p.connectors.map ConnectorSpec.toJson)).depth ≤ room <;>
      simp [hroot, hspecs]

lemma Portable.proper_toJson (h : p.Portable) : p.toJson.Proper := by
  apply Json.Proper.object
  simp only [List.forall_mem_cons]
  refine ⟨PhysicalNode.proper_toJson fun m hm => h.nodes m (List.mem_append_left _ hm),
    .array_map fun c hc => ConnectorSpec.proper_toJson (h.connectors c hc) fun m hm => ?_, by simp⟩
  exact h.nodes m (List.mem_append_right _ (List.mem_flatMap.mpr ⟨c, hc, hm⟩))

/-- The text of a physical plan is read as this plan, unless it nests too deeply: then it is
refused. -/
lemma Portable.ofText?_text (h : p.Portable) :
    ofText? p.text = if p.toJson.depth ≤ nestingLimit then some p else none :=
  h.reads.decodeText? h.proper_toJson

end PhysicalPlan

end Dataflow
