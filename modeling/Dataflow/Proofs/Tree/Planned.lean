import Mathlib.Data.Set.Insert
import Dataflow.Proofs.Tree.Ends
import Dataflow.Proofs.Tree.Reads
import Dataflow.Proofs.Tree.Refusal
import Dataflow.Proofs.Tree.Schemas

/-!
# Trees of valid plans

While the tree of a valid plan is built, every endpoint of the plan was handed out, is still to be
taken, or is read by the producer of a connector that nobody has asked for yet. So no endpoint is
asked for twice, and in the end none is left: building fails only where an operator refuses the
schemas of its producers or where no executor can be created for it.
-/

namespace Dataflow

open Act Relation

variable {σ ω : Type}

/-- What the executors of a valid plan are created from. -/
structure ValidPlan.Requests (v : ValidPlan) (context : Context) (r : Request) : Prop where
  mem : r.operator ∈ v.plan.operators
  links_eq : r.links = v.plan.links.filter (·.consumer == r.operator.id)
  inputs : List.Forall₂ (v.HasSchema context.catalog.schemas)
    (v.plan.producersOf r.operator.id) r.inputs
  output : r.operator.outputSchema context.catalog.schemas r.inputs = .ok r.output
  context_eq : r.context = context

/-- An operator of a valid plan refuses the schemas of its producers, or an executor is not
created. -/
def ValidPlan.Rejected (v : ValidPlan) (registry : Registry σ ω) (context : Context) (e : Error) :
    Prop :=
  v.Refuses context.catalog.schemas e ∨ ∃ r, v.Requests context r ∧ registry.Declines r e

/-- A connector serves the consumers of a producer: it has the endpoints of its place in the plan,
and each of those that were handed out is read by the consumer that it was made for. -/
structure Junction.Serves (v : ValidPlan) (tables : TableSchemas) (spec : ConnectorSpec)
    (junction : Junction) : Prop where
  producer_eq : junction.connector.producer = spec.producer.id
  schema : v.HasSchema tables spec.producer.id junction.connector.schema
  length_eq : junction.connector.endpoints.length = spec.endpoints
  nodup : junction.consumers.Nodup
  handedOut : ∀ y ∈ junction.consumers, junction.connector.HandedOut y.2
  consumers : ∀ y ∈ junction.consumers, (v.plan.consumersOf spec.producer.id)[y.2]? = some y.1

lemma Connector.parts_of_create {c : ConnectorId} {producer : OperatorId} {schema : Schema}
    {n : Nat} {con : Connector} (h : Connector.create c producer schema n = .ok con) :
    con.producer = producer ∧ con.schema = schema ∧ con.endpoints.length = n := by
  rw [Connector.create] at h
  split_ifs at h
  cases h
  exact ⟨rfl, rfl, List.length_replicate⟩

lemma Connector.parts_of_take {con con' : Connector} {i : Nat} (h : con.take i = .ok con') :
    con'.producer = con.producer ∧ con'.schema = con.schema := by
  rw [Connector.take] at h
  split at h
  · cases h
  · split_ifs at h
    cases h
    exact ⟨rfl, rfl⟩

lemma Junction.serves_create {v : ValidPlan} {tables : TableSchemas} {spec : ConnectorSpec}
    {c : ConnectorId} {place : Nat} {schema : Schema} {con : Connector}
    (h : Connector.create c spec.producer.id schema spec.endpoints = .ok con)
    (hschema : v.HasSchema tables spec.producer.id schema) :
    Junction.Serves v tables spec ⟨con, place, []⟩ := by
  obtain ⟨hproducer, rfl, hlength⟩ := Connector.parts_of_create h
  exact ⟨hproducer, hschema, hlength, List.nodup_nil, fun _ => List.not_mem_nil.elim,
    fun _ => List.not_mem_nil.elim⟩

lemma Junction.Serves.take {v : ValidPlan} {tables : TableSchemas} {spec : ConnectorSpec}
    {junction : Junction} {con : Connector} {i : Nat} {consumer : OperatorId}
    (h : junction.Serves v tables spec) (htake : junction.connector.take i = .ok con)
    (hconsumer : (v.plan.consumersOf spec.producer.id)[i]? = some consumer) :
    Junction.Serves v tables spec
      ⟨con, junction.producer, junction.consumers ++ [(consumer, i)]⟩ := by
  have htakes := Connector.takes_of_take htake
  obtain ⟨hproducer, hschema⟩ := Connector.parts_of_take htake
  refine ⟨hproducer.trans h.producer_eq, hschema ▸ h.schema, htakes.length_eq.trans h.length_eq,
    ?_, ?_, ?_⟩
  · refine List.nodup_append'.mpr ⟨h.nodup, List.nodup_singleton _, fun y hy hy' => ?_⟩
    obtain rfl := List.mem_singleton.mp hy'
    exact htakes.not_handedOut (h.handedOut _ hy)
  · refine List.forall_mem_append.mpr ⟨fun y hy => ?_, List.forall_mem_singleton.mpr ?_⟩
    · exact (htakes.handedOut_iff _).mpr (.inr (h.handedOut y hy))
    · exact (htakes.handedOut_iff _).mpr (.inl rfl)
  · exact List.forall_mem_append.mpr ⟨h.consumers, List.forall_mem_singleton.mpr hconsumer⟩

namespace Scaffold

variable {registry : Registry σ ω} {context : Context} {v : ValidPlan} {workers : Nat}
  {physical : PhysicalPlan} {s s' : Scaffold σ ω} {D : Set ConnectorId}
  {rest : List (ConnectorId × Nat)} {c d : ConnectorId} {x : ConnectorId × Nat}
  {spec : ConnectorSpec}

/-- An endpoint is read by the producer of a connector that is neither there nor among those that
are being built. -/
def Waits (plan : PhysicalPlan) (D : Set ConnectorId) (s : Scaffold σ ω) (x : ConnectorId × Nat) :
    Prop :=
  ∃ c spec, c ∉ D ∧ s.Missing c ∧ plan.connector? c = some spec ∧ x ∈ spec.producer.endpoints

/-- Once a connector is being built, the endpoints that its producer reads do not wait any more. -/
lemma waits_iff (hc : c ∉ D) (hmissing : s.Missing c) (hspec : physical.connector? c = some spec) :
    s.Waits physical D x ↔ x ∈ spec.producer.endpoints ∨ s.Waits physical (insert c D) x := by
  constructor
  · rintro ⟨d, spec', hd, hmissing', hspec', hx⟩
    by_cases hdc : d = c
    · subst hdc
      rw [hspec, Option.some.injEq] at hspec'
      exact .inl (hspec' ▸ hx)
    · exact .inr ⟨d, spec', by simp [hdc, hd], hmissing', hspec', hx⟩
  · rintro (hx | ⟨d, spec', hd, hmissing', hspec', hx⟩)
    · exact ⟨c, spec, hc, hmissing, hspec, hx⟩
    · exact ⟨d, spec', fun hd' => hd (.inr hd'), hmissing', hspec', hx⟩

lemma waits_congr {D' : Set ConnectorId}
    (h : ∀ c, c ∉ D ∧ s.Missing c ↔ c ∉ D' ∧ s'.Missing c) :
    s.Waits physical D x ↔ s'.Waits physical D' x := by
  simp only [Waits, ← and_assoc, h]

/-- The tree of a valid plan is being built, with the producers of the connectors in `D` under way
and some endpoints still to be taken by these and by the tree of the sink. -/
structure Planned (v : ValidPlan) (context : Context) (physical : PhysicalPlan)
    (D : Set ConnectorId) (rest : List (ConnectorId × Nat)) (s : Scaffold σ ω) : Prop where
  schemas : ∀ node ∈ s.nodes, v.HasSchema context.catalog.schemas node.operator.id node.schema
  length_eq : s.junctions.length = physical.connectors.length
  serves : ∀ (c : ConnectorId) junction, s.junctions[c]? = some (some junction) →
    ∃ spec, physical.connector? c = some spec ∧ junction.Serves v context.catalog.schemas spec
  nodup : rest.Nodup
  subset : rest ⊆ physical.endpoints
  not_waits : ∀ x ∈ rest, ¬s.Waits physical D x
  used_iff : ∀ x ∈ physical.endpoints, s.Used x ↔ x ∉ rest ∧ ¬s.Waits physical D x

/-- Building stops where something is rejected. Every node that was built has the schema of its
operator. -/
structure Stopped (registry : Registry σ ω) (context : Context) (v : ValidPlan) (e : Error)
    (s : Scaffold σ ω) : Prop where
  rejected : v.Rejected registry context e
  schemas : ∀ node ∈ s.nodes, v.HasSchema context.catalog.schemas node.operator.id node.schema

namespace Planned

lemma lt_length (h : s.Planned v context physical D rest)
    (hspec : physical.connector? c = some spec) : c < s.junctions.length := by
  rw [h.length_eq]
  exact (List.getElem?_eq_some_iff.mp hspec).1

/-- Nothing is built yet. -/
lemma start (hrealizes : physical.Realizes v.plan v.sink workers) :
    Planned v context physical ∅ physical.root.endpoints
      (⟨[], physical.connectors.map fun _ => none⟩ : Scaffold σ ω) := by
  have hnodup := List.nodup_append'.mp hrealizes.nodup_endpoints
  have hmissing (c : ConnectorId) :
      (physical.connectors.map fun _ => (none : Option Junction))[c]? =
        (physical.connector? c).map fun _ => none := List.getElem?_map
  have hwaits (x : ConnectorId × Nat) :
      Waits physical ∅ (⟨[], physical.connectors.map fun _ => none⟩ : Scaffold σ ω) x ↔
        x ∈ physical.connectors.flatMap (·.producer.endpoints) := by
    rw [List.mem_flatMap]
    constructor
    · rintro ⟨c, spec, -, -, hspec, hx⟩
      exact ⟨spec, List.mem_of_getElem? hspec, hx⟩
    · rintro ⟨spec, hspec, hx⟩
      obtain ⟨c, hspec⟩ := List.getElem?_of_mem hspec
      refine ⟨c, spec, id, ?_, hspec, hx⟩
      rw [Missing, hmissing, PhysicalPlan.connector?, hspec]
      rfl
  refine ⟨fun _ => List.not_mem_nil.elim, List.length_map _, fun c junction hc => ?_, hnodup.1,
    List.subset_append_left .., fun x hx => ?_, fun x hx => ?_⟩
  · rw [hmissing] at hc
    obtain ⟨_, -, heq⟩ := Option.map_eq_some_iff.mp hc
    cases heq
  · rw [hwaits]
    exact fun hx' => hnodup.2.2 hx hx'
  · refine iff_of_false ?_ ?_
    · rintro ⟨junction, hc, -⟩
      rw [hmissing] at hc
      obtain ⟨_, -, heq⟩ := Option.map_eq_some_iff.mp hc
      cases heq
    · rintro ⟨hroot, hnot⟩
      rw [hwaits] at hnot
      exact (List.mem_append.mp hx).elim hroot hnot

lemma addNode (h : s.Planned v context physical D rest) {node : Node σ ω}
    (hnode : v.HasSchema context.catalog.schemas node.operator.id node.schema) :
    Planned v context physical D rest { s with nodes := s.nodes ++ [node] } :=
  { h with schemas := List.forall_mem_append.mpr ⟨h.schemas, List.forall_mem_singleton.mpr hnode⟩ }

/-- An endpoint that is still to be taken can be taken. -/
lemma exists_take (h : s.Planned v context physical D (x :: rest))
    (hrealizes : physical.Realizes v.plan v.sink workers) {junction : Junction}
    (hjunction : s.junctions[x.1]? = some (some junction)) :
    ∃ con, junction.connector.take x.2 = .ok con := by
  have hx := h.subset List.mem_cons_self
  obtain ⟨spec, hspec, hserves⟩ := h.serves _ junction hjunction
  obtain ⟨spec', hspec', hlt⟩ :=
    (hrealizes.mem_endpoints_iff (Plan.holds_of_valid v .resolved)).mp hx
  obtain rfl : spec' = spec := Option.some.inj (hspec'.symm.trans hspec)
  rw [← hserves.length_eq] at hlt
  have hfree : ¬junction.connector.endpoints[x.2].taken = true := fun htaken =>
    ((h.used_iff x hx).mp ⟨junction, hjunction, _, List.getElem?_eq_getElem hlt, htaken⟩).1
      List.mem_cons_self
  rw [Connector.take, List.getElem?_eq_getElem hlt]
  exact ⟨_, if_neg hfree⟩

/-- An endpoint is taken by the consumer that it was made for. -/
lemma join (h : s.Planned v context physical D (x :: rest)) {junction : Junction} {con : Connector}
    {consumer : OperatorId} (hfor : physical.IsFor v.plan x consumer)
    (hjunction : s.junctions[x.1]? = some (some junction))
    (htake : junction.connector.take x.2 = .ok con) :
    Planned v context physical D rest { s with junctions := s.junctions.set x.1 (some
      ⟨con, junction.producer, junction.consumers ++ [(consumer, x.2)]⟩) } := by
  have hlt := (List.getElem?_eq_some_iff.mp hjunction).1
  have hwaits (y : ConnectorId × Nat) : Waits physical D { s with
      junctions := s.junctions.set x.1 (some ⟨con, junction.producer,
        junction.consumers ++ [(consumer, x.2)]⟩) } y ↔ s.Waits physical D y :=
    waits_congr fun _ => and_congr_right fun _ => missing_set_iff_of_built hjunction
  obtain ⟨hx, hnodup⟩ := List.nodup_cons.mp h.nodup
  refine ⟨h.schemas, by rw [List.length_set, h.length_eq], fun c new hc => ?_, hnodup,
    fun y hy => h.subset (List.mem_cons_of_mem x hy), fun y hy => ?_, fun y hy => ?_⟩
  · by_cases hxc : x.1 = c
    · subst hxc
      rw [List.getElem?_set_self hlt] at hc
      cases hc
      obtain ⟨spec, hspec, hserves⟩ := h.serves _ junction hjunction
      obtain ⟨spec', hspec', hconsumer⟩ := hfor
      obtain rfl : spec' = spec := Option.some.inj (hspec'.symm.trans hspec)
      exact ⟨spec', hspec, hserves.take htake hconsumer⟩
    · exact h.serves c new ((List.getElem?_set_ne hxc).symm.trans hc)
  · rw [hwaits]
    exact h.not_waits y (List.mem_cons_of_mem x hy)
  · rw [hwaits, used_join_iff hjunction htake, h.used_iff y hy, List.mem_cons, not_or]
    by_cases hyx : y = x
    · subst hyx
      exact iff_of_true (.inl rfl) ⟨hx, h.not_waits y List.mem_cons_self⟩
    · simp [hyx]

/-- The producer of a connector is under way from now on, and its endpoints are to be taken. -/
lemma begin (h : s.Planned v context physical D rest)
    (hrealizes : physical.Realizes v.plan v.sink workers) (hc : c ∉ D) (hmissing : s.Missing c)
    (hspec : physical.connector? c = some spec) :
    s.Planned v context physical (insert c D) (spec.producer.endpoints ++ rest) := by
  have hwaits (x : ConnectorId × Nat) := waits_iff (x := x) hc hmissing hspec
  have hmem := List.mem_of_getElem? hspec
  have hsubset : spec.producer.endpoints ⊆ physical.endpoints := fun x hx =>
    List.mem_append_right _ (List.mem_flatMap.mpr ⟨spec, hmem, hx⟩)
  refine ⟨h.schemas, h.length_eq, h.serves, ?_, List.append_subset.mpr ⟨hsubset, h.subset⟩, ?_,
    fun x hx => ?_⟩
  · refine List.nodup_append'.mpr ⟨hrealizes.nodup_producer hspec, h.nodup, fun x hx hx' => ?_⟩
    exact h.not_waits x hx' ((hwaits x).mpr (.inl hx))
  · refine List.forall_mem_append.mpr ⟨?_, fun x hx hx' => ?_⟩
    · rintro x hx ⟨d, spec', hd, -, hspec', hx'⟩
      obtain rfl := hrealizes.reader_unique hspec hspec' hx hx'
      exact hd (.inl rfl)
    · exact h.not_waits x hx ((hwaits x).mpr (.inr hx'))
  · rw [h.used_iff x hx, hwaits, List.mem_append]
    tauto

/-- The producer of a connector was built, and the connector is there. -/
lemma finish (h : s.Planned v context physical (insert c D) rest) (hc : c ∉ D)
    (hmissing : s.Missing c) (hspec : physical.connector? c = some spec) {schema : Schema}
    {con : Connector} {place : Nat}
    (hcreate : Connector.create c spec.producer.id schema spec.endpoints = .ok con)
    (hschema : v.HasSchema context.catalog.schemas spec.producer.id schema) :
    Planned v context physical D rest
      { s with junctions := s.junctions.set c (some ⟨con, place, []⟩) } := by
  have hlt := h.lt_length hspec
  have hwaits (x : ConnectorId × Nat) : Waits physical D
      { s with junctions := s.junctions.set c (some ⟨con, place, []⟩) } x ↔
        s.Waits physical (insert c D) x := by
    refine waits_congr fun d => ?_
    rw [missing_set_iff hlt, Set.mem_insert_iff]
    tauto
  have hused (x : ConnectorId × Nat) : Used
      { s with junctions := s.junctions.set c (some ⟨con, place, []⟩) } x ↔ s.Used x := by
    by_cases hcx : c = x.1
    · subst hcx
      refine iff_of_false ?_ fun ⟨junction, hjunction, _⟩ => hmissing.not_built hjunction
      rintro ⟨junction, hjunction, e, he, htaken⟩
      rw [List.getElem?_set_self hlt] at hjunction
      cases hjunction
      rw [Connector.not_taken_create hcreate e (List.mem_of_getElem? he)] at htaken
      cases htaken
    · simp only [Used, List.getElem?_set_ne hcx]
  refine ⟨h.schemas, by rw [List.length_set, h.length_eq], fun d new hd => ?_, h.nodup, h.subset,
    fun x hx => ?_, fun x hx => ?_⟩
  · by_cases hcd : c = d
    · subst hcd
      rw [List.getElem?_set_self hlt] at hd
      cases hd
      exact ⟨spec, hspec, Junction.serves_create hcreate hschema⟩
    · exact h.serves d new ((List.getElem?_set_ne hcd).symm.trans hd)
  · rw [hwaits]
    exact h.not_waits x hx
  · rw [hwaits, hused]
    exact h.used_iff x hx

end Planned

lemma mem_of_giver? {supply : Supply} {node : Node σ ω} (h : s.giver? supply = some node) :
    node ∈ s.nodes := by
  match supply with
  | .node k => exact List.mem_of_getElem? h
  | .endpoint c i =>
    obtain ⟨junction, -, hnode⟩ := Option.bind_eq_some_iff.mp h
    exact List.mem_of_getElem? hnode

/-- A node of the plan is added behind what feeds it, unless it is rejected. -/
lemma Planned.answers_createNode (h : s.Planned v context physical D rest)
    (hrealizes : physical.Realizes v.plan v.sink workers)
    (hresembles : Resembles registry context physical s) {n : PhysicalNode}
    (hn : n ∈ physical.nodes) {slots : List Slot}
    (hlinks : slots.map Slot.link = n.inputs.map PhysicalInput.link)
    (hslots : ∀ slot ∈ slots, ∃ below, s.giver? slot.supply = some below ∧
      below.operator.id = slot.link.producer) :
    (createNode registry context n.operator n.workers slots).Answers s
      (Stopped registry context v) fun _ s' => s'.Planned v context physical D rest := by
  have hstands := hrealizes.stands n hn
  have hlinks' : slots.map Slot.link = v.plan.links.filter (·.consumer == n.operator.id) := by
    rw [hlinks, hstands.links_eq]
    exact List.filter_congr fun _ _ => rfl
  have hinputs : List.Forall₂ (v.HasSchema context.catalog.schemas)
      (v.plan.producersOf n.operator.id) (slots.map fun slot => s.seen slot.supply) := by
    rw [Plan.producersOf, ← hlinks', List.map_map, List.forall₂_map_left_iff,
      List.forall₂_map_right_iff, List.forall₂_same]
    intro slot hslot
    obtain ⟨below, hbelow, hid⟩ := hslots slot hslot
    rw [hresembles.seen_eq hbelow, Function.comp_apply, ← hid]
    exact h.schemas below (mem_of_giver? hbelow)
  refine Scaffold.answers_createNode (fun e herror => ?_)
    (fun schema hschema worker e hdeclines => ?_)
    fun schema crew hschema => h.addNode (.intro hstands.operator_mem hinputs hschema)
  · exact ⟨.inl ⟨n.operator, hstands.operator_mem, _, hinputs, herror⟩, h.schemas⟩
  · exact ⟨.inr ⟨_, ⟨hstands.operator_mem, hlinks', hinputs, hschema, rfl⟩, hdeclines⟩, h.schemas⟩

/-- How connectors are built: those with `A` may be asked for, and are there in the end unless
something is rejected. -/
structure Connects (registry : Registry σ ω) (context : Context) (v : ValidPlan)
    (physical : PhysicalPlan) (D : Set ConnectorId) (A : ConnectorId → Prop)
    (connect : ConnectorId → Build σ ω Unit) : Prop where
  resembles : ∀ s c, Resembles registry context physical s →
    (connect c).Gives s fun _ s' => Resembles registry context physical s' ∧ s.Extends s'
  answers : ∀ c rest s, A c → Resembles registry context physical s →
    s.Planned v context physical D rest →
    (connect c).Answers s (Stopped registry context v) fun _ s' =>
      s'.Planned v context physical D rest ∧
        ∃ junction, s'.junctions[c]? = some (some junction)

section Connects

variable {A : ConnectorId → Prop} {connect : ConnectorId → Build σ ω Unit}

mutual

/-- A node is built, with its endpoints taken, unless something is rejected. -/
lemma Connects.answers_buildNode (hconnect : Connects registry context v physical D A connect)
    (hrealizes : physical.Realizes v.plan v.sink workers) {n : PhysicalNode}
    {rest : List (ConnectorId × Nat)} {s : Scaffold σ ω} (hn : ∀ m ∈ n.all, m ∈ physical.nodes)
    (hasks : ∀ c ∈ n.asks, A c)
    (hresembles : Resembles registry context physical s)
    (h : s.Planned v context physical D (n.endpoints ++ rest)) :
    (buildNode registry context connect n).Answers s (Stopped registry context v) fun _ s' =>
      s'.Planned v context physical D rest := by
  match n with
  | .node operator count inputs =>
    rw [PhysicalNode.all_eq, List.forall_mem_cons] at hn
    rw [PhysicalNode.asks] at hasks
    rw [PhysicalNode.endpoints] at h
    have hstands (input : PhysicalInput) (hinput : input ∈ inputs) :
        input.StandsFor v.plan physical.connectors ∧ input.link.consumer = operator.id :=
      ⟨(hrealizes.stands _ hn.1).inputs input hinput, hrealizes.consumer_eq hn.1 hinput⟩
    rw [buildNode]
    have hinputs := hconnect.answers_buildInputs hrealizes hn.2 hstands hasks hresembles h
    have hlike := resembles_buildInputs hconnect.resembles hrealizes.linked operator.id hn.2
      (hrealizes.linked _ hn.1) hresembles
    refine (hinputs.and_gives hlike).bind fun slots s' ⟨h', hresembles', _, hlinks, hslots⟩ => ?_
    exact h'.answers_createNode hrealizes hresembles' hn.1 hlinks
      fun slot hslot => (hslots slot hslot).2

lemma Connects.answers_buildInputs (hconnect : Connects registry context v physical D A connect)
    (hrealizes : physical.Realizes v.plan v.sink workers) {consumer : OperatorId}
    {inputs : List PhysicalInput} {rest : List (ConnectorId × Nat)} {s : Scaffold σ ω}
    (hn : ∀ m ∈ PhysicalInput.allOf inputs, m ∈ physical.nodes)
    (hstands : ∀ input ∈ inputs, input.StandsFor v.plan physical.connectors ∧
      input.link.consumer = consumer)
    (hasks : ∀ c ∈ PhysicalInput.asksOf inputs, A c)
    (hresembles : Resembles registry context physical s)
    (h : s.Planned v context physical D (PhysicalInput.endpointsOf inputs ++ rest)) :
    (buildInputs registry context connect consumer inputs).Answers s
      (Stopped registry context v) fun _ s' => s'.Planned v context physical D rest := by
  match inputs with
  | [] =>
    rw [buildInputs]
    exact answers_pure h
  | .direct link m :: inputs =>
    rw [PhysicalInput.allOf, List.forall_mem_append] at hn
    rw [PhysicalInput.asksOf, List.forall_mem_append] at hasks
    rw [PhysicalInput.endpointsOf, List.append_assoc] at h
    rw [buildInputs]
    have hnode := hconnect.answers_buildNode hrealizes hn.1 hasks.1 hresembles h
    have hlike := resembles_buildNode hconnect.resembles hrealizes.linked hn.1 hresembles
    refine (hnode.and_gives hlike).bind fun place s' ⟨h', hresembles', _⟩ => ?_
    refine (hconnect.answers_buildInputs hrealizes hn.2 (List.forall_mem_cons.mp hstands).2 hasks.2
      hresembles' h').bind fun slots s'' h'' => answers_pure h''
  | .endpoint link c i :: inputs =>
    obtain ⟨⟨hstandsFor, rfl⟩, hstands⟩ := List.forall_mem_cons.mp hstands
    rw [PhysicalInput.allOf] at hn
    rw [PhysicalInput.asksOf, List.forall_mem_cons] at hasks
    rw [PhysicalInput.endpointsOf, List.cons_append] at h
    rw [buildInputs]
    have hthere := (hconnect.answers c _ s hasks.1 hresembles h).and_gives
      (hconnect.resembles s c hresembles)
    refine hthere.bind fun _ s' ⟨⟨h', junction, hjunction⟩, hresembles', _⟩ => ?_
    obtain ⟨con, htake⟩ := h'.exists_take hrealizes hjunction
    have hjoin : (joinEndpoint c i link.consumer : Build σ ω Unit).Answers s'
        (Stopped registry context v) fun _ s'' =>
          s''.Planned v context physical D (PhysicalInput.endpointsOf inputs ++ rest) :=
      answers_joinEndpoint hjunction htake (h'.join (hstandsFor.isFor rfl).1 hjunction htake)
    refine (hjoin.and_gives (resembles_joinEndpoint hresembles')).bind
      fun _ s'' ⟨h'', hresembles'', _⟩ => ?_
    exact (hconnect.answers_buildInputs hrealizes hn hstands hasks.2 hresembles'' h'').bind
      fun slots s₃ h₃ => answers_pure h₃

end

end Connects

/-- A connector that leads to none of those under way is there in the end, unless something is
rejected. -/
lemma answers_connect (hrealizes : physical.Realizes v.plan v.sink workers) (depth : Nat)
    (hD : ∀ d ∈ D, ¬ReflTransGen physical.Asks c d) (hspec : physical.connector? c = some spec)
    (hresembles : Resembles registry context physical s)
    (h : s.Planned v context physical D rest) :
    (connect registry context physical depth c).Answers s (Stopped registry context v) fun _ s' =>
      s'.Planned v context physical D rest ∧
        ∃ junction, s'.junctions[c]? = some (some junction) := by
  induction depth generalizing D c rest s spec with
  | zero => exact answers_endless
  | succ depth ih =>
    have hlt := h.lt_length hspec
    refine answers_connectWith hspec hlt (fun junction hc => ⟨h, junction, hc⟩) fun hmissing => ?_
    have hc : c ∉ D := fun hc => hD c hc .refl
    have hall : spec.producer.all ⊆ physical.nodes := fun m hm =>
      List.mem_append_right _ (List.mem_flatMap.mpr ⟨spec, List.mem_of_getElem? hspec, hm⟩)
    -- What the producer asks for leads neither to the connector nor to those under way.
    have hapart (d : ConnectorId) (hd : d ∈ spec.producer.asks) :
        (∀ e ∈ insert c D, ¬ReflTransGen physical.Asks d e) ∧
          ∃ spec', physical.connector? d = some spec' := by
      have hasks : physical.Asks c d := ⟨spec, hspec, hd⟩
      obtain ⟨spec', hspec', -⟩ := hrealizes.feeds_of_asks hall hd
      refine ⟨fun e he hleads => ?_, spec', hspec'⟩
      rcases he with rfl | he
      · exact hrealizes.not_asks_itself (Plan.holds_of_valid v .acyclic) e (.head' hasks hleads)
      · exact hD e he (.head hasks hleads)
    have hconnect : Connects registry context v physical (insert c D)
        (fun d => (∀ e ∈ insert c D, ¬ReflTransGen physical.Asks d e) ∧
          ∃ spec', physical.connector? d = some spec')
        (connect registry context physical depth) :=
      ⟨fun s c hresembles => resembles_connect hrealizes.linked depth hresembles,
        fun d rest s ⟨hapart, spec', hspec'⟩ hresembles h => ih hapart hspec' hresembles h⟩
    have hbuild := hconnect.answers_buildNode hrealizes (fun m hm => hall hm) hapart hresembles
      (h.begin hrealizes hc hmissing hspec)
    have hlike := resembles_buildNode hconnect.resembles hrealizes.linked (fun m hm => hall hm)
      hresembles
    refine (hbuild.and_gives (hlike.and (missing_after_buildNode depth hmissing hspec))).mono ?_
    rintro place s' ⟨h', ⟨hresembles', -, node, hnode, hoperator⟩, hmissing'⟩
    have hschema : v.HasSchema context.catalog.schemas spec.producer.id
        (s'.seen (.node place)) := by
      rw [hresembles'.seen_eq (x := .node place) hnode, PhysicalNode.id, ← hoperator]
      exact h'.schemas node (List.mem_of_getElem? hnode)
    obtain ⟨con, hcreate⟩ : ∃ con, Connector.create c spec.producer.id (s'.seen (.node place))
        spec.endpoints = .ok con := by
      have htwo := hrealizes.two_le_endpoints hspec
      exact ⟨_, if_neg (by omega)⟩
    refine ⟨con, hcreate, h'.finish hc hmissing' hspec hcreate hschema, _,
      List.getElem?_set_self (h'.lt_length hspec)⟩

end Scaffold

end Dataflow
