import Dataflow.Proofs.Tree.Grounded

/-!
# Endpoints that are read

In a plan that realizes a valid one, every endpoint of every connector is read once: by the node of
the consumer that it was made for.
-/

namespace Dataflow

/-- The endpoint of an input, if it reads one. -/
def PhysicalInput.endpoint? : PhysicalInput → Option (ConnectorId × Nat)
  | .direct .. => none
  | .endpoint _ c i => some (c, i)

/-- The endpoints that a node reads itself. -/
def PhysicalNode.ownEndpoints (n : PhysicalNode) : List (ConnectorId × Nat) :=
  n.inputs.filterMap PhysicalInput.endpoint?

/-- All endpoints that are read, by the tree of the sink first. -/
def PhysicalPlan.endpoints (p : PhysicalPlan) : List (ConnectorId × Nat) :=
  p.root.endpoints ++ p.connectors.flatMap (·.producer.endpoints)

open List in
mutual

lemma PhysicalNode.endpoints_perm (n : PhysicalNode) :
    n.endpoints ~ n.all.flatMap PhysicalNode.ownEndpoints := by
  match n with
  | .node operator workers inputs =>
    rw [PhysicalNode.endpoints, PhysicalNode.all, List.flatMap_cons]
    exact PhysicalInput.endpointsOf_perm inputs

lemma PhysicalInput.endpointsOf_perm (inputs : List PhysicalInput) :
    PhysicalInput.endpointsOf inputs ~ inputs.filterMap PhysicalInput.endpoint? ++
      (PhysicalInput.allOf inputs).flatMap PhysicalNode.ownEndpoints := by
  match inputs with
  | [] => simp [PhysicalInput.endpointsOf]
  | .direct _ node :: inputs =>
    rw [PhysicalInput.endpointsOf, PhysicalInput.allOf, List.flatMap_append,
      List.filterMap_cons_none rfl]
    exact (node.endpoints_perm.append (PhysicalInput.endpointsOf_perm inputs)).trans
      (List.perm_append_comm_assoc ..)
  | .endpoint link c i :: inputs =>
    have hsome : (PhysicalInput.endpoint link c i).endpoint? = some (c, i) := rfl
    rw [PhysicalInput.endpointsOf, PhysicalInput.allOf, List.filterMap_cons_some hsome,
      List.cons_append]
    exact (PhysicalInput.endpointsOf_perm inputs).cons (c, i)

end

lemma PhysicalPlan.endpoints_perm (p : PhysicalPlan) :
    p.endpoints.Perm (p.nodes.flatMap PhysicalNode.ownEndpoints) := by
  rw [endpoints, nodes, List.flatMap_append, List.flatMap_assoc]
  exact p.root.endpoints_perm.append (.flatMap_left _ fun spec _ => spec.producer.endpoints_perm)

/-- An endpoint was made for a consumer of the producer of its connector. -/
def PhysicalPlan.IsFor (physical : PhysicalPlan) (p : Plan) (x : ConnectorId × Nat)
    (consumer : OperatorId) : Prop :=
  ∃ spec, physical.connector? x.1 = some spec ∧
    (p.consumersOf spec.producer.id)[x.2]? = some consumer

lemma PhysicalPlan.IsFor.unique {physical : PhysicalPlan} {p : Plan} {x : ConnectorId × Nat}
    {consumer consumer' : OperatorId} (h : physical.IsFor p x consumer)
    (h' : physical.IsFor p x consumer') : consumer = consumer' := by
  obtain ⟨spec, hspec, hconsumer⟩ := h
  obtain ⟨spec', hspec', hconsumer'⟩ := h'
  rw [hspec, Option.some.injEq] at hspec'
  rw [← hspec', hconsumer, Option.some.injEq] at hconsumer'
  exact hconsumer'

lemma PhysicalInput.StandsFor.isFor {physical : PhysicalPlan} {p : Plan} {input : PhysicalInput}
    {x : ConnectorId × Nat} (h : input.StandsFor p physical.connectors)
    (hx : input.endpoint? = some x) :
    physical.IsFor p x input.link.consumer ∧
      ∃ spec, physical.connector? x.1 = some spec ∧ spec.producer.id = input.link.producer := by
  match input with
  | .direct .. => cases hx
  | .endpoint link c i =>
    cases hx
    obtain ⟨-, ⟨spec, hspec, hid⟩, hconsumer⟩ := h
    exact ⟨⟨spec, hspec, hid ▸ hconsumer⟩, spec, hspec, hid⟩

namespace PhysicalPlan.Realizes

variable {physical : PhysicalPlan} {p : Plan} {sink : OperatorId} {workers : Nat}
  {n : PhysicalNode} {x : ConnectorId × Nat} {c : ConnectorId} {spec : ConnectorSpec} {i : Nat}

lemma consumer_eq (h : physical.Realizes p sink workers) (hn : n ∈ physical.nodes)
    {input : PhysicalInput} (hinput : input ∈ n.inputs) : input.link.consumer = n.id := by
  have hlink := List.mem_map_of_mem (f := PhysicalInput.link) hinput
  rw [(h.stands n hn).links_eq] at hlink
  exact of_decide_eq_true (List.mem_filter.mp hlink).2

lemma isFor_of_reads (h : physical.Realizes p sink workers) (hn : n ∈ physical.nodes)
    (hx : x ∈ n.ownEndpoints) : physical.IsFor p x n.id := by
  obtain ⟨input, hinput, hx⟩ := List.mem_filterMap.mp hx
  rw [← h.consumer_eq hn hinput]
  exact (((h.stands n hn).inputs input hinput).isFor hx).1

/-- A node reads no endpoint twice: it has different links to different producers. -/
lemma nodup_reads (h : physical.Realizes p sink workers) (hn : n ∈ physical.nodes) :
    n.ownEndpoints.Nodup := by
  have hlinks : (n.inputs.map PhysicalInput.link).Nodup := by
    rw [(h.stands n hn).links_eq]
    exact p.distinct.filter _
  rw [PhysicalNode.ownEndpoints, List.Nodup, List.pairwise_filterMap]
  refine (List.pairwise_map.mp hlinks).imp_of_mem ?_
  rintro a b ha hb hne x hx y hy rfl
  obtain ⟨-, spec, hspec, hproducer⟩ := ((h.stands n hn).inputs a ha).isFor hx
  obtain ⟨-, spec', hspec', hproducer'⟩ := ((h.stands n hn).inputs b hb).isFor hy
  rw [hspec, Option.some.injEq] at hspec'
  refine hne ?_
  rw [Link.mk.injEq]
  refine ⟨?_, (h.consumer_eq hn ha).trans (h.consumer_eq hn hb).symm⟩
  rw [← hproducer, ← hproducer', hspec']

lemma nodup_names (h : physical.Realizes p sink workers) :
    (physical.nodes.map PhysicalNode.id).Nodup := by
  have hids := (h.nodes_perm.map Operator.id).nodup_iff.mpr p.nodup_ids
  rwa [List.map_map] at hids

lemma two_le_endpoints (h : physical.Realizes p sink workers)
    (hspec : physical.connector? c = some spec) : 2 ≤ spec.endpoints := by
  have hmem := List.mem_of_getElem? hspec
  rw [h.endpoints_eq spec hmem, ← h.mem_producers]
  exact List.mem_map_of_mem hmem

lemma place_unique (h : physical.Realizes p sink workers) {d : ConnectorId} {spec' : ConnectorSpec}
    (hspec : physical.connector? c = some spec) (hspec' : physical.connector? d = some spec')
    (heq : spec.producer.id = spec'.producer.id) : c = d := by
  have hlt : c < (physical.connectors.map (·.producer.id)).length := by
    rw [List.length_map]
    exact (List.getElem?_eq_some_iff.mp hspec).1
  rw [PhysicalPlan.connector?] at hspec hspec'
  refine (List.getElem?_inj hlt h.nodup_producers).mp ?_
  rw [List.getElem?_map, List.getElem?_map, hspec, hspec', Option.map_some, Option.map_some, heq]

/-- No endpoint is read twice. -/
theorem nodup_endpoints (h : physical.Realizes p sink workers) : physical.endpoints.Nodup := by
  rw [physical.endpoints_perm.nodup_iff, List.nodup_flatMap]
  refine ⟨fun n hn => h.nodup_reads hn, ?_⟩
  refine (List.pairwise_map.mp h.nodup_names).imp_of_mem fun {n m} hn hm hne x hx hx' => ?_
  exact hne ((h.isFor_of_reads hn hx).unique (h.isFor_of_reads hm hx'))

lemma nodup_producer (h : physical.Realizes p sink workers)
    (hspec : physical.connector? c = some spec) : spec.producer.endpoints.Nodup := by
  have hnodup := (List.nodup_append'.mp h.nodup_endpoints).2.1
  exact (List.nodup_flatMap.mp hnodup).1 spec (List.mem_of_getElem? hspec)

lemma reader_unique (h : physical.Realizes p sink workers) {d : ConnectorId}
    {spec' : ConnectorSpec} (hspec : physical.connector? c = some spec)
    (hspec' : physical.connector? d = some spec') (hx : x ∈ spec.producer.endpoints)
    (hx' : x ∈ spec'.producer.endpoints) : c = d := by
  have hnodup := (List.nodup_append'.mp h.nodup_endpoints).2.1
  have hapart := (List.nodup_flatMap.mp hnodup).2
  rw [PhysicalPlan.connector?] at hspec hspec'
  by_contra hne
  wlog hlt : c < d generalizing c d spec spec' with hswap
  · exact hswap hspec' hspec hx' hx (Ne.symm hne) (lt_of_le_of_ne (not_lt.mp hlt) (Ne.symm hne))
  · obtain ⟨hc, rfl⟩ := List.getElem?_eq_some_iff.mp hspec
    obtain ⟨hd, rfl⟩ := List.getElem?_eq_some_iff.mp hspec'
    exact List.pairwise_iff_getElem.mp hapart c d hc hd hlt hx hx'

/-- All endpoints of all connectors are read, and no others. -/
theorem mem_endpoints_iff (h : physical.Realizes p sink workers)
    (hresolved : ShapeCondition.resolved.Holds p) :
    (c, i) ∈ physical.endpoints ↔
      ∃ spec, physical.connector? c = some spec ∧ i < spec.endpoints := by
  rw [physical.endpoints_perm.mem_iff, List.mem_flatMap]
  constructor
  · rintro ⟨n, hn, hx⟩
    obtain ⟨spec, hspec, hconsumer⟩ := h.isFor_of_reads hn hx
    refine ⟨spec, hspec, ?_⟩
    rw [h.endpoints_eq spec (List.mem_of_getElem? hspec)]
    exact (List.getElem?_eq_some_iff.mp hconsumer).1
  · rintro ⟨spec, hspec, hi⟩
    have hmem := List.mem_of_getElem? hspec
    rw [h.endpoints_eq spec hmem] at hi
    -- The link to the consumer is an input of the node of the consumer.
    have hfeeds : p.Feeds spec.producer.id (p.consumersOf spec.producer.id)[i] :=
      Plan.mem_consumersOf.mp (List.getElem_mem hi)
    obtain ⟨operator, hoperator, hid⟩ := Plan.mem_ids.mp (hresolved.ids_of_feeds hfeeds).2
    obtain ⟨n, hn, rfl⟩ := List.mem_map.mp (h.nodes_perm.mem_iff.mpr hoperator)
    rw [← hid] at hfeeds
    have hlink : (⟨spec.producer.id, n.id⟩ : Link) ∈ n.inputs.map PhysicalInput.link := by
      rw [(h.stands n hn).links_eq, List.mem_filter]
      exact ⟨hfeeds, decide_eq_true rfl⟩
    obtain ⟨input, hinput, hlink⟩ := List.mem_map.mp hlink
    have hstands := (h.stands n hn).inputs input hinput
    refine ⟨n, hn, List.mem_filterMap.mpr ⟨input, hinput, ?_⟩⟩
    have htwo := (h.mem_producers spec.producer.id).mp (List.mem_map_of_mem hmem)
    match input with
    | .direct link m =>
      cases hlink
      have hone : (p.consumersOf spec.producer.id).length = 1 := hstands.2
      omega
    | .endpoint link d j =>
      cases hlink
      obtain ⟨-, ⟨spec', hspec', hproducer⟩, hconsumer⟩ := hstands
      obtain rfl : c = d := h.place_unique hspec hspec' hproducer.symm
      have hsame : (p.consumersOf spec.producer.id)[i]? = (p.consumersOf spec.producer.id)[j]? := by
        rw [List.getElem?_eq_getElem hi, ← hid]
        exact hconsumer.symm
      rw [(List.getElem?_inj hi (p.nodup_consumersOf _)).mp hsame]
      rfl

end PhysicalPlan.Realizes

end Dataflow
