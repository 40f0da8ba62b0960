import Dataflow.Proofs.Plan.Layout

/-!
# Physical plans of valid plans

When the nodes of all operators of a valid plan are laid out, only the sink is left, and the
physical plan says the same as the plan. Laying out fails for no other reason than a number of
workers.
-/

namespace Dataflow

variable {workers : Nat}

/-- A physical plan says the same as a plan: its root is the sink, its nodes are the operators, each
once, with their links as inputs, and its connectors are those of the producers with several
consumers, by their places, with an endpoint for each consumer. -/
structure PhysicalPlan.Realizes (physical : PhysicalPlan) (p : Plan) (sink : OperatorId)
    (workers : Nat) : Prop where
  root_eq : physical.root.id = sink
  nodes_perm : (physical.nodes.map PhysicalNode.operator).Perm p.operators
  stands : ∀ n ∈ physical.nodes, n.StandsIn p workers physical.connectors
  id_eq : ∀ i (spec : ConnectorSpec), physical.connectors[i]? = some spec → spec.id = i
  nodup_producers : (physical.connectors.map (·.producer.id)).Nodup
  mem_producers : ∀ id, id ∈ physical.connectors.map (·.producer.id) ↔
    2 ≤ (p.consumersOf id).length
  endpoints_eq : ∀ spec ∈ physical.connectors,
    spec.endpoints = (p.consumersOf spec.producer.id).length

namespace ValidPlan

variable (v : ValidPlan)

lemma order_spec : v.order.Perm v.plan.ids ∧ v.plan.Sorted v.order := by
  obtain ⟨hholds, horder, -⟩ := Plan.spec_of_valid v
  exact Plan.order_eq_ok (hholds .resolved) horder

lemma nodup_order : v.order.Nodup :=
  v.order_spec.1.nodup_iff.mpr v.plan.nodup_ids

/-- The sink is the only operator that feeds none. -/
lemma eq_sink_iff {operator : Operator} (hmem : operator ∈ v.plan.operators) :
    operator.id = v.sink ↔ ∀ consumer, ¬ v.plan.Feeds operator.id consumer := by
  obtain ⟨hholds, -, honlySink⟩ := Plan.spec_of_valid v
  obtain ⟨sink, hsink, hid, hzero, honly⟩ := Plan.onlySink_eq_ok honlySink
  have harity := hholds .arities operator hmem
  have hnone : (∀ consumer, ¬ v.plan.Feeds operator.id consumer) ↔
      v.plan.links.countP (·.producer = operator.id) = 0 := by
    rw [← Plan.length_consumersOf, List.length_eq_zero_iff, List.eq_nil_iff_forall_not_mem]
    simp only [Plan.mem_consumersOf]
  rw [hnone]
  constructor
  · intro hname
    obtain rfl : operator = sink := Plan.operator_ext hmem hsink (hname.trans hid.symm)
    have houtputs := harity.2
    rwa [if_pos hzero] at houtputs
  · intro hcount
    have houtputs := harity.2
    split_ifs at houtputs with harity0
    · rw [honly operator hmem harity0, hid]
    · omega

lemma exists_sink : ∃ operator ∈ v.plan.operators, operator.id = v.sink := by
  obtain ⟨sink, hsink, hid, -⟩ := Plan.onlySink_eq_ok (Plan.spec_of_valid v).2.2
  exact ⟨sink, hsink, hid⟩

lemma producersOf_sink_ne_nil : v.plan.producersOf v.sink ≠ [] := by
  obtain ⟨hholds, -, honlySink⟩ := Plan.spec_of_valid v
  obtain ⟨operator, hmem, hid, hzero, -⟩ := Plan.onlySink_eq_ok honlySink
  obtain ⟨hinputs, -⟩ := hholds .arities operator hmem
  rw [← hid, ← List.length_pos_iff, Plan.length_producersOf, hinputs]
  cases hkind : operator.kind with
  | tupleSink => exact Nat.one_pos
  | _ => simp [hkind, OperatorKind.outputArity] at hzero

lemma idxOf_lt {p id : OperatorId} (h : p ∈ v.plan.producersOf id) :
    v.order.idxOf p < v.order.idxOf id := by
  have hfeeds := Plan.mem_producersOf.mp h
  obtain ⟨hperm, hsorted⟩ := v.order_spec
  refine hsorted.idxOf_lt v.nodup_order (hperm.mem_iff.mpr ?_) hfeeds
  exact ((Plan.holds_of_valid v .resolved).ids_of_feeds hfeeds).2

section Induction

variable {P : OperatorId → Prop}

/-- What goes from the producers of an operator to the operator holds of all operators. -/
lemma forall_of_producers (hstep : ∀ operator ∈ v.plan.operators,
    (∀ p ∈ v.plan.producersOf operator.id, P p) → P operator.id) :
    ∀ operator ∈ v.plan.operators, P operator.id := by
  intro operator hmem
  generalize hn : v.order.idxOf operator.id = n
  induction n using Nat.strong_induction_on generalizing operator with
  | _ n ih =>
    refine hstep operator hmem fun p hp => ?_
    have hfeeds := Plan.mem_producersOf.mp hp
    obtain ⟨producer, hproducer, rfl⟩ :=
      Plan.mem_ids.mp ((Plan.holds_of_valid v .resolved).ids_of_feeds hfeeds).1
    exact ih _ (hn ▸ v.idxOf_lt hp) producer hproducer rfl

/-- What goes from the consumers of an operator to the operator holds of all operators. -/
lemma forall_of_all_consumers (hstep : ∀ operator ∈ v.plan.operators,
    (∀ c ∈ v.plan.consumersOf operator.id, P c) → P operator.id) :
    ∀ operator ∈ v.plan.operators, P operator.id := by
  intro operator hmem
  generalize hn : v.order.length - v.order.idxOf operator.id = n
  induction n using Nat.strong_induction_on generalizing operator with
  | _ n ih =>
    refine hstep operator hmem fun c hc => ?_
    have hfeeds := Plan.mem_consumersOf.mp hc
    have hids := ((Plan.holds_of_valid v .resolved).ids_of_feeds hfeeds).2
    obtain ⟨consumer, hconsumer, rfl⟩ := Plan.mem_ids.mp hids
    have hlt := v.idxOf_lt (Plan.mem_producersOf.mpr hfeeds)
    have hlength := List.idxOf_lt_length_iff.mpr (v.order_spec.1.mem_iff.mpr hids)
    exact ih _ (by omega) consumer hconsumer rfl

/-- What holds of the sink and goes from an operator to its producers holds of all operators. -/
lemma forall_of_consumers (hsink : P v.sink) (hstep : ∀ operator ∈ v.plan.operators,
    P operator.id → ∀ p ∈ v.plan.producersOf operator.id, P p) :
    ∀ operator ∈ v.plan.operators, P operator.id := by
  refine v.forall_of_all_consumers fun operator hmem hconsumers => ?_
  by_cases hid : operator.id = v.sink
  · rwa [hid]
  · have hfeeds := (not_congr (v.eq_sink_iff hmem)).mp hid
    push Not at hfeeds
    obtain ⟨consumer, hfeeds⟩ := hfeeds
    have hids := ((Plan.holds_of_valid v .resolved).ids_of_feeds hfeeds).2
    obtain ⟨next, hnext, rfl⟩ := Plan.mem_ids.mp hids
    exact hstep next hnext (hconsumers _ (Plan.mem_consumersOf.mpr hfeeds)) _
      (Plan.mem_producersOf.mpr hfeeds)

end Induction

/-- The nodes of all operators are laid out, and only the sink has not been taken. -/
lemma foldlM_addNode (workers : Nat) :
    match v.order.foldlM (Layout.addNode v.plan workers) ⟨[], []⟩ with
    | .ok layout =>
      layout.Sound v.plan workers v.order.reverse {link | link.consumer ∈ v.order} ∧
        (layout.all.map PhysicalNode.id).Perm v.order
    | .error e => ∃ operator ∈ v.plan.operators,
        operator.kind.workers operator.id workers = .error e := by
  have hempty : Layout.Sound v.plan workers [] {link | link.consumer ∈ []} ⟨[], []⟩ := by
    simpa using Layout.sound_empty v.plan workers
  exact hempty.foldlM_addNode v.order_spec.2 v.nodup_order
    (fun id hid => v.order_spec.1.mem_iff.mp hid) rfl (by simp [Layout.all])

end ValidPlan

/-- A number of workers is refused as a matter of configuration. -/
lemma OperatorKind.workers_eq_error {id : OperatorId} {standard : Nat} {kind : OperatorKind}
    {e : Error} (h : kind.workers id standard = .error e) : ∃ cause, e = .config cause := by
  unfold OperatorKind.workers at h
  split at h
  · unfold OperatorKind.functionWorkers at h
    split at h
    · exact ⟨_, (Except.error.inj h).symm⟩
    · simp at h
    · simp at h
    · split_ifs at h
      exact ⟨_, (Except.error.inj h).symm⟩
    · simp at h
  all_goals simp at h

namespace Layout

variable {v : ValidPlan} {layout : Layout}

/-- When all links are taken, only the node of the sink is left. -/
lemma Sound.built_sink (h : layout.Sound v.plan workers v.order.reverse
    {link | link.consumer ∈ v.order}) {id : OperatorId} :
    id ∈ layout.built.map (·.1) ↔ id = v.sink := by
  have hresolved := Plan.holds_of_valid v .resolved
  have hids := v.order_spec.1
  have hfree : (∀ c, v.plan.Feeds id c → (⟨id, c⟩ : Link) ∉ {link : Link | link.consumer ∈ v.order})
      ↔ ∀ c, ¬ v.plan.Feeds id c := by
    refine forall_congr' fun c => ⟨fun hfree hc => ?_, fun hnot hc => absurd hc hnot⟩
    exact hfree hc (hids.mem_iff.mpr (hresolved.ids_of_feeds hc).2)
  rw [h.mem_built, hfree, List.mem_reverse, hids.mem_iff]
  constructor
  · rintro ⟨hid, hnone⟩
    obtain ⟨operator, hmem, rfl⟩ := Plan.mem_ids.mp hid
    exact (v.eq_sink_iff hmem).mpr hnone
  · rintro rfl
    obtain ⟨sink, hmem, hid⟩ := v.exists_sink
    refine ⟨Plan.mem_ids.mpr ⟨sink, hmem, hid⟩, ?_⟩
    have := (v.eq_sink_iff hmem).mp hid
    rwa [hid] at this

/-- When all links are taken, the connectors are those of the producers with several consumers. -/
lemma Sound.producers_iff (h : layout.Sound v.plan workers v.order.reverse
    {link | link.consumer ∈ v.order}) {id : OperatorId} :
    id ∈ layout.connectors.map (·.producer.id) ↔ 2 ≤ (v.plan.consumersOf id).length := by
  have hids := v.order_spec.1
  rw [h.mem_producers]
  refine ⟨fun h => h.2.1, fun htwo => ?_⟩
  obtain ⟨c, hc⟩ := List.exists_mem_of_length_pos (by omega : 0 < (v.plan.consumersOf id).length)
  have hfeeds := Plan.mem_consumersOf.mp hc
  obtain ⟨hid, hcid⟩ := (Plan.holds_of_valid v .resolved).ids_of_feeds hfeeds
  exact ⟨List.mem_reverse.mpr (hids.mem_iff.mpr hid), htwo, c, hfeeds, hids.mem_iff.mpr hcid⟩

/-- The sink taken out of a full layout leaves the connectors alone. -/
lemma Sound.realizes {sink : PhysicalNode} (h : layout.Sound v.plan workers v.order.reverse
    {link | link.consumer ∈ v.order}) (hnodes : (layout.all.map PhysicalNode.id).Perm v.order)
    (hsink : (v.sink, sink) ∈ layout.built)
    (hlast : layout.built.filter (·.1 != v.sink) = []) :
    PhysicalPlan.Realizes ⟨sink, layout.connectors⟩ v.plan v.sink workers := by
  have hperm := h.perm_all hsink
  rw [hlast] at hperm
  have hstands : ∀ n ∈ layout.all, n.StandsIn v.plan workers layout.connectors := by
    intro n hn
    rcases List.mem_append.mp hn with hn | hn
    · obtain ⟨entry, hentry, hn⟩ := List.mem_flatMap.mp hn
      exact h.built_stands entry hentry n hn
    · obtain ⟨spec, hspec, hn⟩ := List.mem_flatMap.mp hn
      obtain ⟨i, hi⟩ := List.getElem?_of_mem hspec
      exact (h.connector_stands i spec hi n hn).mono (List.take_prefix _ _)
  have hids : (layout.all.map PhysicalNode.id).Perm v.plan.ids := hnodes.trans v.order_spec.1
  have hmap : layout.all.map PhysicalNode.id =
      (layout.all.map PhysicalNode.operator).map (·.id) := by
    rw [List.map_map]
    rfl
  refine
    { root_eq := h.name_eq _ hsink
      nodes_perm := ?_
      stands := fun n hn => hstands n (hperm.mem_iff.mpr hn)
      id_eq := h.id_eq
      nodup_producers := h.nodup_producers
      mem_producers := fun id => h.producers_iff
      endpoints_eq := h.endpoints_eq }
  refine (hperm.symm.map _).trans ((List.perm_ext_iff_of_nodup ?_ ?_).mpr fun operator => ?_)
  · exact .of_map _ (hmap ▸ hids.nodup_iff.mpr v.plan.nodup_ids)
  · exact .of_map _ v.plan.nodup_ids
  · constructor
    · intro hmem
      obtain ⟨n, hn, rfl⟩ := List.mem_map.mp hmem
      exact (hstands n hn).operator_mem
    · intro hmem
      obtain ⟨n, hn, hid⟩ := List.mem_map.mp (hids.mem_iff.mpr (List.mem_map_of_mem hmem))
      rw [← Plan.operator_ext (hstands n hn).operator_mem hmem hid]
      exact List.mem_map_of_mem hn

end Layout

namespace ValidPlan

variable {v : ValidPlan} {physical : PhysicalPlan} {e : Error}

/-- Once all nodes are laid out, there is a physical plan with the connectors of the layout, and it
says the same. -/
lemma exists_physical {layout : Layout}
    (hlayout : v.order.foldlM (Layout.addNode v.plan workers) ⟨[], []⟩ = .ok layout) :
    ∃ physical, v.physical workers = .ok physical ∧ physical.connectors = layout.connectors ∧
      physical.Realizes v.plan v.sink workers := by
  have hfold := v.foldlM_addNode workers
  rw [hlayout] at hfold
  obtain ⟨hsound, hnodes⟩ := hfold
  obtain ⟨sink, hsink, htake⟩ := Layout.takeNode_of_mem_built (hsound.built_sink.mpr rfl)
  have hlast : layout.built.filter (·.1 != v.sink) = [] := by
    refine List.filter_eq_nil_iff.mpr fun entry hentry => ?_
    simpa using hsound.built_sink.mp (List.mem_map_of_mem hentry)
  rw [hlast] at htake
  refine ⟨⟨sink, layout.connectors⟩, ?_, rfl, hsound.realizes hnodes hsink hlast⟩
  rw [ValidPlan.physical, hlayout, Result.ok_bind, htake]
  rfl

/-- A physical plan has the connectors of a layout with all operators. -/
lemma exists_layout (h : v.physical workers = .ok physical) :
    ∃ layout, v.order.foldlM (Layout.addNode v.plan workers) ⟨[], []⟩ = .ok layout ∧
      physical.connectors = layout.connectors ∧ physical.Realizes v.plan v.sink workers := by
  match hlayout : v.order.foldlM (Layout.addNode v.plan workers) ⟨[], []⟩ with
  | .error e =>
    rw [ValidPlan.physical, hlayout] at h
    cases h
  | .ok layout =>
    obtain ⟨physical', hphysical, hrest⟩ := exists_physical hlayout
    rw [h, Except.ok.injEq] at hphysical
    exact ⟨layout, rfl, hphysical ▸ hrest⟩

lemma realizes_of_physical (h : v.physical workers = .ok physical) :
    physical.Realizes v.plan v.sink workers := by
  obtain ⟨layout, -, -, hrealizes⟩ := exists_layout h
  exact hrealizes

/-- Where no physical plan is made, the number of workers of some operator is refused. -/
lemma exists_refused (h : v.physical workers = .error e) :
    ∃ operator ∈ v.plan.operators, operator.kind.workers operator.id workers = .error e := by
  match hlayout : v.order.foldlM (Layout.addNode v.plan workers) ⟨[], []⟩ with
  | .error e' =>
    have hfold := v.foldlM_addNode workers
    rw [hlayout] at hfold
    rw [ValidPlan.physical, hlayout] at h
    cases h
    exact hfold
  | .ok layout =>
    obtain ⟨physical, hphysical, -⟩ := exists_physical hlayout
    rw [h] at hphysical
    cases hphysical

end ValidPlan

/-- A valid plan is laid out as a physical plan that says the same, unless the number of workers of
some operator is refused, which is then the error. -/
theorem ValidPlan.physical_realizes (v : ValidPlan) (workers : Nat) :
    match v.physical workers with
    | .ok physical => physical.Realizes v.plan v.sink workers
    | .error e => (∃ cause, e = .config cause) ∧
        ∃ operator ∈ v.plan.operators, operator.kind.workers operator.id workers = .error e := by
  match hphysical : v.physical workers with
  | .ok physical => exact realizes_of_physical hphysical
  | .error e =>
    obtain ⟨operator, hmem, herror⟩ := exists_refused hphysical
    exact ⟨OperatorKind.workers_eq_error herror, operator, hmem, herror⟩

end Dataflow
