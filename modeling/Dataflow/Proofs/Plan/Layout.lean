import Mathlib.Data.List.Perm.Basic
import Mathlib.Data.Set.Insert
import Dataflow.Plan.Physical
import Dataflow.Proofs.Lists
import Dataflow.Proofs.Plan.Shape

/-!
# Layouts

A layout under way holds the nodes that no consumer has taken yet and the connectors made so far.
Which of them there are is told by the operators that were laid out and by the links that were
taken: a node stays as long as no link from it was taken, and a connector is there once a link from
an operator with several consumers was taken.
-/

namespace Dataflow

open ShapeCondition

/-! ### Nodes that stand for operators -/

/-- An input stands for a link: a node of its own for the only consumer of a producer, and one of
several consumers reads the endpoint of its place among them. -/
def PhysicalInput.StandsFor (p : Plan) (connectors : List ConnectorSpec) : PhysicalInput → Prop
  | .direct link node => node.id = link.producer ∧ (p.consumersOf link.producer).length = 1
  | .endpoint link connector index =>
    2 ≤ (p.consumersOf link.producer).length ∧
      (∃ spec, connectors[connector]? = some spec ∧ spec.producer.id = link.producer) ∧
      (p.consumersOf link.producer)[index]? = some link.consumer

/-- A node stands for an operator of a plan: it has the number of workers of the operator, and its
inputs stand for the links into the operator, in the order of their declaration. -/
structure PhysicalNode.StandsIn (p : Plan) (workers : Nat) (connectors : List ConnectorSpec)
    (n : PhysicalNode) : Prop where
  operator_mem : n.operator ∈ p.operators
  workers_eq : n.operator.kind.workers n.id workers = .ok n.workers
  links_eq : n.inputs.map PhysicalInput.link = p.links.filter (·.consumer = n.id)
  inputs : ∀ input ∈ n.inputs, input.StandsFor p connectors

variable {p : Plan} {workers : Nat} {connectors connectors' : List ConnectorSpec}

lemma PhysicalInput.StandsFor.mono {input : PhysicalInput} (h : input.StandsFor p connectors)
    (hgrows : connectors <+: connectors') : input.StandsFor p connectors' := by
  cases input with
  | direct link node => exact h
  | endpoint link connector index =>
    obtain ⟨htwo, ⟨spec, hspec, hid⟩, hindex⟩ := h
    exact ⟨htwo, ⟨spec, getElem?_of_prefix hgrows hspec, hid⟩, hindex⟩

lemma PhysicalNode.StandsIn.mono {n : PhysicalNode} (h : n.StandsIn p workers connectors)
    (hgrows : connectors <+: connectors') : n.StandsIn p workers connectors' where
  operator_mem := h.operator_mem
  workers_eq := h.workers_eq
  links_eq := h.links_eq
  inputs := fun input hinput => (h.inputs input hinput).mono hgrows

/-! ### Nodes under a node -/

@[simp] lemma PhysicalInput.link_direct (link : Link) (node : PhysicalNode) :
    (PhysicalInput.direct link node).link = link := rfl

@[simp] lemma PhysicalInput.link_endpoint (link : Link) (connector : ConnectorId) (index : Nat) :
    (PhysicalInput.endpoint link connector index).link = link := rfl

@[simp] lemma PhysicalInput.allOf_nil : PhysicalInput.allOf [] = [] := by
  simp [PhysicalInput.allOf]

lemma PhysicalInput.allOf_cons (input : PhysicalInput) (inputs : List PhysicalInput) :
    PhysicalInput.allOf (input :: inputs) =
      PhysicalInput.allOf [input] ++ PhysicalInput.allOf inputs := by
  cases input <;> simp [PhysicalInput.allOf]

@[simp] lemma PhysicalInput.allOf_direct (link : Link) (node : PhysicalNode) :
    PhysicalInput.allOf [.direct link node] = node.all := by
  simp [PhysicalInput.allOf]

@[simp] lemma PhysicalInput.allOf_endpoint (link : Link) (connector : ConnectorId) (index : Nat) :
    PhysicalInput.allOf [.endpoint link connector index] = [] := by
  simp [PhysicalInput.allOf]

lemma PhysicalNode.all_eq (n : PhysicalNode) : n.all = n :: PhysicalInput.allOf n.inputs := by
  cases n with
  | node operator workers inputs => simp [PhysicalNode.all, PhysicalNode.inputs]

namespace Layout

variable {taken : Set Link} {done : List OperatorId} {layout : Layout}

/-- All nodes of a layout. -/
def all (layout : Layout) : List PhysicalNode :=
  layout.built.flatMap (·.2.all) ++ layout.connectors.flatMap (·.producer.all)

/-- The state of a layout after some operators were laid out and some links were taken. -/
structure Sound (p : Plan) (workers : Nat) (done : List OperatorId) (taken : Set Link)
    (layout : Layout) : Prop where
  nodup_built : (layout.built.map (·.1)).Nodup
  name_eq : ∀ entry ∈ layout.built, entry.2.id = entry.1
  mem_built : ∀ id, id ∈ layout.built.map (·.1) ↔
    id ∈ done ∧ ∀ consumer, p.Feeds id consumer → ⟨id, consumer⟩ ∉ taken
  built_stands : ∀ entry ∈ layout.built, ∀ n ∈ entry.2.all,
    n.StandsIn p workers layout.connectors
  nodup_producers : (layout.connectors.map (·.producer.id)).Nodup
  mem_producers : ∀ id, id ∈ layout.connectors.map (·.producer.id) ↔
    id ∈ done ∧ 2 ≤ (p.consumersOf id).length ∧
      ∃ consumer, p.Feeds id consumer ∧ ⟨id, consumer⟩ ∈ taken
  id_eq : ∀ i (spec : ConnectorSpec), layout.connectors[i]? = some spec → spec.id = i
  endpoints_eq : ∀ spec ∈ layout.connectors,
    spec.endpoints = (p.consumersOf spec.producer.id).length
  connector_stands : ∀ i (spec : ConnectorSpec), layout.connectors[i]? = some spec →
    ∀ n ∈ spec.producer.all, n.StandsIn p workers (layout.connectors.take i)

lemma sound_empty (p : Plan) (workers : Nat) : Sound p workers [] ∅ ⟨[], []⟩ where
  nodup_built := by simp
  name_eq := by simp
  mem_built := by simp
  built_stands := by simp
  nodup_producers := by simp
  mem_producers := by simp
  id_eq := by simp
  endpoints_eq := by simp
  connector_stands := by simp

/-! ### Taking a node -/

/-- The node of a name is taken out of those that have other names. -/
lemma perm_of_mem_built {built : List (OperatorId × PhysicalNode)}
    (hnodup : (built.map (·.1)).Nodup) {id : OperatorId} {node : PhysicalNode}
    (hmem : (id, node) ∈ built) : built.Perm ((id, node) :: built.filter (·.1 != id)) := by
  induction built with
  | nil => simp at hmem
  | cons entry built ih =>
    rw [List.map_cons, List.nodup_cons] at hnodup
    rcases List.mem_cons.mp hmem with rfl | hmem
    · have hothers : built.filter (·.1 != id) = built := by
        refine List.filter_eq_self.mpr fun other hother => ?_
        simp only [bne_iff_ne, ne_eq]
        rintro rfl
        exact hnodup.1 (List.mem_map.mpr ⟨other, hother, rfl⟩)
      simp [hothers]
    · have hne : entry.1 ≠ id := by
        rintro rfl
        exact hnodup.1 (List.mem_map.mpr ⟨_, hmem, rfl⟩)
      rw [List.filter_cons_of_pos (by simpa using hne)]
      exact ((ih hnodup.2 hmem).cons entry).trans (.swap _ _ _)

lemma takeNode_of_mem_built {id : OperatorId}
    (hid : id ∈ layout.built.map (·.1)) :
    ∃ node, (id, node) ∈ layout.built ∧ layout.takeNode id =
      .ok (node, { layout with built := layout.built.filter (·.1 != id) }) := by
  cases hfind : layout.built.find? (·.1 == id) with
  | none =>
    obtain ⟨entry, hentry, rfl⟩ := List.mem_map.mp hid
    simpa using List.find?_eq_none.mp hfind entry hentry
  | some entry =>
    have hname : entry.1 = id := by simpa using List.find?_some hfind
    refine ⟨entry.2, ?_, by simp [Layout.takeNode, hfind]⟩
    rw [← hname]
    exact List.mem_of_find?_eq_some hfind

/-- A node goes as soon as the first link from it is taken. -/
lemma Sound.mem_built_insert (h : Sound p workers done taken layout)
    {producer consumer : OperatorId} (hfeeds : p.Feeds producer consumer) (id : OperatorId) :
    id ∈ (layout.built.filter (·.1 != producer)).map (·.1) ↔
      id ∈ done ∧ ∀ c, p.Feeds id c → ⟨id, c⟩ ∉ insert ⟨producer, consumer⟩ taken := by
  have hfilter : id ∈ (layout.built.filter (·.1 != producer)).map (·.1) ↔
      id ∈ layout.built.map (·.1) ∧ id ≠ producer := by
    simp only [List.mem_map, List.mem_filter, bne_iff_ne]
    constructor
    · rintro ⟨entry, ⟨hentry, hne⟩, rfl⟩
      exact ⟨⟨entry, hentry, rfl⟩, hne⟩
    · rintro ⟨⟨entry, hentry, rfl⟩, hne⟩
      exact ⟨entry, ⟨hentry, hne⟩, rfl⟩
  rw [hfilter, h.mem_built]
  simp only [Set.mem_insert_iff, not_or, Link.mk.injEq, not_and]
  constructor
  · rintro ⟨⟨hdone, hfree⟩, hne⟩
    exact ⟨hdone, fun c hc => ⟨fun heq => absurd heq hne, hfree c hc⟩⟩
  · rintro ⟨hdone, hfree⟩
    refine ⟨⟨hdone, fun c hc => (hfree c hc).2⟩, ?_⟩
    rintro rfl
    exact (hfree consumer hfeeds).1 rfl rfl

/-- The node of a producer with one consumer goes to this consumer. -/
lemma Sound.takeOnly (h : Sound p workers done taken layout) {producer consumer : OperatorId}
    (hfeeds : p.Feeds producer consumer) (hone : (p.consumersOf producer).length = 1) :
    Sound p workers done (insert ⟨producer, consumer⟩ taken)
      { layout with built := layout.built.filter (·.1 != producer) } where
  nodup_built := h.nodup_built.sublist (List.filter_sublist.map _)
  name_eq := fun entry hentry => h.name_eq entry (List.mem_of_mem_filter hentry)
  mem_built := h.mem_built_insert hfeeds
  built_stands := fun entry hentry => h.built_stands entry (List.mem_of_mem_filter hentry)
  nodup_producers := h.nodup_producers
  mem_producers := by
    intro id
    rw [h.mem_producers]
    refine and_congr_right fun _ => and_congr_right fun htwo => exists_congr fun c => ?_
    have hne : id ≠ producer := by
      rintro rfl
      omega
    simp [hne]
  id_eq := h.id_eq
  endpoints_eq := h.endpoints_eq
  connector_stands := h.connector_stands

/-- The node of a producer with several consumers goes to a new connector with the first link. -/
lemma Sound.takeFirst (h : Sound p workers done taken layout) {producer consumer : OperatorId}
    {node : PhysicalNode} (hfeeds : p.Feeds producer consumer)
    (htwo : 2 ≤ (p.consumersOf producer).length)
    (hnode : (producer, node) ∈ layout.built) :
    Sound p workers done (insert ⟨producer, consumer⟩ taken)
      { built := layout.built.filter (·.1 != producer),
        connectors := layout.connectors ++
          [⟨layout.connectors.length, node, (p.consumersOf producer).length⟩] } := by
  have hname : node.id = producer := h.name_eq _ hnode
  obtain ⟨hdone, hfree⟩ := (h.mem_built producer).mp (List.mem_map_of_mem hnode)
  have hnew : producer ∉ layout.connectors.map (·.producer.id) := by
    intro hmem
    obtain ⟨-, -, c, hc, htaken⟩ := (h.mem_producers producer).mp hmem
    exact hfree c hc htaken
  have hgrows : layout.connectors <+: layout.connectors ++
      [⟨layout.connectors.length, node, (p.consumersOf producer).length⟩] := List.prefix_append _ _
  refine
    { nodup_built := h.nodup_built.sublist (List.filter_sublist.map _)
      name_eq := fun entry hentry => h.name_eq entry (List.mem_of_mem_filter hentry)
      mem_built := h.mem_built_insert hfeeds
      built_stands := fun entry hentry n hn =>
        (h.built_stands entry (List.mem_of_mem_filter hentry) n hn).mono hgrows
      nodup_producers := ?_
      mem_producers := ?_
      id_eq := ?_
      endpoints_eq := ?_
      connector_stands := ?_ }
  · rw [List.map_append, List.map_singleton, hname]
    exact List.nodup_append.mpr ⟨h.nodup_producers, by simp, by
      rintro a ha b hb rfl
      rw [List.mem_singleton] at hb
      exact hnew (hb ▸ ha)⟩
  · intro id
    simp only [List.map_append, List.map_singleton, List.mem_append, List.mem_singleton, hname,
      h.mem_producers, Set.mem_insert_iff, Link.mk.injEq]
    constructor
    · rintro (⟨hid, hlen, c, hc, htaken⟩ | rfl)
      · exact ⟨hid, hlen, c, hc, .inr htaken⟩
      · exact ⟨hdone, htwo, consumer, hfeeds, .inl ⟨rfl, rfl⟩⟩
    · rintro ⟨hid, hlen, c, hc, ⟨rfl, rfl⟩ | htaken⟩
      · exact .inr rfl
      · exact .inl ⟨hid, hlen, c, hc, htaken⟩
  · intro i spec hspec
    rcases getElem?_concat_eq_some_iff.mp hspec with hspec | ⟨rfl, rfl⟩
    · exact h.id_eq i spec hspec
    · rfl
  · intro spec hspec
    rcases List.mem_append.mp hspec with hspec | hspec
    · exact h.endpoints_eq spec hspec
    · obtain rfl := List.mem_singleton.mp hspec
      rw [hname]
  · intro i spec hspec n hn
    rcases getElem?_concat_eq_some_iff.mp hspec with hspec | ⟨rfl, rfl⟩
    · rw [List.take_append_of_le_length (List.getElem?_eq_some_iff.mp hspec).1.le]
      exact h.connector_stands i spec hspec n hn
    · rw [List.take_left]
      exact h.built_stands _ hnode n hn

/-- A further link is taken from a connector that is there. -/
lemma Sound.takeFurther (h : Sound p workers done taken layout) {producer consumer : OperatorId}
    (hfeeds : p.Feeds producer consumer)
    (hconnector : producer ∈ layout.connectors.map (·.producer.id)) :
    Sound p workers done (insert ⟨producer, consumer⟩ taken) layout := by
  obtain ⟨hdone, htwo, c, hc, htaken⟩ := (h.mem_producers producer).mp hconnector
  have hgone : layout.built.filter (·.1 != producer) = layout.built := by
    refine List.filter_eq_self.mpr fun entry hentry => ?_
    simp only [bne_iff_ne]
    rintro rfl
    exact ((h.mem_built entry.1).mp (List.mem_map_of_mem hentry)).2 c hc htaken
  refine { h with mem_built := ?_, mem_producers := ?_ }
  · intro id
    rw [← h.mem_built_insert hfeeds, hgone]
  · intro id
    rw [h.mem_producers]
    constructor
    · rintro ⟨hid, hlen, c, hc, htaken⟩
      exact ⟨hid, hlen, c, hc, .inr htaken⟩
    · rintro ⟨hid, hlen, c', hc', heq | htaken'⟩
      · obtain ⟨rfl, rfl⟩ := Link.mk.injEq .. ▸ heq
        exact ⟨hdone, htwo, c, hc, htaken⟩
      · exact ⟨hid, hlen, c', hc', htaken'⟩

/-! ### Inputs -/

lemma exists_findIdx?_consumersOf {producer consumer : OperatorId}
    (hfeeds : p.Feeds producer consumer) :
    ∃ index, (p.consumersOf producer).findIdx? (· == consumer) = some index ∧
      (p.consumersOf producer)[index]? = some consumer := by
  have hmem := Plan.mem_consumersOf.mpr hfeeds
  cases hfind : (p.consumersOf producer).findIdx? (· == consumer) with
  | none =>
    simpa using List.findIdx?_eq_none_iff.mp hfind consumer hmem
  | some index =>
    obtain ⟨hlt, hconsumer, -⟩ := List.findIdx?_eq_some_iff_getElem.mp hfind
    refine ⟨index, rfl, ?_⟩
    rw [List.getElem?_eq_getElem hlt, beq_iff_eq.mp hconsumer]

lemma Sound.perm_all (h : Sound p workers done taken layout) {id : OperatorId} {node : PhysicalNode}
    (hnode : (id, node) ∈ layout.built) :
    layout.all.Perm (node.all ++
      ({ layout with built := layout.built.filter (·.1 != id) } : Layout).all) := by
  simp only [all, ← List.append_assoc]
  exact ((perm_of_mem_built h.nodup_built hnode).flatMap_right _).append_right _

/-- The connector of a producer is found or made. -/
lemma Sound.connectorFor (h : Sound p workers done taken layout) {producer consumer : OperatorId}
    (hdone : producer ∈ done) (hfeeds : p.Feeds producer consumer)
    (htwo : 2 ≤ (p.consumersOf producer).length) :
    ∃ connector layout',
      layout.connectorFor producer (p.consumersOf producer).length = .ok (connector, layout') ∧
      Sound p workers done (insert ⟨producer, consumer⟩ taken) layout' ∧
      (∃ spec, layout'.connectors[connector]? = some spec ∧ spec.producer.id = producer) ∧
      layout.connectors <+: layout'.connectors ∧ layout.all.Perm layout'.all := by
  cases hfind : layout.connectors.find? (·.producer.id == producer) with
  | some spec =>
    have hmem : spec ∈ layout.connectors := List.mem_of_find?_eq_some hfind
    have hproducer : spec.producer.id = producer := by simpa using List.find?_some hfind
    obtain ⟨i, hi⟩ := List.getElem?_of_mem hmem
    refine ⟨spec.id, layout, by simp [Layout.connectorFor, hfind], ?_, ⟨spec, ?_, hproducer⟩,
      List.prefix_refl _, .refl _⟩
    · exact h.takeFurther hfeeds (List.mem_map.mpr ⟨spec, hmem, hproducer⟩)
    · rwa [h.id_eq i spec hi]
  | none =>
    -- no link from the producer was taken, since it has no connector
    have hbuilt : producer ∈ layout.built.map (·.1) := by
      refine (h.mem_built producer).mpr ⟨hdone, fun c hc htaken => ?_⟩
      obtain ⟨spec, hspec, hid⟩ :=
        List.mem_map.mp ((h.mem_producers producer).mpr ⟨hdone, htwo, c, hc, htaken⟩)
      simpa [hid] using List.find?_eq_none.mp hfind spec hspec
    obtain ⟨node, hnode, htake⟩ := takeNode_of_mem_built hbuilt
    refine ⟨layout.connectors.length, _, by simp [Layout.connectorFor, hfind, htake],
      h.takeFirst hfeeds htwo hnode, ?_, List.prefix_append _ _, ?_⟩
    · exact ⟨_, getElem?_concat_eq_some_iff.mpr (.inr ⟨rfl, rfl⟩), h.name_eq _ hnode⟩
    · refine (h.perm_all hnode).trans ?_
      simp only [all, List.flatMap_append, List.flatMap_cons, List.flatMap_nil, List.append_nil]
      rw [← List.append_assoc (List.flatMap _ _)]
      exact List.perm_append_comm

/-- An input of a consumer is found, stands for the link, and takes over the nodes under it. -/
lemma Sound.addInput (h : Sound p workers done taken layout) {producer consumer : OperatorId}
    (hdone : producer ∈ done) (hfeeds : p.Feeds producer consumer)
    (hfree : ⟨producer, consumer⟩ ∉ taken) :
    ∃ input layout', Layout.addInput p consumer layout producer = .ok (input, layout') ∧
      Sound p workers done (insert ⟨producer, consumer⟩ taken) layout' ∧
      input.link = ⟨producer, consumer⟩ ∧ input.StandsFor p layout'.connectors ∧
      (∀ n ∈ PhysicalInput.allOf [input], n.StandsIn p workers layout'.connectors) ∧
      layout.connectors <+: layout'.connectors ∧
      layout.all.Perm (PhysicalInput.allOf [input] ++ layout'.all) := by
  have hmem := Plan.mem_consumersOf.mpr hfeeds
  have hpos := List.length_pos_of_mem hmem
  by_cases hone : (p.consumersOf producer).length = 1
  · have hbuilt : producer ∈ layout.built.map (·.1) := by
      refine (h.mem_built producer).mpr ⟨hdone, fun c hc htaken => ?_⟩
      obtain ⟨only, honly⟩ := List.length_eq_one_iff.mp hone
      have hc := Plan.mem_consumersOf.mpr hc
      rw [honly, List.mem_singleton] at hmem hc
      exact hfree (hmem ▸ hc ▸ htaken)
    obtain ⟨node, hnode, htake⟩ := takeNode_of_mem_built hbuilt
    refine ⟨.direct ⟨producer, consumer⟩ node, _, by simp [Layout.addInput, hone, htake],
      h.takeOnly hfeeds hone, rfl, ⟨h.name_eq _ hnode, hone⟩, ?_, List.prefix_refl _, ?_⟩
    · rw [PhysicalInput.allOf_direct]
      exact h.built_stands _ hnode
    · rw [PhysicalInput.allOf_direct]
      exact h.perm_all hnode
  · have htwo : 2 ≤ (p.consumersOf producer).length := by omega
    obtain ⟨connector, layout', hconnector, hsound, hspec, hgrows, hperm⟩ :=
      h.connectorFor hdone hfeeds htwo
    obtain ⟨index, hindex, hat⟩ := exists_findIdx?_consumersOf hfeeds
    refine ⟨.endpoint ⟨producer, consumer⟩ connector index, layout',
      by simp [Layout.addInput, hone, hconnector, hindex], hsound, rfl, ⟨htwo, hspec, hat⟩,
      by simp, hgrows, by simpa using hperm⟩

/-- The inputs of a consumer are found, stand for the links, and take over the nodes under them. -/
lemma Sound.addInputs {consumer : OperatorId} {producers : List OperatorId}
    (h : Sound p workers done taken layout) (hnodup : producers.Nodup)
    (hall : ∀ producer ∈ producers, producer ∈ done ∧ p.Feeds producer consumer ∧
      ⟨producer, consumer⟩ ∉ taken) :
    ∃ inputs layout', Layout.addInputs p consumer layout producers = .ok (inputs, layout') ∧
      Sound p workers done (taken ∪ {link | link.producer ∈ producers ∧ link.consumer = consumer})
        layout' ∧
      inputs.map PhysicalInput.link = producers.map (⟨·, consumer⟩) ∧
      (∀ input ∈ inputs, input.StandsFor p layout'.connectors) ∧
      (∀ n ∈ PhysicalInput.allOf inputs, n.StandsIn p workers layout'.connectors) ∧
      layout.connectors <+: layout'.connectors ∧
      layout.all.Perm (PhysicalInput.allOf inputs ++ layout'.all) := by
  induction producers generalizing taken layout with
  | nil =>
    refine ⟨[], layout, rfl, ?_, rfl, by simp, by simp, List.prefix_refl _, by simp⟩
    simpa using h
  | cons producer producers ih =>
    rw [List.nodup_cons] at hnodup
    obtain ⟨hdone, hfeeds, hfree⟩ := hall producer List.mem_cons_self
    obtain ⟨input, next, hinput, hsound, hlink, hstands, hunder, hgrows, hperm⟩ :=
      h.addInput hdone hfeeds hfree
    obtain ⟨inputs, last, hinputs, hsound', hlinks, hstands', hunder', hgrows', hperm'⟩ :=
      ih hsound hnodup.2 fun other hother => by
        obtain ⟨hdone, hfeeds, hfree⟩ := hall other (List.mem_cons_of_mem _ hother)
        refine ⟨hdone, hfeeds, ?_⟩
        rintro (heq | htaken)
        · obtain rfl : other = producer := congrArg Link.producer heq
          exact hnodup.1 hother
        · exact hfree htaken
    refine ⟨input :: inputs, last, by simp [Layout.addInputs, hinput, hinputs], ?_,
      by simp [hlink, hlinks], ?_, ?_, hgrows.trans hgrows', ?_⟩
    · convert hsound' using 1
      ext ⟨a, b⟩
      simp only [Set.mem_union, Set.mem_ofPred_eq, Set.mem_insert_iff, List.mem_cons, Link.mk.injEq]
      tauto
    · intro other hother
      rcases List.mem_cons.mp hother with rfl | hother
      · exact hstands.mono hgrows'
      · exact hstands' other hother
    · intro n hn
      rw [PhysicalInput.allOf_cons] at hn
      rcases List.mem_append.mp hn with hn | hn
      · exact (hunder n hn).mono hgrows'
      · exact hunder' n hn
    · rw [PhysicalInput.allOf_cons, List.append_assoc]
      exact hperm.trans (hperm'.append_left _)

/-! ### Nodes -/

lemma map_producersOf (p : Plan) (id : OperatorId) :
    (p.producersOf id).map (⟨·, id⟩) = p.links.filter (·.consumer = id) := by
  simp only [Plan.producersOf, List.map_map, beq_eq_decide]
  conv_rhs => rw [← List.map_id (p.links.filter _)]
  refine List.map_congr_left fun link hlink => ?_
  obtain rfl : link.consumer = id := by simpa using List.of_mem_filter hlink
  rfl

lemma nodup_producersOf (p : Plan) (id : OperatorId) : (p.producersOf id).Nodup := by
  have h := p.distinct.filter (·.consumer = id)
  rw [← map_producersOf] at h
  exact h.of_map _

lemma mem_links_into_iff {id a c : OperatorId} (hfeeds : p.Feeds a c) :
    (⟨a, c⟩ : Link) ∈ ({link | link.consumer ∈ done} ∪
      {link | link.producer ∈ p.producersOf id ∧ link.consumer = id} : Set Link) ↔
      c ∈ id :: done := by
  simp only [Set.mem_union, Set.mem_ofPred_eq, List.mem_cons, Plan.mem_producersOf]
  constructor
  · rintro (h | ⟨-, rfl⟩)
    · exact .inr h
    · exact .inl rfl
  · rintro (rfl | h)
    · exact .inr ⟨hfeeds, rfl⟩
    · exact .inl h

/-- A node whose inputs were found is put with those that nobody has taken. -/
lemma Sound.addBuilt {operator : Operator} {count : Nat} {inputs : List PhysicalInput}
    (h : Sound p workers done ({link | link.consumer ∈ done} ∪
      {link | link.producer ∈ p.producersOf operator.id ∧ link.consumer = operator.id}) layout)
    (hnode : ∀ n ∈ (PhysicalNode.node operator count inputs).all,
      n.StandsIn p workers layout.connectors)
    (hnew : operator.id ∉ done)
    (hconsumers : ∀ c, p.Feeds operator.id c → c ∉ operator.id :: done) :
    Sound p workers (operator.id :: done) {link | link.consumer ∈ operator.id :: done}
      { layout with built := (operator.id, .node operator count inputs) :: layout.built } := by
  have hfresh : operator.id ∉ layout.built.map (·.1) := fun hmem =>
    hnew ((h.mem_built operator.id).mp hmem).1
  refine
    { nodup_built := List.nodup_cons.mpr ⟨hfresh, h.nodup_built⟩
      name_eq := ?_
      mem_built := ?_
      built_stands := ?_
      nodup_producers := h.nodup_producers
      mem_producers := ?_
      id_eq := h.id_eq
      endpoints_eq := h.endpoints_eq
      connector_stands := h.connector_stands }
  · intro entry hentry
    rcases List.mem_cons.mp hentry with rfl | hentry
    · rfl
    · exact h.name_eq entry hentry
  · intro id
    rw [List.map_cons, List.mem_cons, h.mem_built, List.mem_cons]
    constructor
    · rintro (rfl | ⟨hdone, hfree⟩)
      · exact ⟨.inl rfl, hconsumers⟩
      · exact ⟨.inr hdone, fun c hc => mt (mem_links_into_iff hc).mpr (hfree c hc)⟩
    · rintro ⟨rfl | hdone, hfree⟩
      · exact .inl rfl
      · exact .inr ⟨hdone, fun c hc => mt (mem_links_into_iff hc).mp (hfree c hc)⟩
  · intro entry hentry n hn
    rcases List.mem_cons.mp hentry with rfl | hentry
    · exact hnode n hn
    · exact h.built_stands entry hentry n hn
  · intro id
    rw [h.mem_producers, List.mem_cons]
    constructor
    · rintro ⟨hdone, htwo, c, hc, htaken⟩
      exact ⟨.inr hdone, htwo, c, hc, (mem_links_into_iff hc).mp htaken⟩
    · rintro ⟨rfl | hdone, htwo, c, hc, htaken⟩
      · exact absurd htaken (hconsumers c hc)
      · exact ⟨hdone, htwo, c, hc, (mem_links_into_iff hc).mpr htaken⟩

/-- The node of one more operator is added, unless its number of workers is refused. -/
lemma Sound.addNode (h : Sound p workers done {link | link.consumer ∈ done} layout)
    {operator : Operator} (hmem : operator ∈ p.operators) (hnew : operator.id ∉ done)
    (hproducers : ∀ a, p.Feeds a operator.id → a ∈ done)
    (hconsumers : ∀ c, p.Feeds operator.id c → c ∉ operator.id :: done) :
    match layout.addNode p workers operator.id with
    | .ok layout' =>
      Sound p workers (operator.id :: done) {link | link.consumer ∈ operator.id :: done} layout' ∧
        (layout'.all.map PhysicalNode.id).Perm (operator.id :: layout.all.map PhysicalNode.id)
    | .error e => operator.kind.workers operator.id workers = .error e := by
  have hoperator := Plan.operator?_eq_some_iff.mpr ⟨hmem, rfl⟩
  obtain ⟨inputs, next, hinputs, hsound, hlinks, hstands, hunder, hgrows, hperm⟩ :=
    h.addInputs (nodup_producersOf p operator.id) fun a ha => by
      have hfeeds := Plan.mem_producersOf.mp ha
      exact ⟨hproducers a hfeeds, hfeeds, hnew⟩
  cases hworkers : operator.kind.workers operator.id workers with
  | error e => simp [Layout.addNode, hoperator, hinputs, hworkers]
  | ok count =>
    have hadd : layout.addNode p workers operator.id =
        .ok { next with built := (operator.id, .node operator count inputs) :: next.built } := by
      simp [Layout.addNode, hoperator, hinputs, hworkers]
    rw [hadd]
    refine ⟨hsound.addBuilt (fun n hn => ?_) hnew hconsumers, ?_⟩
    · rw [PhysicalNode.all_eq] at hn
      rcases List.mem_cons.mp hn with rfl | hn
      · exact ⟨hmem, hworkers, hlinks.trans (map_producersOf p operator.id), hstands⟩
      · exact hunder n hn
    · have hall : ({ next with built := (operator.id, .node operator count inputs) :: next.built } :
          Layout).all =
            .node operator count inputs :: (PhysicalInput.allOf inputs ++ next.all) := by
        simp [all, PhysicalNode.all]
      rw [hall, List.map_cons]
      exact (hperm.symm.map _).cons _

/-- The nodes of operators are added one by one, producers first. -/
lemma Sound.foldlM_addNode {order rest : List OperatorId} (hsorted : p.Sorted order)
    (hnodup : order.Nodup) (hids : ∀ id ∈ order, id ∈ p.ids) (hrest : order = done.reverse ++ rest)
    (h : Sound p workers done {link | link.consumer ∈ done} layout)
    (hnodes : (layout.all.map PhysicalNode.id).Perm done) :
    match rest.foldlM (Layout.addNode p workers) layout with
    | .ok layout' => Sound p workers order.reverse {link | link.consumer ∈ order} layout' ∧
        (layout'.all.map PhysicalNode.id).Perm order
    | .error e =>
      ∃ operator ∈ p.operators, operator.kind.workers operator.id workers = .error e := by
  induction rest generalizing done layout with
  | nil =>
    obtain rfl : order = done.reverse := by simpa using hrest
    simp only [List.foldlM_nil]
    refine ⟨?_, hnodes.trans (List.reverse_perm done).symm⟩
    simpa using h
  | cons id rest ih =>
    obtain ⟨operator, hmem, rfl⟩ := Plan.mem_ids.mp (hids id (by simp [hrest]))
    have hdisjoint := List.nodup_append.mp (hrest ▸ hnodup)
    have hnew : operator.id ∉ done := fun hdone =>
      hdisjoint.2.2 _ (List.mem_reverse.mpr hdone) _ List.mem_cons_self rfl
    have hproducers : ∀ a, p.Feeds a operator.id → a ∈ done := fun a ha => by
      simpa using hsorted done.reverse operator.id rest hrest a ha
    have hconsumers : ∀ c, p.Feeds operator.id c → c ∉ operator.id :: done := fun c hc => by
      obtain ⟨hbefore, hne⟩ := (hrest ▸ hsorted).not_mem_of_feeds (hrest ▸ hnodup) hc
      simpa using ⟨hne, by simpa using hbefore⟩
    have hstep := h.addNode hmem hnew hproducers hconsumers
    rw [List.foldlM_cons]
    cases hadd : layout.addNode p workers operator.id with
    | error e =>
      rw [hadd] at hstep
      exact ⟨operator, hmem, hstep⟩
    | ok layout' =>
      rw [hadd] at hstep
      exact ih (by simp [hrest]) hstep.1 (hstep.2.trans (hnodes.cons _))

end Layout

end Dataflow
