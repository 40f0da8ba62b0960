import Mathlib.Data.Finset.Card
import Dataflow.Proofs.Plan.Physical
import Dataflow.Proofs.Tree.Build

/-!
# Connectors that ask for one another

The producer of a connector asks for the connectors that it reads, one after the other. Where no
connector leads back to itself by way of what is asked for first, not many of them can stand above
one another. A plan that realizes a valid plan has no connector that leads back to itself at all.
-/

namespace Dataflow

open Relation

mutual

/-- The endpoints that a node reads, in the order in which they are taken. -/
def PhysicalNode.endpoints : PhysicalNode → List (ConnectorId × Nat)
  | .node _ _ inputs => PhysicalInput.endpointsOf inputs

/-- The endpoints that a list of inputs reads. -/
def PhysicalInput.endpointsOf : List PhysicalInput → List (ConnectorId × Nat)
  | [] => []
  | .direct _ node :: inputs => node.endpoints ++ PhysicalInput.endpointsOf inputs
  | .endpoint _ c i :: inputs => (c, i) :: PhysicalInput.endpointsOf inputs

end

mutual

lemma PhysicalNode.asks_eq_map (n : PhysicalNode) : n.asks = n.endpoints.map Prod.fst := by
  match n with
  | .node operator workers inputs =>
    rw [PhysicalNode.asks, PhysicalNode.endpoints, PhysicalInput.asksOf_eq_map]

lemma PhysicalInput.asksOf_eq_map (inputs : List PhysicalInput) :
    PhysicalInput.asksOf inputs = (PhysicalInput.endpointsOf inputs).map Prod.fst := by
  match inputs with
  | [] => simp [PhysicalInput.asksOf, PhysicalInput.endpointsOf]
  | .direct _ node :: inputs =>
    simp [PhysicalInput.asksOf, PhysicalInput.endpointsOf, PhysicalNode.asks_eq_map node,
      PhysicalInput.asksOf_eq_map inputs]
  | .endpoint _ c i :: inputs =>
    simp [PhysicalInput.asksOf, PhysicalInput.endpointsOf, PhysicalInput.asksOf_eq_map inputs]

end

namespace PhysicalPlan

variable {p : PhysicalPlan} {c d : ConnectorId}

/-- The producer of a connector asks for a connector. -/
def Asks (p : PhysicalPlan) (c d : ConnectorId) : Prop :=
  ∃ spec, p.connector? c = some spec ∧ d ∈ spec.producer.asks

/-- The producer of a connector asks for a connector before all others. -/
def AsksFirst (p : PhysicalPlan) (c d : ConnectorId) : Prop :=
  ∃ spec, p.connector? c = some spec ∧ spec.producer.asks.head? = some d

/-- The sink asks for a connector, or for one that leads to it. -/
def LeadsTo (p : PhysicalPlan) (c : ConnectorId) : Prop :=
  ∃ first ∈ p.root.asks, ReflTransGen p.Asks first c

/-- No connector that the sink leads to leads back to itself by way of first questions. -/
def Grounded (p : PhysicalPlan) : Prop :=
  ∀ c, p.LeadsTo c → ¬TransGen p.AsksFirst c c

/-- So many connectors stand above one another, from a connector on, each asked for first. -/
def Tall (p : PhysicalPlan) : Nat → ConnectorId → Prop
  | 0, _ => True
  | count + 1, c => ∃ d, p.AsksFirst c d ∧ p.Tall count d

lemma AsksFirst.asks (h : p.AsksFirst c d) : p.Asks c d := by
  obtain ⟨spec, hspec, hhead⟩ := h
  exact ⟨spec, hspec, List.mem_of_mem_head? hhead⟩

lemma AsksFirst.lt (h : p.AsksFirst c d) : c < p.connectors.length := by
  obtain ⟨spec, hspec, -⟩ := h
  exact (List.getElem?_eq_some_iff.mp hspec).1

lemma LeadsTo.tail (h : p.LeadsTo c) (hasks : p.Asks c d) : p.LeadsTo d := by
  obtain ⟨first, hfirst, hleads⟩ := h
  exact ⟨first, hfirst, hleads.tail hasks⟩

lemma Tall.mono {count count' : Nat} (hle : count ≤ count') (h : p.Tall count' c) :
    p.Tall count c := by
  induction count generalizing count' c with
  | zero => trivial
  | succ count ih =>
    obtain ⟨count', rfl⟩ : ∃ k, count' = k + 1 := ⟨count' - 1, by omega⟩
    obtain ⟨d, hasks, hd⟩ := h
    exact ⟨d, hasks, ih (by omega) hd⟩

lemma Tall.exists_path {count : Nat} (h : p.Tall count c) :
    ∃ path : Nat → ConnectorId, path 0 = c ∧ ∀ i < count, p.AsksFirst (path i) (path (i + 1)) := by
  induction count generalizing c with
  | zero => exact ⟨fun _ => c, rfl, fun i hi => absurd hi (Nat.not_lt_zero i)⟩
  | succ count ih =>
    obtain ⟨d, hasks, hd⟩ := h
    obtain ⟨path, hstart, hpath⟩ := ih hd
    refine ⟨fun i => i.casesOn c path, rfl, ?_⟩
    intro i hi
    cases i with
    | zero =>
      subst hstart
      exact hasks
    | succ i => exact hpath i (by omega)

/-- Where more connectors stand above one another than there are, one of them comes twice. -/
lemma Tall.exists_cycle (h : p.Tall (p.connectors.length + 1) c) :
    ∃ d, ReflTransGen p.AsksFirst c d ∧ TransGen p.AsksFirst d d := by
  obtain ⟨path, rfl, hpath⟩ := h.exists_path
  obtain ⟨i, hi, j, hj, hne, heq⟩ := Finset.exists_ne_map_eq_of_card_lt_of_maps_to
    (s := Finset.range (p.connectors.length + 1)) (t := Finset.range p.connectors.length)
    (f := path) (by simp) fun i hi => by
      have hlt := (hpath i (Finset.mem_range.mp hi)).lt
      simpa using hlt
  have hbetween (i j : Nat) (hlt : i < j) (hj : j ≤ p.connectors.length) :
      TransGen p.AsksFirst (path i) (path j) := by
    induction j, hlt using Nat.le_induction with
    | base => exact .single (hpath i (by omega))
    | succ k _ ih => exact (ih (by omega)).tail (hpath k (by omega))
  wlog hlt : i < j generalizing i j with hswap
  · exact hswap j hj i hi hne.symm heq.symm (by omega)
  · have hj' := Finset.mem_range.mp hj
    refine ⟨path i, ?_, ?_⟩
    · rcases Nat.eq_zero_or_pos i with rfl | hpos
      · exact .refl
      · exact (hbetween 0 i hpos (by omega)).to_reflTransGen
    · have hloop := hbetween i j hlt (by omega)
      rwa [← heq] at hloop

lemma Grounded.not_tall (h : p.Grounded) (hc : p.LeadsTo c) :
    ¬p.Tall (p.connectors.length + 1) c := by
  intro htall
  obtain ⟨d, hcd, hcycle⟩ := htall.exists_cycle
  obtain ⟨first, hfirst, hleads⟩ := hc
  have hcd' := ReflTransGen.mono (fun _ _ => AsksFirst.asks) _ _ hcd
  exact h d ⟨first, hfirst, hleads.trans hcd'⟩ hcycle

end PhysicalPlan

namespace PhysicalPlan.Realizes

variable {physical : PhysicalPlan} {p : Plan} {sink : OperatorId} {workers : Nat}
  {c d : ConnectorId}

mutual

/-- What a node asks for is fed by an operator that leads to its own. -/
lemma feeds_of_asks (h : physical.Realizes p sink workers) {n : PhysicalNode}
    (hn : n.all ⊆ physical.nodes) (hd : d ∈ n.asks) :
    ∃ spec, physical.connector? d = some spec ∧ TransGen p.Feeds spec.producer.id n.id := by
  match n with
  | .node operator count inputs =>
    rw [PhysicalNode.asks] at hd
    rw [PhysicalNode.all] at hn
    have hstands := h.stands _ (hn List.mem_cons_self)
    have hinner : PhysicalInput.allOf inputs ⊆ physical.nodes :=
      fun m hm => hn (List.mem_cons_of_mem _ hm)
    refine feeds_of_asksOf h hinner (fun input hinput => ?_) hd
    have hlink : input.link ∈ p.links.filter (·.consumer = operator.id) := by
      have hmem := List.mem_map_of_mem (f := PhysicalInput.link) hinput
      exact hstands.links_eq ▸ hmem
    obtain ⟨hlink, hconsumer⟩ := List.mem_filter.mp hlink
    refine ⟨hstands.inputs input hinput, ?_⟩
    change (⟨input.link.producer, operator.id⟩ : Link) ∈ p.links
    rw [← of_decide_eq_true hconsumer]
    exact hlink

lemma feeds_of_asksOf (h : physical.Realizes p sink workers) {inputs : List PhysicalInput}
    {consumer : OperatorId} (hinputs : PhysicalInput.allOf inputs ⊆ physical.nodes)
    (hstands : ∀ input ∈ inputs, input.StandsFor p physical.connectors ∧
      p.Feeds input.link.producer consumer)
    (hd : d ∈ PhysicalInput.asksOf inputs) :
    ∃ spec, physical.connector? d = some spec ∧ TransGen p.Feeds spec.producer.id consumer := by
  match inputs with
  | [] => simp [PhysicalInput.asksOf] at hd
  | .direct link node :: inputs =>
    rw [PhysicalInput.allOf] at hinputs
    rw [PhysicalInput.asksOf, List.mem_append] at hd
    obtain ⟨hnode, hrest⟩ := List.append_subset.mp hinputs
    obtain ⟨⟨⟨hid, -⟩, hfeeds⟩, hstands⟩ := List.forall_mem_cons.mp hstands
    rcases hd with hd | hd
    · obtain ⟨spec, hspec, hleads⟩ := feeds_of_asks h hnode hd
      rw [hid] at hleads
      exact ⟨spec, hspec, hleads.tail hfeeds⟩
    · exact feeds_of_asksOf h hrest hstands hd
  | .endpoint link c i :: inputs =>
    rw [PhysicalInput.allOf] at hinputs
    rw [PhysicalInput.asksOf, List.mem_cons] at hd
    obtain ⟨⟨⟨-, ⟨spec, hspec, hid⟩, -⟩, hfeeds⟩, hstands⟩ := List.forall_mem_cons.mp hstands
    rcases hd with rfl | hd
    · exact ⟨spec, hspec, hid ▸ .single hfeeds⟩
    · exact feeds_of_asksOf h hinputs hstands hd

end

/-- Where a connector leads to another one, the operator that feeds the other one leads to that of
the first. -/
lemma feeds_of_leads (h : physical.Realizes p sink workers) (hcd : TransGen physical.Asks c d) :
    ∃ spec spec', physical.connector? c = some spec ∧ physical.connector? d = some spec' ∧
      TransGen p.Feeds spec'.producer.id spec.producer.id := by
  have hasks (c d : ConnectorId) (hcd : physical.Asks c d) :
      ∃ spec spec', physical.connector? c = some spec ∧ physical.connector? d = some spec' ∧
        TransGen p.Feeds spec'.producer.id spec.producer.id := by
    obtain ⟨spec, hspec, hd⟩ := hcd
    have hall : spec.producer.all ⊆ physical.nodes := by
      intro m hm
      apply List.mem_append_right
      exact List.mem_flatMap.mpr ⟨spec, List.mem_of_getElem? hspec, hm⟩
    obtain ⟨spec', hspec', hfeeds⟩ := feeds_of_asks h hall hd
    exact ⟨spec, spec', hspec, hspec', hfeeds⟩
  induction hcd with
  | single hcd => exact hasks _ _ hcd
  | tail _ hde ih =>
    obtain ⟨spec, spec', hspec, hspec', hfeeds⟩ := ih
    obtain ⟨mid, last, hmid, hlast, hfeeds'⟩ := hasks _ _ hde
    rw [hspec', Option.some.injEq] at hmid
    subst hmid
    exact ⟨spec, last, hspec, hlast, hfeeds'.trans hfeeds⟩

/-- In a plan that realizes an acyclic one no connector leads back to itself. -/
theorem not_asks_itself (h : physical.Realizes p sink workers)
    (hacyclic : ∀ id, ¬TransGen p.Feeds id id) (c : ConnectorId) :
    ¬TransGen physical.Asks c c := by
  intro hcycle
  obtain ⟨spec, spec', hspec, hspec', hfeeds⟩ := h.feeds_of_leads hcycle
  rw [hspec, Option.some.injEq] at hspec'
  subst hspec'
  exact hacyclic _ hfeeds

lemma grounded (h : physical.Realizes p sink workers)
    (hacyclic : ∀ id, ¬TransGen p.Feeds id id) : physical.Grounded := fun c _ hcycle =>
  h.not_asks_itself hacyclic c (TransGen.mono (fun _ _ => PhysicalPlan.AsksFirst.asks) _ _ hcycle)

end PhysicalPlan.Realizes

end Dataflow
