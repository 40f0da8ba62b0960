import Mathlib.Algebra.BigOperators.Group.Finset.Basic
import Dataflow.Proofs.Plan.Layout
import Dataflow.Proofs.Tree.Refusal

/-!
# Every operator is run by one node

While a tree is built, the operators of the nodes that are there, together with those under the
connectors that are still missing, stay the same but for the node that is being built. In the end no
connector is missing, and every node of the plan has become one node of the tree. The steps are told
with a bound on what there is if building stops, for plans that have one.
-/

namespace Dataflow

open Act

variable {σ ω : Type} {registry : Registry σ ω} {context : Context} {plan : PhysicalPlan}

/-- The operators of some physical nodes. -/
def operatorsOf (nodes : List PhysicalNode) : Multiset Operator :=
  ↑(nodes.map PhysicalNode.operator)

lemma operatorsOf_append (nodes nodes' : List PhysicalNode) :
    operatorsOf (nodes ++ nodes') = operatorsOf nodes + operatorsOf nodes' := by
  simp [operatorsOf]

lemma operatorsOf_all (n : PhysicalNode) :
    operatorsOf n.all = operatorsOf (PhysicalInput.allOf n.inputs) + {n.operator} := by
  rw [n.all_eq, ← List.singleton_append, operatorsOf_append, add_comm]
  rfl

namespace Scaffold

variable {s s' : Scaffold σ ω} {c : ConnectorId} {spec : ConnectorSpec} {k : Nat}

/-- The operators under a connector, as long as it is missing. -/
def owes (plan : PhysicalPlan) (s : Scaffold σ ω) (c : ConnectorId) : Multiset Operator :=
  match s.junctions[c]?, plan.connector? c with
  | some none, some spec => operatorsOf spec.producer.all
  | _, _ => 0

/-- The operators of the nodes that are there. -/
def running (s : Scaffold σ ω) : Multiset Operator :=
  ↑(s.nodes.map Node.operator)

/-- The operators of the nodes that are there and of those under the missing ones of the first
connectors. -/
def due (plan : PhysicalPlan) (k : Nat) (s : Scaffold σ ω) : Multiset Operator :=
  s.running + ∑ c ∈ Finset.range k, s.owes plan c

/-- The operators of the nodes that are there and of those under the connectors that are missing. -/
def census (plan : PhysicalPlan) (s : Scaffold σ ω) : Multiset Operator :=
  ↑(s.nodes.map Node.operator) + ∑ c ∈ Finset.range plan.connectors.length, s.owes plan c

lemma owes_missing (hmissing : s.Missing c) (hspec : plan.connector? c = some spec) :
    s.owes plan c = operatorsOf spec.producer.all := by
  rw [Missing] at hmissing
  rw [owes, hmissing, hspec]

lemma owes_eq_zero (h : ¬s.Missing c) : s.owes plan c = 0 := by
  rw [Missing] at h
  rw [owes]
  split
  · next hmissing _ => exact (h hmissing).elim
  · rfl

lemma owes_congr (h : s'.Missing c ↔ s.Missing c) : s'.owes plan c = s.owes plan c := by
  by_cases hc : s.Missing c
  · have hc' := h.mpr hc
    rw [Missing] at hc hc'
    rw [owes, owes, hc, hc']
  · rw [owes_eq_zero hc, owes_eq_zero fun hc' => hc (h.mp hc')]

lemma due_congr (hnodes : s'.nodes = s.nodes) (hmissing : ∀ c, s'.Missing c ↔ s.Missing c) :
    s'.due plan k = s.due plan k := by
  simp only [due, running, hnodes, owes_congr (hmissing _)]

lemma due_addNode (node : Node σ ω) :
    due plan k { s with nodes := s.nodes ++ [node] } = s.due plan k + {node.operator} := by
  have howes (c : ConnectorId) :
      owes plan { s with nodes := s.nodes ++ [node] } c = s.owes plan c := rfl
  simp only [due, running, howes, List.map_append, ← Multiset.coe_add, List.map_cons, List.map_nil,
    Multiset.coe_singleton]
  exact add_right_comm ..

/-- A connector that comes to be there owes nothing any more. -/
lemma due_set (hmissing : s.Missing c) (hspec : plan.connector? c = some spec) (hc : c < k)
    (junction : Junction) :
    due plan k { s with junctions := s.junctions.set c (some junction) } +
      operatorsOf spec.producer.all = s.due plan k := by
  have hlt : c < s.junctions.length := (List.getElem?_eq_some_iff.mp hmissing).1
  have hmem : c ∈ Finset.range k := Finset.mem_range.mpr hc
  have hother (d : ConnectorId) (hd : d ∈ (Finset.range k).erase c) :
      owes plan { s with junctions := s.junctions.set c (some junction) } d = s.owes plan d := by
    simp only [owes, List.getElem?_set_ne (Finset.ne_of_mem_erase hd).symm]
  rw [due, due, ← Finset.sum_erase_add _ _ hmem, ← Finset.sum_erase_add _ _ hmem,
    Finset.sum_congr rfl hother, owes_eq_zero (by simp [Missing, hlt]),
    owes_missing hmissing hspec, add_zero, add_assoc]
  rfl

/-- Before anything is built, everything under the connectors is owed. -/
lemma sum_owes_start (plan : PhysicalPlan) :
    ∑ c ∈ Finset.range plan.connectors.length,
      owes plan (⟨[], plan.connectors.map fun _ => none⟩ : Scaffold σ ω) c =
        operatorsOf (plan.connectors.flatMap (·.producer.all)) := by
  have howes (c : ConnectorId) :
      owes plan (⟨[], plan.connectors.map fun _ => none⟩ : Scaffold σ ω) c =
        (plan.connectors[c]?.map fun spec => operatorsOf spec.producer.all).getD 0 := by
    simp only [owes, List.getElem?_map, PhysicalPlan.connector?]
    cases plan.connectors[c]? <;> rfl
  simp only [howes]
  induction plan.connectors with
  | nil => rfl
  | cons spec specs ih =>
    rw [List.length_cons, Finset.sum_range_succ', List.flatMap_cons, operatorsOf_append, ← ih,
      add_comm]
    rfl

lemma due_start (plan : PhysicalPlan) :
    due plan plan.connectors.length
        (⟨[], plan.connectors.map fun _ => none⟩ : Scaffold σ ω) + operatorsOf plan.root.all =
      operatorsOf plan.nodes := by
  rw [due, sum_owes_start, running, List.map_nil, Multiset.coe_nil, zero_add, add_comm,
    ← operatorsOf_append]
  rfl

/-- A bound on what is there where building stops: it may be raised, and every state keeps to what
is due in it. -/
structure Bounds (plan : PhysicalPlan) (k : Nat)
    (bound : Multiset Operator → Scaffold σ ω → Prop) : Prop where
  mono : ∀ m m' s, m ≤ m' → bound m s → bound m' s
  of_due : ∀ s, bound (s.due plan k) s

lemma bounds_true : Bounds plan k fun _ (_ : Scaffold σ ω) => True where
  mono := fun _ _ _ _ => id
  of_due := fun _ => trivial

/-- An action adds some operators: so much more is due once it is done, and where it stops, what is
there keeps to a bound on that. -/
def AddsDue {α : Type} (plan : PhysicalPlan) (k : Nat)
    (bound : Multiset Operator → Scaffold σ ω → Prop) (m : Multiset Operator)
    (a : Build σ ω α) : Prop :=
  ∀ s, a.Answers s (fun _ => bound (s.due plan k + m)) fun _ s' =>
    s'.due plan k = s.due plan k + m

section AddsDue

variable {α β : Type} {bound : Multiset Operator → Scaffold σ ω → Prop} {m m' : Multiset Operator}
  {a : Build σ ω α}

lemma addsDue_pure (x : α) : AddsDue plan k bound 0 (pure x) :=
  fun _ => answers_pure (add_zero _).symm

variable (hbound : Bounds plan k bound)

include hbound

lemma AddsDue.bind {f : α → Build σ ω β} (h : AddsDue plan k bound m a)
    (hf : ∀ x, AddsDue plan k bound m' (f x)) : AddsDue plan k bound (m + m') (a >>= f) := by
  intro s
  rw [← add_assoc]
  have hfirst := (h s).mono_blame fun _ s' =>
    hbound.mono _ (s.due plan k + m + m') s' (Multiset.le_add_right ..)
  refine hfirst.bind fun x s' hs' => ?_
  rw [← hs']
  exact hf x s'

lemma AddsDue.bind_pure (h : AddsDue plan k bound m a) (f : α → β) :
    AddsDue plan k bound m (a >>= fun x => pure (f x)) := by
  rw [← add_zero m]
  exact h.bind hbound fun x => addsDue_pure (f x)

lemma AddsDue.zero_bind {f : α → Build σ ω β} (h : AddsDue plan k bound 0 a)
    (hf : ∀ x, AddsDue plan k bound m (f x)) : AddsDue plan k bound m (a >>= f) := by
  rw [← zero_add m]
  exact h.bind hbound hf

lemma addsDue_createNode (n : PhysicalNode) (slots : List Slot) :
    AddsDue plan k bound {n.operator}
      (createNode registry context n.operator n.workers slots) := by
  intro s
  have hstop : bound (s.due plan k + {n.operator}) s :=
    hbound.mono _ _ _ (Multiset.le_add_right ..) (hbound.of_due s)
  exact answers_createNode (fun _ _ => hstop) (fun _ _ _ _ _ => hstop) fun _ _ _ => due_addNode _

lemma addsDue_joinEndpoint (c : ConnectorId) (i : Nat) (consumer : OperatorId) :
    AddsDue plan k bound 0 (joinEndpoint c i consumer) := by
  intro s
  rw [add_zero]
  exact answers_joinEndpoint_or (fun _ => hbound.of_due s) fun _ _ hc =>
    due_congr rfl fun _ => missing_set_iff_of_built hc

variable {connect : ConnectorId → Build σ ω Unit}

mutual

/-- If the connectors that it asks for add nothing, a node adds its operator and those under it. -/
lemma addsDue_buildNode {n : PhysicalNode}
    (hconnect : ∀ c ∈ n.asks, AddsDue plan k bound 0 (connect c)) :
    AddsDue plan k bound (operatorsOf n.all) (buildNode registry context connect n) := by
  match n with
  | .node operator workers inputs =>
    rw [PhysicalNode.asks] at hconnect
    rw [buildNode, operatorsOf_all]
    exact (addsDue_buildInputs operator.id hconnect).bind hbound
      (addsDue_createNode hbound (.node operator workers inputs))

lemma addsDue_buildInputs (consumer : OperatorId) {inputs : List PhysicalInput}
    (hconnect : ∀ c ∈ PhysicalInput.asksOf inputs, AddsDue plan k bound 0 (connect c)) :
    AddsDue plan k bound (operatorsOf (PhysicalInput.allOf inputs))
      (buildInputs registry context connect consumer inputs) := by
  match inputs with
  | [] =>
    rw [buildInputs, PhysicalInput.allOf]
    exact addsDue_pure _
  | .direct link n :: inputs =>
    rw [PhysicalInput.asksOf, List.forall_mem_append] at hconnect
    rw [buildInputs, PhysicalInput.allOf, operatorsOf_append]
    refine (addsDue_buildNode hconnect.1).bind hbound fun place => ?_
    exact (addsDue_buildInputs consumer hconnect.2).bind_pure hbound _
  | .endpoint link c i :: inputs =>
    rw [PhysicalInput.asksOf, List.forall_mem_cons] at hconnect
    rw [buildInputs, PhysicalInput.allOf]
    refine hconnect.1.zero_bind hbound fun _ => ?_
    refine (addsDue_joinEndpoint hbound c i consumer).zero_bind hbound fun _ => ?_
    exact (addsDue_buildInputs consumer hconnect.2).bind_pure hbound _

end

end AddsDue

lemma census_eq_due : s.census plan = s.due plan plan.connectors.length :=
  rfl

lemma census_buildNode {connect : ConnectorId → Build σ ω Unit}
    (hconnect : ∀ s c, (connect c).Gives s fun _ s' => s'.census plan = s.census plan)
    (n : PhysicalNode) (s : Scaffold σ ω) :
    (buildNode registry context connect n).Gives s fun _ s' =>
      s'.census plan = s.census plan + operatorsOf n.all :=
  (addsDue_buildNode bounds_true (fun c _ s => (hconnect s c).answers.mono fun _ _ h =>
    h.trans (add_zero _).symm) s).gives

lemma census_connect (depth : Nat) (s : Scaffold σ ω) (c : ConnectorId) :
    (connect registry context plan depth c).Gives s fun _ s' =>
      s'.census plan = s.census plan := by
  induction depth generalizing s c with
  | zero => exact gives_endless
  | succ depth ih =>
    refine gives_connectWith (fun _ _ => rfl) fun spec hmissing hspec => ?_
    refine ((census_buildNode ih spec.producer s).and
      (missing_after_buildNode depth hmissing hspec)).mono fun place s' ⟨hs', hmissing'⟩ => ?_
    intro connector _
    refine add_right_cancel (b := operatorsOf spec.producer.all) ?_
    exact (due_set hmissing' hspec (List.getElem?_eq_some_iff.mp hspec).1 _).trans hs'

end Scaffold

open Scaffold

/-- The nodes of a tree run the operators of its plan, one each. -/
theorem PhysicalPlan.operators_perm_of_tree? {clock : Nat → Nat} {t : Tree σ ω}
    (h : plan.tree? registry context clock = some (.ok t)) :
    (t.nodes.map Node.operator).Perm (plan.nodes.map PhysicalNode.operator) := by
  obtain ⟨s, hcensus, hjunctions, -, heq⟩ :=
    exists_of_tree? h (census_buildNode (census_connect _) plan.root _)
  have hnone : s.census plan = ↑(t.nodes.map Node.operator) := by
    have howes (c : ConnectorId) : s.owes plan c = 0 := by
      refine owes_eq_zero ?_
      rw [Missing, hjunctions, List.getElem?_map]
      cases t.junctions[c]? <;> simp
    rw [census, Finset.sum_eq_zero fun c _ => howes c, add_zero, heq]
  rw [hnone, census_eq_due, due_start] at hcensus
  exact Multiset.coe_eq_coe.mp hcensus

end Dataflow
