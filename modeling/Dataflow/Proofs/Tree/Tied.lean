import Dataflow.Proofs.Books.Basic
import Dataflow.Proofs.Tree.Cleanup

/-!
# Trees keep their form

Whatever is done to a tree, and whichever executors fail, its wiring, its operators and the numbers
of its workers stay as they are, and the worker whose turn it is is one of the team.
-/

namespace Dataflow

variable {σ ω α : Type}

/-- The number of workers of a crew; a source has none. -/
def Crew.headcount : Crew σ ω → Nat
  | .source .. => 0
  | .team t => t.workers.length

/-- The worker whose turn it is is one of the team. -/
def Crew.InTurn : Crew σ ω → Prop
  | .source .. => True
  | .team t => t.nextWorker < t.workers.length

/-- A node that differs from another one in nothing that is fixed. -/
structure Node.Alike (node node' : Node σ ω) : Prop where
  operator_eq : node'.operator = node.operator
  supplies_eq : node'.crew.supplies = node.crew.supplies
  headcount_eq : node'.crew.headcount = node.crew.headcount
  turn : node.crew.InTurn → node'.crew.InTurn

/-- A team that differs from another one in nothing that is fixed. -/
structure Team.Alike (team team' : Team ω) : Prop where
  supplies_eq : team'.slots.map Slot.supply = team.slots.map Slot.supply
  length_eq : team'.workers.length = team.workers.length
  turn : team.nextWorker < team.workers.length → team'.nextWorker < team.workers.length

lemma Team.Alike.node {team team' : Team ω} {node : Node σ ω} (h : team.Alike team')
    (hcrew : node.crew = .team team) : node.Alike { node with crew := .team team' } where
  operator_eq := rfl
  supplies_eq := by
    rw [hcrew]
    exact h.supplies_eq
  headcount_eq := by
    rw [hcrew]
    exact h.length_eq
  turn := by
    rw [hcrew]
    exact fun hturn => (h.turn hturn).trans_eq h.length_eq.symm

namespace Tree

open Act

/-- The form of a tree. -/
def form (t : Tree σ ω) : Form :=
  { t.ledger.wiring with
    staff := fun k => (t.nodes[k]?.map fun node => node.crew.headcount).getD 0 }

/-- A tree of a form whose nodes run some operators. -/
structure Tied (F : Form) (operators : List Operator) (t : Tree σ ω) : Prop where
  wiring_eq : t.ledger.wiring = F.toWiring
  operators_eq : t.nodes.map Node.operator = operators
  staff_eq : ∀ (k : Nat) node, t.nodes[k]? = some node → node.crew.headcount = F.staff k
  turn : ∀ (k : Nat) node, t.nodes[k]? = some node → node.crew.InTurn

lemma tied_form {t : Tree σ ω} (h : ∀ (k : Nat) node, t.nodes[k]? = some node → node.crew.InTurn) :
    t.Tied t.form (t.nodes.map Node.operator) where
  wiring_eq := rfl
  operators_eq := rfl
  staff_eq := fun k node hk => by simp [form, hk]
  turn := h

variable {F : Form} {operators : List Operator} {t : Tree σ ω} {place k : Nat}

namespace Tied

lemma operator_eq (h : t.Tied F operators) {node : Node σ ω} (hk : t.nodes[k]? = some node) :
    operators[k]? = some node.operator := by
  rw [← h.operators_eq, List.getElem?_map, hk, Option.map_some]

lemma root_eq (h : t.Tied F operators) : t.root = F.root :=
  congrArg Wiring.root h.wiring_eq

lemma length_eq (h : t.Tied F operators) : t.nodes.length = F.supplies.length := by
  rw [← h.wiring_eq]
  simp [ledger, Ledger.wiring]

lemma exists_node (h : t.Tied F operators) (hk : k < F.supplies.length) :
    ∃ node, t.nodes[k]? = some node :=
  ⟨_, List.getElem?_eq_getElem (h.length_eq ▸ hk)⟩

lemma suppliesOf_eq (h : t.Tied F operators) {node : Node σ ω} (hk : t.nodes[k]? = some node) :
    F.suppliesOf k = node.crew.supplies := by
  rw [← h.wiring_eq]
  exact suppliesOf_node hk

lemma suppliesOf_team (h : t.Tied F operators) {node : Node σ ω} {team : Team ω}
    (hk : t.nodes[k]? = some node) (hcrew : node.crew = .team team) :
    F.suppliesOf k = team.slots.map Slot.supply := by
  rw [h.suppliesOf_eq hk, hcrew]
  rfl

lemma exists_junction (h : t.Tied F operators) {c : ConnectorId} {i : Nat}
    (hhas : F.Has (.endpoint c i)) : ∃ junction, t.junctions[c]? = some junction ∧
      junction.producer = F.producerOf c ∧ i < junction.connector.endpoints.length := by
  obtain ⟨n, hjoint, hi⟩ := hhas.exists_joint
  rw [← h.wiring_eq] at hjoint
  obtain ⟨junction, hjunction, -, hproducer, hlength⟩ := exists_junction_of_joint hjoint
  exact ⟨junction, hjunction, hproducer.trans (by rw [h.wiring_eq]), hlength ▸ hi⟩

lemma changeNode (h : t.Tied F operators) {f : Node σ ω → Node σ ω}
    (hf : ∀ node, t.nodes[place]? = some node → node.Alike (f node)) :
    (t.changeNode place f).Tied F operators where
  wiring_eq := by
    rw [← h.wiring_eq]
    have hsupplies : ((t.nodes.modify place f).map Node.entry).map NodeEntry.supplies =
        (t.nodes.map Node.entry).map NodeEntry.supplies := by
      rw [List.map_map, List.map_map]
      exact map_modify_of_eq fun node hnode => (hf node hnode).supplies_eq
    simp only [Ledger.wiring, ledger, Tree.changeNode, hsupplies]
  operators_eq := by
    rw [← h.operators_eq]
    exact map_modify_of_eq fun node hnode => (hf node hnode).operator_eq
  staff_eq := by
    intro k node' hk
    simp only [Tree.changeNode, List.getElem?_modify, Option.map_eq_map,
      Option.map_eq_some_iff] at hk
    obtain ⟨node, hnode, rfl⟩ := hk
    split_ifs with heq
    · subst heq
      exact (hf node hnode).headcount_eq.trans (h.staff_eq _ node hnode)
    · exact h.staff_eq k node hnode
  turn := by
    intro k node' hk
    simp only [Tree.changeNode, List.getElem?_modify, Option.map_eq_map,
      Option.map_eq_some_iff] at hk
    obtain ⟨node, hnode, rfl⟩ := hk
    split_ifs with heq
    · subst heq
      exact (hf node hnode).turn (h.turn _ node hnode)
    · exact h.turn k node hnode

lemma changeTeam (h : t.Tied F operators) {f : Team ω → Team ω}
    (hf : ∀ team : Team ω, team.Alike (f team)) : (t.changeTeam place f).Tied F operators := by
  refine h.changeNode fun node hnode => ?_
  cases hcrew : node.crew with
  | source => exact ⟨rfl, rfl, rfl, id⟩
  | team team => exact (hf team).node hcrew

/-- A connector is put in the place of another one with as many endpoints. -/
lemma write (h : t.Tied F operators) {c : ConnectorId} {con : Connector}
    (hsize : con.size = ((seat c).read t).size) : ((seat c).write con t).Tied F operators where
  wiring_eq := by
    rw [← h.wiring_eq]
    have hjoints : (((seat c).write con t).junctions.map Junction.entry).map
          (fun joint => (joint.producer, joint.phases.length)) =
        (t.junctions.map Junction.entry).map
          fun joint => (joint.producer, joint.phases.length) := by
      rw [List.map_map, List.map_map]
      refine map_modify_of_eq fun junction hjunction => ?_
      simp only [seat, hjunction, Option.map_some, Option.getD_some, Connector.size] at hsize
      simp [Junction.entry, Connector.phases, hsize]
    simp only [Ledger.wiring, ledger, hjoints]
    rfl
  operators_eq := h.operators_eq
  staff_eq := h.staff_eq
  turn := h.turn

lemma measure (h : t.Tied F operators) (m : Measurement) : (t.measure m).Tied F operators :=
  ⟨h.wiring_eq, h.operators_eq, h.staff_eq, h.turn⟩

lemma call (h : t.Tied F operators) (calls : List Call) :
    Tied F operators { t with newestCalls := calls } :=
  ⟨h.wiring_eq, h.operators_eq, h.staff_eq, h.turn⟩

lemma setPhase (h : t.Tied F operators) (place : Nat) (phase : Phase) :
    (t.changeNode place fun node => { node with phase := phase }).Tied F operators :=
  h.changeNode fun _ _ => ⟨rfl, rfl, rfl, id⟩

lemma changeSource (h : t.Tied F operators) {node : Node σ ω} {s s' : σ}
    {started started' : Bool} (hnode : t.nodes[place]? = some node)
    (hcrew : node.crew = .source s started) :
    (t.changeNode place fun node => { node with crew := .source s' started' }).Tied F
      operators := by
  refine h.changeNode fun other hother => ?_
  obtain rfl : node = other := Option.some.inj (hnode.symm.trans hother)
  exact ⟨rfl, by rw [hcrew]; rfl, by rw [hcrew]; rfl, fun _ => trivial⟩

lemma callSource (h : t.Tied F operators) {node : Node σ ω} {s s' : σ}
    {started started' : Bool} (hnode : t.nodes[place]? = some node)
    (hcrew : node.crew = .source s started) (phase : Phase) (calls : List Call) :
    Tied F operators { (t.changeNode place fun node => { node with phase := phase }).changeNode
      place (fun node => { node with crew := .source s' started' }) with newestCalls := calls } :=
  Tied.call ((h.setPhase place phase).changeSource (getElem?_changeNode hnode) hcrew) calls

lemma callWorker (h : t.Tied F operators) (i : Nat) (w : ω) (calls : List Call) :
    Tied F operators { t.changeTeam place (fun team =>
      { team with workers := team.workers.set i w }) with newestCalls := calls } := by
  refine Tied.call (h.changeTeam fun _ => ?_) calls
  exact ⟨rfl, List.length_set, id⟩

end Tied

/-- An action that keeps the form of a tree. -/
abbrev Ties (F : Form) (operators : List Operator) (a : Drive σ ω α) : Prop :=
  a.Keeps (Tied F operators)

variable [Source σ] [Worker ω]

/-- Everything that opening does keeps the form of a tree. -/
lemma startKeeps_tied : StartKeeps fun t : Tree σ ω => t.Tied F operators where
  endpoint ht hcon := by
    obtain ⟨-, rfl⟩ := Connector.startEndpoint_eq_ok_iff.mp hcon
    exact ht.write (Connector.size_change ..)
  team ht _ _ _ := ht.setPhase _ _
  source ht hnode _ hcrew := after_modify_bind.mpr (after_callSource.mpr
    (ht.callSource hnode hcrew _ _))
  mark := by
    intro t k f ht hf
    refine ht.changeNode fun node _ => ?_
    obtain hsame | ⟨s, started, hcrew, hmarked⟩ := hf node
    · rw [hsame]
      exact ⟨rfl, rfl, rfl, id⟩
    · rw [hmarked]
      exact ⟨rfl, by rw [hcrew]; rfl, by rw [hcrew]; rfl, fun _ => trivial⟩
  worker _ _ _ _ ht := after_callWorker.mpr (ht.callWorker _ _ _)
  count ht := ht.changeTeam fun _ => ⟨rfl, rfl, id⟩

/-- Everything that pulling does keeps the form of a tree. -/
lemma nextKeeps_tied : NextKeeps (fun _ => True) fun t : Tree σ ω => t.Tied F operators where
  opened _ _ _ := trivial
  read ht hread := by
    obtain ⟨-, rfl⟩ := Connector.read_eq_ok hread
    refine after_modify.mpr (Tied.measure (ht.write ?_) _)
    exact Connector.size_change ..
  push ht := ht.write rfl
  finish ht := ht.write rfl
  source ht hnode _ hcrew := after_callSource.mpr (Tied.call (ht.changeSource hnode hcrew) _)
  measure ht := ht.measure _
  turn ht := ht.changeTeam fun _ => ⟨rfl, rfl, id⟩
  pop ht _ _ _ := ht.changeTeam fun _ => ⟨rfl, rfl, id⟩
  deal ht := ht.changeTeam fun _ =>
    ⟨rfl, rfl, fun hturn => Nat.mod_lt _ (Nat.zero_lt_of_lt hturn)⟩
  exhaust ht := ht.changeTeam fun _ => ⟨map_modify_of_eq fun _ _ => rfl, rfl, id⟩
  tick ht := ⟨ht.wiring_eq, ht.operators_eq, ht.staff_eq, ht.turn⟩
  process _ ht _ _ _ := after_callWorker.mpr (ht.callWorker _ _ _)
  collect ht := ht.changeTeam fun _ => ⟨rfl, rfl, id⟩

lemma stopKeeps_tied : StopKeeps fun t : Tree σ ω => t.Tied F operators where
  endpoint ht hcon := by
    obtain ⟨-, rfl⟩ := Connector.stopEndpoint_eq_ok_iff.mp hcon
    refine after_modify.mpr (Tied.measure (ht.write ?_) _)
    exact Connector.size_change ..
  phase ht := ht.setPhase _ _
  source ht hnode hcrew := after_modify_bind.mpr (after_callSource.mpr
    (ht.callSource hnode hcrew _ _))
  clear ht := ht.changeTeam fun _ => ⟨rfl, rfl, id⟩
  worker ht _ _ _ := after_callWorker.mpr (ht.callWorker _ _ _)

lemma ties_operate (depth : Nat) (op : Operation) :
    Ties F operators (operate depth op : Drive σ ω Unit) := by
  cases op with
  | start => exact startKeeps_tied.start depth
  | stop => exact stopKeeps_tied.stop depth
  | next =>
    rw [operate, ← bind_pure_comp]
    exact (nextKeeps_tied.next depth).bind fun _ => keeps_pure _

/-- Whatever is done to a tree, it keeps its form. -/
theorem Runs.tied {ops : List Operation} {t' : Tree σ ω} (h : t.Runs ops t')
    (ht : t.Tied F operators) : t'.Tied F operators := by
  induction h with
  | nil => exact ht
  | cons hop hrest ih => exact ih ((ties_operate _ _ _ ht).of_outcome hop)

end Tree

end Dataflow
