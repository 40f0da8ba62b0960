import Dataflow.Proofs.Tree.Pull

/-!
# Changes of a tree in its ledger

Opening and closing change a tree at one node or at one endpoint at a time. What such a change
means for the ledger is said here once for both.
-/

namespace Dataflow

namespace Ledger

variable {l l' l'' : Ledger}

/-- Only the account of one node changed. -/
structure Local (place : Nat) (l l' : Ledger) : Prop where
  wiring_eq : l'.wiring = l.wiring
  joints_eq : l'.joints = l.joints
  phase?_eq : ∀ x, l'.phase? x = l.phase? x
  node_eq : ∀ k, k ≠ place → l'.nodes[k]? = l.nodes[k]?
  tally_eq : ∀ k, k ≠ place → ∀ w, l'.tally (k, w) = l.tally (k, w)

namespace Local

variable {place : Nat}

lemma refl : Local place l l :=
  ⟨rfl, rfl, fun _ => rfl, fun _ _ => rfl, fun _ _ _ => rfl⟩

lemma trans (h : Local place l l') (h' : Local place l' l'') : Local place l l'' where
  wiring_eq := h'.wiring_eq.trans h.wiring_eq
  joints_eq := h'.joints_eq.trans h.joints_eq
  phase?_eq := fun x => (h'.phase?_eq x).trans (h.phase?_eq x)
  node_eq := fun k hk => (h'.node_eq k hk).trans (h.node_eq k hk)
  tally_eq := fun k hk w => (h'.tally_eq k hk w).trans (h.tally_eq k hk w)

lemma reached_iff (h : Local place l l') (a : Part) : l'.Reached a ↔ l.Reached a := by
  match a with
  | .supply x => simp only [Reached, h.phase?_eq]
  | .joint c => simp only [Reached, h.joints_eq]

lemma done_iff (h : Local place l l') (a : Part) : l'.Done a ↔ l.Done a := by
  match a with
  | .supply x => simp only [Done, h.phase?_eq]
  | .joint c => simp only [Done, h.joints_eq]

end Local

/-- A node and what is below it changed; the account of this node itself may be incomplete. -/
structure Beside (place : Nat) (l l' : Ledger) : Prop where
  wiring_eq : l'.wiring = l.wiring
  node_eq : ∀ k, place < k → l'.nodes[k]? = l.nodes[k]?
  tally_eq : ∀ k, place < k → ∀ w, l'.tally (k, w) = l.tally (k, w)
  tracked : ∀ k, k ≠ place → l.Tracked k → l'.Tracked k

namespace Beside

variable {place : Nat}

lemma trans (h : Beside place l l') (h' : Beside place l' l'') : Beside place l l'' where
  wiring_eq := h'.wiring_eq.trans h.wiring_eq
  node_eq := fun k hk => (h'.node_eq k hk).trans (h.node_eq k hk)
  tally_eq := fun k hk w => (h'.tally_eq k hk w).trans (h.tally_eq k hk w)
  tracked := fun k hne hk => h'.tracked k hne (h.tracked k hne hk)

lemma of_keeps (h : l.Keeps place l') : Beside place l l' where
  wiring_eq := h.wiring_eq
  node_eq := fun k hk => h.node_eq k hk.le
  tally_eq := fun k hk => h.tally_eq k hk.le
  tracked := fun k _ => h.tracked k

lemma of_eq (hwiring : l'.wiring = l.wiring)
    (hnode : ∀ k, k ≠ place → l'.nodes[k]? = l.nodes[k]?)
    (htally : ∀ k, k ≠ place → ∀ w, l'.tally (k, w) = l.tally (k, w)) : Beside place l l' where
  wiring_eq := hwiring
  node_eq := fun k hk => hnode k hk.ne'
  tally_eq := fun k hk => htally k hk.ne'
  tracked := by
    intro k hne hk e he
    rw [hnode k hne] at he
    simpa only [htally k hne] using hk e he

lemma of_local (h : Local place l l') : Beside place l l' :=
  .of_eq h.wiring_eq h.node_eq h.tally_eq

/-- If the account of the node is complete in the end, nothing is lost. -/
lemma keeps (h : Beside place l l') (hplace : l.Tracked place → l'.Tracked place) :
    l.Keeps (place + 1) l' where
  wiring_eq := h.wiring_eq
  node_eq := h.node_eq
  tally_eq := h.tally_eq
  tracked := by
    intro k hk
    by_cases hne : k = place
    · exact hne ▸ hplace (hne ▸ hk)
    · exact h.tracked k hne hk

end Beside

end Ledger

namespace Tree

open Ledger

variable {σ ω : Type} {t : Tree σ ω} {place : Nat}

lemma local_changeNode {f : Node σ ω → Node σ ω}
    (h : ∀ node, t.nodes[place]? = some node →
      (f node).phase = node.phase ∧ (f node).crew.supplies = node.crew.supplies) :
    Local place t.ledger (t.changeNode place f).ledger where
  wiring_eq := by
    have hsupplies : ((t.nodes.modify place f).map Node.entry).map NodeEntry.supplies =
        (t.nodes.map Node.entry).map NodeEntry.supplies := by
      rw [List.map_map, List.map_map]
      exact map_modify_of_eq fun node hnode => (h node hnode).2
    simp only [wiring, ledger, changeNode, hsupplies]
  joints_eq := rfl
  phase?_eq := by
    intro x
    cases x with
    | endpoint c i => rfl
    | node k =>
      have hphase : ((t.nodes.modify place f).map Node.phase) = t.nodes.map Node.phase :=
        map_modify_of_eq fun node hnode => (h node hnode).1
      have hk := congrArg (·[k]?) hphase
      simpa [phase?, ledger, changeNode, Option.map_map, Function.comp_def, Node.entry] using hk
  node_eq := by
    intro k hk
    simp [ledger, changeNode, List.getElem?_modify_ne _ _ hk.symm]
  tally_eq := fun _ _ _ => rfl

lemma local_call {call : Call} (h : call.node = place) :
    Local place t.ledger { t with newestCalls := call :: t.newestCalls }.ledger where
  wiring_eq := rfl
  joints_eq := rfl
  phase?_eq := fun _ => rfl
  node_eq := fun _ _ => rfl
  tally_eq := by
    intro k hk w
    exact tally_cons_of_ne fun heq => hk ((congrArg Prod.fst heq).symm.trans h)

lemma placeOf_endpoint (t : Tree σ ω) (c : ConnectorId) (i : Nat) :
    t.ledger.wiring.placeOf (.endpoint c i) =
      (t.junctions[c]?.map Junction.producer).getD 0 := by
  simp only [Wiring.placeOf, Wiring.producerOf, Ledger.wiring, ledger, List.getElem?_map,
    Option.map_map]
  rfl

lemma getElem?_changeNode {node : Node σ ω} {f : Node σ ω → Node σ ω}
    (h : t.nodes[place]? = some node) : (t.changeNode place f).nodes[place]? = some (f node) := by
  rw [changeNode, List.getElem?_modify_eq, h]
  rfl

lemma getElem?_changeTeam {node : Node σ ω} {team : Team ω} {f : Team ω → Team ω}
    (h : t.nodes[place]? = some node) (hcrew : node.crew = .team team) :
    (t.changeTeam place f).nodes[place]? = some { node with crew := .team (f team) } := by
  rw [changeTeam, getElem?_changeNode h, hcrew]

lemma exists_team {e : NodeEntry} {i : Nat} (hentry : t.ledger.nodes[place]? = some e)
    (hmem : some i ∈ e.staff) : ∃ node team, t.nodes[place]? = some node ∧
      node.crew = .team team ∧ i < team.workers.length ∧ node.entry = e := by
  rw [ledger, List.getElem?_map, Option.map_eq_some_iff] at hentry
  obtain ⟨node, hnode, rfl⟩ := hentry
  cases hcrew : node.crew with
  | source => simp [Node.entry, hcrew, Crew.staff] at hmem
  | team team =>
    have hlt : i < team.workers.length := by simpa [Node.entry, hcrew, Crew.staff] using hmem
    exact ⟨node, team, hnode, hcrew, hlt, rfl⟩

lemma moves_setPhase {node : Node σ ω} (hnode : t.nodes[place]? = some node) (phase : Phase) :
    Moves (.node place) phase t.ledger
      (t.changeNode place fun node => { node with phase := phase }).ledger where
  wiring_eq := by
    have hsupplies : ((t.nodes.modify place fun node => { node with phase := phase }).map
          Node.entry).map NodeEntry.supplies =
        (t.nodes.map Node.entry).map NodeEntry.supplies := by
      rw [List.map_map, List.map_map]
      exact map_modify_of_eq fun _ _ => rfl
    simp only [wiring, ledger, changeNode, hsupplies]
  phase?_self := phase?_node (getElem?_changeNode hnode)
  phase?_ne := by
    intro y hy
    cases y with
    | endpoint c i => rfl
    | node k =>
      have hk : place ≠ k := fun heq => hy (heq ▸ rfl)
      simp [phase?, ledger, changeNode, List.getElem?_modify_ne _ _ hk]

lemma beside_setPhase {node : Node σ ω} (hnode : t.nodes[place]? = some node) (phase : Phase) :
    Beside place t.ledger
      (t.changeNode place fun node => { node with phase := phase }).ledger :=
  .of_eq (moves_setPhase hnode phase).wiring_eq
    (fun k hk => by simp [ledger, changeNode, List.getElem?_modify_ne _ _ hk.symm])
    fun _ _ _ => rfl

variable {c : ConnectorId} {i : Nat} {junction : Junction} {con : Connector} {phase : Phase}

lemma getElem?_write (hjunction : t.junctions[c]? = some junction) (d : ConnectorId) :
    ((seat c).write con t).ledger.joints[d]? =
      if d = c then some ⟨junction.producer, con.phases, con.started⟩ else t.ledger.joints[d]? := by
  by_cases hd : d = c
  · subst hd
    simp [seat, ledger, hjunction, Junction.entry]
  · simp [seat, ledger, hd, Ne.symm hd]

lemma exists_junction_of_joint {q n : Nat} (hjoint : t.ledger.wiring.joints[c]? = some (q, n)) :
    ∃ junction, t.junctions[c]? = some junction ∧ (seat c).read t = junction.connector ∧
      junction.producer = q ∧ junction.connector.endpoints.length = n := by
  obtain ⟨junction, hjunction, hends⟩ := joint_eq_some_iff.mp hjoint
  exact ⟨junction, hjunction, by simp [seat, hjunction], hends⟩

lemma producer_eq {q n : Nat} (hjoint : t.ledger.wiring.joints[c]? = some (q, n)) :
    (t.junctions[c]?.map Junction.producer).getD 0 = q := by
  obtain ⟨junction, hjunction, -, rfl, -⟩ := exists_junction_of_joint hjoint
  rw [hjunction, Option.map_some, Option.getD_some]

lemma phases_change_phase (con : Connector) (i : Nat) (phase : Phase) :
    (con.change i fun e => { e with phase := phase }).phases = con.phases.set i phase := by
  refine List.ext_getElem? fun j => ?_
  rw [Connector.phases, Connector.phases, Connector.change, List.getElem?_map,
    List.getElem?_modify, List.getElem?_set, List.getElem?_map, List.length_map]
  by_cases hij : i = j
  · subst hij
    by_cases hi : i < con.endpoints.length <;> simp [hi]
  · cases con.endpoints[j]? with
    | none => simp [hij]
    | some e => simp [hij]

/-- A connector is put in its place again after one of its endpoints changed its phase. -/
lemma moves_write (hjunction : t.junctions[c]? = some junction)
    (hi : i < junction.connector.phases.length)
    (hphases : con.phases = junction.connector.phases.set i phase) :
    Moves (.endpoint c i) phase t.ledger ((seat c).write con t).ledger where
  wiring_eq := by
    have hjoints : ((seat c).write con t).ledger.joints.map
          (fun joint => (joint.producer, joint.phases.length)) =
        t.ledger.joints.map fun joint => (joint.producer, joint.phases.length) := by
      refine List.ext_getElem? fun d => ?_
      rw [List.getElem?_map, List.getElem?_map, getElem?_write hjunction]
      split_ifs with hd
      · subst hd
        simp [ledger, hjunction, Junction.entry, hphases]
      · rfl
    simp only [wiring, hjoints]
    rfl
  phase?_self := by
    simp [phase?, getElem?_write hjunction, hphases, hi]
  phase?_ne := by
    intro y hy
    cases y with
    | node k => rfl
    | endpoint d j =>
      simp only [phase?, getElem?_write hjunction]
      split_ifs with hd
      · subst hd
        have hij : i ≠ j := fun heq => hy (heq ▸ rfl)
        simp [ledger, hjunction, Junction.entry, hphases, List.getElem?_set_ne hij]
      · rfl

lemma keeps_write {n : Nat} (hmoves : Moves (.endpoint c i) phase t.ledger
    ((seat c).write con t).ledger) : t.ledger.Keeps n ((seat c).write con t).ledger where
  wiring_eq := hmoves.wiring_eq
  node_eq := fun _ _ => rfl
  tally_eq := fun _ _ _ => rfl
  tracked := fun _ => id

end Tree

end Dataflow
