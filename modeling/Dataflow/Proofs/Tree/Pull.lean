import Dataflow.Proofs.Connector
import Dataflow.Proofs.Lists
import Dataflow.Proofs.Tree.Ledger
import Dataflow.Proofs.Tree.Upkeep

/-!
# Pulling keeps the ledger

Whatever happens while a node is pulled, no part changes its phase and no executor is asked to open
or to close.
-/

namespace Dataflow

namespace Tree

open Act

variable {σ ω : Type}

section Changes

variable {t : Tree σ ω} {place : Nat}

lemma ledger_changeNode_of_entry_eq {f : Node σ ω → Node σ ω}
    (h : ∀ node, t.nodes[place]? = some node → (f node).entry = node.entry) :
    (t.changeNode place f).ledger = t.ledger := by
  simp only [ledger, changeNode, map_modify_of_eq h]

lemma ledger_changeTeam_of_entry_eq {f : Team ω → Team ω}
    (h : ∀ team, (f team).slots.map Slot.supply = team.slots.map Slot.supply ∧
      (f team).workers.length = team.workers.length ∧ (f team).started = team.started) :
    (t.changeTeam place f).ledger = t.ledger := by
  refine ledger_changeNode_of_entry_eq fun node _ => ?_
  match hcrew : node.crew with
  | .source .. => rfl
  | .team team =>
    obtain ⟨hslots, hworkers, hstarted⟩ := h team
    simp only [Node.entry, hcrew, Crew.supplies, Crew.opened, Crew.staff, hslots, hworkers,
      hstarted]

lemma ledger_call (t : Tree σ ω) {c : Call} (hstart : c.event ≠ .start)
    (hstop : c.event ≠ .stop) :
    { t with newestCalls := c :: t.newestCalls }.ledger = t.ledger := by
  have htally : Dataflow.tally (c :: t.newestCalls) = Dataflow.tally t.newestCalls :=
    funext fun x => tally_cons_of_quiet hstart hstop
  simp only [ledger, htally]

/-- A connector that is put in the place of another with the same phases. -/
lemma ledger_write {c : ConnectorId} {new : Connector}
    (hphases : new.phases = ((seat c).read t).phases)
    (hstarted : new.started = ((seat c).read t).started) :
    ((seat c).write new t).ledger = t.ledger := by
  have hentry (junction : Junction) (hjunction : t.junctions[c]? = some junction) :
      Junction.entry { junction with connector := new } = junction.entry := by
    simp only [seat, hjunction, Option.map_some, Option.getD_some] at hphases hstarted
    simp only [Junction.entry, hphases, hstarted]
  simp only [ledger, seat, map_modify_of_eq hentry]

lemma exists_junction {c : ConnectorId} {i : Nat} {e : Endpoint}
    (he : ((seat c).read t).endpoints[i]? = some e) :
    ∃ junction, t.junctions[c]? = some junction ∧ junction.connector = (seat c).read t := by
  match hc : t.junctions[c]? with
  | none => simp [seat, hc, noConnector] at he
  | some junction => exact ⟨junction, rfl, by simp [seat, hc]⟩

lemma read_write {c : ConnectorId} {con : Connector} {junction : Junction}
    (hc : t.junctions[c]? = some junction) : (seat c).read ((seat c).write con t) = con := by
  simp [seat, hc]

end Changes

/-- An action that keeps the ledger. -/
abbrev Quiet {α : Type} (a : Drive σ ω α) : Prop :=
  a.Preserves ledger

section Endpoints

variable {t : Tree σ ω} {c : ConnectorId}

lemma phases_change {con : Connector} {i : Nat} {f : Endpoint → Endpoint}
    (h : ∀ e, (f e).phase = e.phase) : (con.change i f).phases = con.phases :=
  map_modify_of_eq fun e _ => h e

lemma phases_evict (con : Connector) : con.evict.phases = con.phases :=
  rfl

lemma read_phases {con con' : Connector} {i : Nat} {x : Tuple} (h : con.read i = .ok (x, con')) :
    con'.phases = con.phases ∧ con'.started = con.started := by
  obtain ⟨-, rfl⟩ := Connector.read_eq_ok h
  exact ⟨(phases_evict _).trans (phases_change fun _ => rfl), rfl⟩

end Endpoints

section Nodes

variable {place : Nat}

lemma quiet_changeTeam {f : Team ω → Team ω}
    (h : ∀ team, (f team).slots.map Slot.supply = team.slots.map Slot.supply ∧
      (f team).workers.length = team.workers.length ∧ (f team).started = team.started) :
    Quiet (modify (·.changeTeam place f) : Drive σ ω PUnit) :=
  preserves_modify fun _ => ledger_changeTeam_of_entry_eq h

lemma quiet_team? (place : Nat) : Quiet (team? place : Drive σ ω (Option (Team ω))) :=
  preserves_iff_keeps.mpr fun _ => keeps_team?

lemma ledger_callSource {t : Tree σ ω} {node : Node σ ω} {s s' : σ} {started : Bool}
    (hnode : t.nodes[place]? = some node) (hcrew : node.crew = .source s started) :
    (t.changeNode place fun node => { node with crew := .source s' started }).ledger =
      t.ledger := by
  refine ledger_changeNode_of_entry_eq fun old hold => ?_
  rw [hnode, Option.some.injEq] at hold
  simp only [← hold, Node.entry, hcrew, Crew.supplies, Crew.opened, Crew.staff]

variable [Source σ] [Worker ω]

/-- Everything that pulling does keeps the ledger. -/
lemma nextKeeps_ledger (l : Ledger) :
    NextKeeps (fun _ => True) fun t : Tree σ ω => t.ledger = l where
  opened _ _ _ := trivial
  read ht hread := by
    obtain ⟨hphases, hstarted⟩ := read_phases hread
    exact after_modify.mpr ((ledger_write hphases hstarted).trans ht)
  push ht := Eq.trans (ledger_write rfl rfl) ht
  finish ht := Eq.trans (ledger_write rfl rfl) ht
  source ht hnode _ hcrew := after_callSource.mpr
    ((ledger_call _ Event.noConfusion Event.noConfusion).trans
      ((ledger_callSource hnode hcrew).trans ht))
  measure ht := ht
  turn ht := Eq.trans (ledger_changeTeam_of_entry_eq fun _ => ⟨rfl, rfl, rfl⟩) ht
  pop ht _ _ _ := Eq.trans (ledger_changeTeam_of_entry_eq fun _ => ⟨rfl, rfl, rfl⟩) ht
  deal ht := Eq.trans (ledger_changeTeam_of_entry_eq fun _ => ⟨rfl, rfl, rfl⟩) ht
  exhaust ht :=
    Eq.trans (ledger_changeTeam_of_entry_eq fun _ => ⟨map_modify_of_eq fun _ _ => rfl, rfl, rfl⟩) ht
  tick ht := ht
  process _ ht _ _ _ := after_callWorker.mpr
    ((ledger_call _ Event.noConfusion Event.noConfusion).trans
      (Eq.trans (ledger_changeTeam_of_entry_eq fun _ => ⟨rfl, List.length_set, rfl⟩) ht))
  collect ht := Eq.trans (ledger_changeTeam_of_entry_eq fun _ => ⟨rfl, rfl, rfl⟩) ht

variable {next : Nat → Drive σ ω (Option Tuple)}

lemma quiet_pull (c : ConnectorId) (i : Nat) {next : Drive σ ω (Option Tuple)}
    (hnext : Quiet next) : Quiet ((seat c).pull next i) :=
  preserves_iff_keeps.mpr fun l =>
    (nextKeeps_ledger l).pull (preserves_iff_keeps.mp hnext l) c i

lemma quiet_onSupply (hnext : ∀ q, Quiet (next q)) (x : Supply) :
    Quiet (onSupply next Seat.pull x) :=
  preserves_iff_keeps.mpr fun l =>
    (nextKeeps_ledger l).onSupply (fun q => preserves_iff_keeps.mp (hnext q) l) x

lemma quiet_work (i : Nat) (input : Input) :
    Quiet (deliver place i input : Drive σ ω Unit) :=
  preserves_iff_keeps.mpr fun l => (nextKeeps_ledger l).work trivial i input

lemma quiet_deal (x : Tuple) (link : Link) : Quiet (deal place x link : Drive σ ω Unit) :=
  preserves_iff_keeps.mpr fun l => (nextKeeps_ledger l).dealing trivial x link

lemma quiet_exhaust (i : Nat) (link : Link) :
    Quiet (exhaust place i link : Drive σ ω Unit) :=
  preserves_iff_keeps.mpr fun l => (nextKeeps_ledger l).exhausting trivial i link

lemma quiet_nextAt (hnext : ∀ q, Quiet (next q)) : Quiet (nextAt next place) :=
  preserves_iff_keeps.mpr fun l =>
    (nextKeeps_ledger l).nextAt fun q => preserves_iff_keeps.mp (hnext q) l

/-- Pulling a node keeps the ledger. -/
theorem quiet_nextNode (depth place : Nat) : Quiet (nextNode depth place : Drive σ ω _) :=
  preserves_iff_keeps.mpr fun l => (nextKeeps_ledger l).nextNode depth place

end Nodes

end Tree

end Dataflow
