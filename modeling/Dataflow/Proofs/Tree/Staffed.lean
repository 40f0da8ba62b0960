import Dataflow.Proofs.Tree.Explained
import Dataflow.Proofs.Tree.Open

/-!
# Opening goes on up to the first failure

A node is marked as open before anything that feeds it is opened, and before its own executors are.
So when opening stops at a failure, there are open nodes with executors that were never opened. Each
of them is the node of an executor that failed to open, or downstream of it.
-/

namespace Dataflow

/-- Of some calls, one is of an executor at a node, or upstream of it, that failed to open. -/
def Hindered (w : Wiring) (calls : List Call) (k : Nat) : Prop :=
  ∃ c ∈ calls, c.event = .start ∧ c.failure ≠ none ∧ w.Upstream c.node k

lemma Hindered.mono {w : Wiring} {calls calls' : List Call} {k : Nat} (h : Hindered w calls k)
    (hsub : calls ⊆ calls') : Hindered w calls' k := by
  obtain ⟨c, hc, hfailed⟩ := h
  exact ⟨c, hsub hc, hfailed⟩

namespace Tree

open Act Ledger

variable {σ ω : Type} {t t' t'' : Tree σ ω} {w : Wiring} {place k : Nat}
  {failure failure' : Option Error}

/-- If a node is open, then its executors were opened, unless one at this node or upstream of it
failed to open. -/
def Staffed (w : Wiring) (t : Tree σ ω) (k : Nat) : Prop :=
  ∀ e, t.ledger.nodes[k]? = some e → e.phase = .opened →
    e.staff ⊆ e.opened ∨ Hindered w t.newestCalls k

lemma Staffed.imp (h : t.Staffed w k) (hentry : t'.ledger.nodes[k]? = t.ledger.nodes[k]?)
    (hcalls : t.newestCalls ⊆ t'.newestCalls) : t'.Staffed w k := fun e he hphase =>
  (h e (hentry ▸ he) hphase).imp_right fun hhindered => hhindered.mono hcalls

/-- The calls of executors at a node or upstream of it to open. -/
def StartsBehind (w : Wiring) (place : Nat) (c : Call) : Prop :=
  c.event = .start ∧ w.Upstream c.node place

/-- Along with a failure to open a node, a call of an executor there or upstream of it failed. -/
lemma Explained.hindered {e : Error} (h : Explained (StartsBehind w place) t (some e) t') :
    Hindered w t'.newestCalls place := by
  obtain ⟨new, hnew, hstarts, hfailure⟩ := h.newCalls
  obtain ⟨c, hc, hfailed⟩ := List.exists_of_findSome?_eq_some hfailure
  have hmem : c ∈ t'.calls := by
    rw [hnew]
    exact List.mem_append_right _ hc
  exact ⟨c, List.mem_reverse.mp hmem, (hstarts c hc).1, by simp [hfailed], (hstarts c hc).2⟩

lemma Explained.subset {P : Call → Prop} (h : Explained P t failure t') :
    t.newestCalls ⊆ t'.newestCalls := by
  obtain ⟨new, hnew, -⟩ := h.newCalls
  have hcalls : t.calls ⊆ t'.calls := by
    rw [hnew]
    exact List.subset_append_left _ _
  exact fun c hc => List.mem_reverse.mp (hcalls (List.mem_reverse.mpr hc))

/-- Only executors at a place or upstream of it were asked to open, and what was staffed still
is. -/
structure StartedAt (w : Wiring) (place : Nat) (t : Tree σ ω) (failure : Option Error)
    (t' : Tree σ ω) : Prop where
  explained : Explained (StartsBehind w place) t failure t'
  staffed : ∀ k, t.Staffed w k → t'.Staffed w k

namespace StartedAt

lemma refl : StartedAt w place t none t :=
  ⟨.refl, fun _ => id⟩

lemma trans (h : StartedAt w place t none t') (h' : StartedAt w place t' failure t'') :
    StartedAt w place t failure t'' :=
  ⟨h.explained.trans h'.explained, fun k hk => h'.staffed k (h.staffed k hk)⟩

lemma feeds (h : StartedAt w place t failure t') (hfeeds : w.Feeds place k) :
    StartedAt w k t failure t' :=
  ⟨h.explained.imp fun _ hc => ⟨hc.1, hc.2.tail hfeeds⟩, h.staffed⟩

end StartedAt

/-- What feeds a node and its executors were asked to open, and the node itself stays marked as it
was: its executors are open if nothing failed, and other nodes that were staffed still are. -/
structure Crewed (w : Wiring) (place : Nat) (t : Tree σ ω) (failure : Option Error)
    (t' : Tree σ ω) : Prop where
  explained : Explained (StartsBehind w place) t failure t'
  staff_opened : failure = none → ∀ e, t'.ledger.nodes[place]? = some e → e.staff ⊆ e.opened
  staffed : ∀ k, k ≠ place → t.Staffed w k → t'.Staffed w k
  phase?_eq : t'.ledger.phase? (.node place) = t.ledger.phase? (.node place)

/-- A node that is marked and then opened is staffed if nothing failed, and hindered otherwise. -/
lemma Crewed.startedAt (h : Crewed w place t' failure t'')
    (hmark : Explained (StartsBehind w place) t none t')
    (hbeside : ∀ k, k ≠ place → t.Staffed w k → t'.Staffed w k) :
    StartedAt w place t failure t'' where
  explained := hmark.trans h.explained
  staffed := by
    intro k hk
    by_cases heq : k = place
    · subst heq
      intro e he _
      match failure with
      | none => exact .inl (h.staff_opened rfl e he)
      | some _ => exact .inr h.explained.hindered
    · exact h.staffed k heq (hbeside k heq hk)

lemma Staffed.of_local {P : Call → Prop} (h : t.Staffed w k)
    (hlocal : Local place t.ledger t'.ledger) (hexplained : Explained P t failure t')
    (hk : k ≠ place) : t'.Staffed w k :=
  h.imp (hlocal.node_eq k hk) hexplained.subset

lemma startedAt_startEndpoint {start : Drive σ ω Unit} {c : ConnectorId} {i q n : Nat}
    (hw : t.ledger.wiring = w) (hready : Ready Reached (.endpoint c i) t.ledger)
    (hjoint : w.joints[c]? = some (q, n))
    (hstart : ∀ t' : Tree σ ω, t'.ledger.wiring = w → Ready Reached (.node q) t'.ledger →
      start.After True t' fun result t'' => StartedAt w q t' (Result.error? result) t'') :
    ((seat c).startEndpoint start i).After True t fun result t' =>
      StartedAt w q t (Result.error? result) t' := by
  rw [← hw] at hjoint
  obtain ⟨junction, hjunction, hread, rfl, rfl⟩ := exists_junction_of_joint hjoint
  have hi : i < junction.connector.endpoints.length :=
    (Wiring.has_endpoint_iff hjoint).mp hready.has
  have hphase : t.ledger.phase? (.endpoint c i) =
      some (junction.connector.endpoints[i]).phase := by
    simp [phase?_endpoint hjunction, Connector.phases, hi]
  have hunopened : (junction.connector.endpoint i).phase = .unopened := by
    rw [Connector.endpoint, List.getElem?_eq_getElem hi, Option.getD_some]
    by_contra hne
    exact hready.not_marked ⟨_, hphase, hne⟩
  refine after_get_bind.mpr (after_lift_bind.mpr ⟨fun e hcon => ?_, fun con hcon => ?_⟩)
  · rw [hread, Connector.startEndpoint, hunopened] at hcon
    cases hcon
  rw [hread] at hcon
  let t₁ := (seat c).write con t
  have hwrite : StartedAt w junction.producer t none t₁ := by
    refine ⟨.of_write fun hsane => ?_, fun k hk => hk.imp rfl (List.Subset.refl _)⟩
    exact (hread ▸ hsane : junction.connector.Sane).startEndpoint hcon
  refine after_modify_bind.mpr ?_
  rw [hread]
  split_ifs with hfirst
  · have hmoves := moves_startEndpoint hjunction hi hcon
    have hnot : ¬t.ledger.Reached (.joint c) := by
      simpa [Reached, ledger, hjunction, Junction.entry] using hfirst
    refine (hstart t₁ (hmoves.wiring_eq.trans hw) (hready.producer
      (spread_startEndpoint hjunction hi hcon) hmoves.wiring_eq hjoint hnot
      ((reached_joint_startEndpoint hjunction hi hcon c).mpr (.inr rfl)) ?_)).mono
        fun result t' => hwrite.trans
    rintro ⟨phase, hphase, hne⟩
    exact ⟨phase, (hmoves.phase?_ne (.node junction.producer) (by simp)).symm.trans hphase, hne⟩
  · exact after_pure.mpr hwrite

section Workers

variable [Worker ω]

lemma explained_startWorkers {ws : List (ω × Nat)} :
    (startWorkers place ws : Drive σ ω Unit).After True t fun result t' =>
      Explained (StartsBehind w place) t (Result.error? result) t' := by
  induction ws generalizing t with
  | nil => exact after_pure.mpr .refl
  | cons head rest ih =>
    obtain ⟨v, i⟩ := head
    have hcall : (callWorker place i v .start Worker.start : Drive σ ω Unit).After True t
        fun result t' => Explained (StartsBehind w place) t (Result.error? result) t' :=
      after_callWorker.mpr (.of_call
        (c := ⟨place, some i, .start, Result.error? (Worker.start v).1⟩) rfl ⟨rfl, .refl⟩ rfl)
    refine hcall.bind (fun _ _ => id) fun _ t' h => ?_
    have hcount : Explained (StartsBehind w place) t' none
        (t'.changeTeam place fun team => { team with started := i + 1 }) :=
      .of_eq rfl rfl
    exact after_modify_bind.mpr (ih.mono fun result t'' h' => (h.trans hcount).trans h')

/-- If no worker fails, then all of them are open in the end. -/
lemma opened_startWorkers {ws : List ω} {i : Nat} {e : NodeEntry}
    (hentry : t.ledger.nodes[place]? = some e)
    (hstaff : e.staff = (List.range (i + ws.length)).map some)
    (hopened : (List.range i).map some ⊆ e.opened) :
    (startWorkers place (ws.zipIdx i) : Drive σ ω Unit).After True t fun result t' =>
      Result.error? result = none → ∀ e', t'.ledger.nodes[place]? = some e' →
        e'.staff ⊆ e'.opened := by
  induction ws generalizing i e t with
  | nil =>
    refine after_pure.mpr fun _ e' he' => ?_
    rw [hentry, Option.some.injEq] at he'
    rw [← he', hstaff]
    exact hopened
  | cons v ws ih =>
    rw [List.length_cons, Nat.add_comm ws.length, ← Nat.add_assoc] at hstaff
    have hmem : some i ∈ e.staff := by
      simp only [hstaff, List.mem_map_of_injective (Option.some_injective ℕ), List.mem_range]
      omega
    obtain ⟨node, team, hnode, hcrew, -, rfl⟩ := exists_team hentry hmem
    rw [List.zipIdx_cons, startWorkers]
    -- The node after the call, and after the worker is counted.
    let called : Team ω := { team with workers := team.workers.set i (Worker.start v).2 }
    let counted : Team ω := { called with started := i + 1 }
    have hcall : (callWorker place i v .start Worker.start : Drive σ ω Unit).After True t
        fun _ t' => t'.nodes[place]? = some { node with crew := .team called } :=
      after_callWorker.mpr (getElem?_changeTeam hnode hcrew)
    refine hcall.bind (fun _ _ _ herror => (Option.some_ne_none _ herror).elim)
      fun _ t' hnode' => ?_
    have hentry' := ledger_getElem? (getElem?_changeTeam
      (f := fun team => { team with started := i + 1 }) hnode' rfl)
    refine after_modify_bind.mpr (ih (e := Node.entry { node with crew := .team counted })
      hentry' ?_ (List.Subset.refl _))
    rw [← hstaff]
    simp [Node.entry, Crew.staff, hcrew, counted, called]

end Workers

/-- If a source does not fail, then it is open in the end. -/
lemma crewed_startSource [Source σ] {node : Node σ ω} {s : σ} {started : Bool}
    (hnode : t.nodes[place]? = some node) (hcrew : node.crew = .source s started) :
    (do callSource place s false .start Source.start
        modify (·.changeNode place fun node => match node.crew with
          | .source s _ => { node with crew := .source s true }
          | .team _ => node) : Drive σ ω Unit).After True t fun result t' =>
      Crewed w place t (Result.error? result) t' := by
  have hcall : (callSource place s false .start Source.start : Drive σ ω Unit).After True t
      fun result t' => Explained (StartsBehind w place) t (Result.error? result) t' ∧
        t'.nodes[place]? = some { node with crew := .source (Source.start s).2 false } := by
    refine after_callSource.mpr ⟨.of_call
      (c := ⟨place, none, .start, Result.error? (Source.start s).1⟩) rfl ⟨rfl, .refl⟩ rfl, ?_⟩
    exact getElem?_changeNode hnode
  have hopened : (do callSource place s false .start Source.start
                     modify (·.changeNode place fun node => match node.crew with
                       | .source s _ => { node with crew := .source s true }
                       | .team _ => node) : Drive σ ω Unit).After True t fun result t' =>
      Explained (StartsBehind w place) t (Result.error? result) t' ∧
        (Result.error? result = none → ∀ e, t'.ledger.nodes[place]? = some e →
          e.staff ⊆ e.opened) := by
    refine hcall.bind (fun _ _ h => ⟨h.1, nofun⟩) fun _ t' ⟨h, hnode'⟩ => after_modify.mpr ?_
    refine ⟨h.trans (.of_eq rfl rfl), fun _ e he => ?_⟩
    rw [ledger_getElem? (getElem?_changeNode hnode'), Option.some.injEq] at he
    rw [← he]
    exact List.Subset.refl _
  refine (hopened.and (after_startSource (E := True) (e := node.entry) hnode hcrew)).mono ?_
  rintro result t' ⟨⟨hexplained, hopened⟩, hlocal, -⟩
  exact ⟨hexplained, hopened, fun k hk hstaffed => hstaffed.of_local hlocal hexplained hk,
    hlocal.phase?_eq _⟩

section Nodes

variable [Source σ] [Worker ω] {depth : Nat}
  (ih : ∀ (t : Tree σ ω) (q : Nat), t.ledger.wiring = w → Ready Reached (.node q) t.ledger →
    (startNode depth q).After True t fun result t' => StartedAt w q t (Result.error? result) t')

include ih

lemma startedAt_startSupply {x : Supply} (hw : t.ledger.wiring = w)
    (hready : Ready Reached x t.ledger) :
    (onSupply (startNode depth) Seat.startEndpoint x).After True t fun result t' =>
      StartedAt w (w.placeOf x) t (Result.error? result) t' := by
  match x with
  | .node q => exact ih t q hw hready
  | .endpoint c i =>
    obtain ⟨q, n, hjoint, -⟩ := hready.has
    refine after_get_bind.mpr ?_
    rw [producer_eq hjoint, Wiring.placeOf, Wiring.producerOf_eq (hw ▸ hjoint)]
    exact startedAt_startEndpoint hw hready (hw ▸ hjoint) fun t' hw' hready' => ih t' q hw' hready'

/-- What feeds a node is opened one after another, and each time the rest stays for later. -/
lemma startedAt_startSlots {slots : List Slot} (hw : t.ledger.wiring = w)
    (hhas : w.Has (.node place)) (hnodup : (slots.map Slot.supply).Nodup)
    (hfeeds : ∀ slot ∈ slots, slot.supply ∈ w.suppliesOf place)
    (hready : ∀ slot ∈ slots, Ready Reached slot.supply t.ledger) :
    (slots.forM fun slot => onSupply (startNode depth) Seat.startEndpoint slot.supply).After True t
      fun result t' => StartedAt w place t (Result.error? result) t' ∧
        t.ledger.Keeps place t'.ledger := by
  induction slots generalizing t with
  | nil => exact after_pure.mpr ⟨.refl, .refl⟩
  | cons slot slots ihs =>
    obtain ⟨hslot, hrest⟩ := List.forall_mem_cons.mp hready
    obtain ⟨hfeedsSlot, hfeedsRest⟩ := List.forall_mem_cons.mp hfeeds
    rw [List.map_cons, List.nodup_cons] at hnodup
    have hopens : (onSupply (startNode depth) Seat.startEndpoint slot.supply).After True t
        fun result t' => t.ledger.Keeps place t'.ledger ∧
          Opens [slot.supply] t.ledger result t'.ledger := after_startSupply
      (fun q hq t' hw' => (after_startNode (hw' ▸ hslot.sound) (hw' ▸ hw ▸ hq.trans hhas)).imp
        (fun _ => trivial) fun _ _ => id) rfl (hslot.sound.below place _ (hw ▸ hfeedsSlot))
    refine ((startedAt_startSupply ih hw hslot).and hopens).bind ?_ ?_
    · exact fun _ _ h => ⟨h.1.feeds ⟨_, hfeedsSlot, rfl⟩, h.2.1⟩
    · rintro _ t' ⟨hstarted, hkeeps, hopens⟩
      refine (ihs (hkeeps.wiring_eq.trans hw) hnodup.2 hfeedsRest fun other hother => ?_).mono
        fun result t'' h => ⟨(hstarted.feeds ⟨_, hfeedsSlot, rfl⟩).trans h.1, hkeeps.trans h.2⟩
      refine (hrest other hother).later hslot (fun heq => ?_) hopens.spread hopens.wiring_eq
      exact hnodup.1 (heq ▸ List.mem_map_of_mem hother)

/-- A team is opened behind what feeds it. -/
lemma crewed_startTeam {node : Node σ ω} {team : Team ω} (hw : t.ledger.wiring = w)
    (hnode : t.nodes[place]? = some node) (hcrew : node.crew = .team team)
    (hnodup : (w.suppliesOf place).Nodup)
    (hready : ∀ slot ∈ team.slots, Ready Reached slot.supply t.ledger) :
    (do (team.slots.forM fun slot => onSupply (startNode depth) Seat.startEndpoint slot.supply)
        startWorkers place team.workers.zipIdx : Drive σ ω Unit).After True t fun result t' =>
      Crewed w place t (Result.error? result) t' := by
  have hsupplies := hw ▸ suppliesOf_team hnode hcrew
  have hstaff : node.entry.staff = (List.range (0 + team.workers.length)).map some := by
    simp [Node.entry, hcrew, Crew.staff]
  have hhas : w.Has (.node place) :=
    hw ▸ has_node_iff.mpr (List.getElem?_eq_some_iff.mp hnode).1
  refine (startedAt_startSlots ih hw hhas (hsupplies ▸ hnodup)
    (fun slot hslot => hsupplies ▸ List.mem_map_of_mem hslot) hready).bind ?_ ?_
  · rintro e t' ⟨hstarted, hkeeps⟩
    refine ⟨hstarted.explained, fun herror => (Option.some_ne_none _ herror).elim,
      fun k _ => hstarted.staffed k, ?_⟩
    rw [phase?, phase?, hkeeps.node_eq place le_rfl]
  · rintro _ t' ⟨hstarted, hkeeps⟩
    have hentry := (hkeeps.node_eq place le_rfl).trans (ledger_getElem? hnode)
    refine (((explained_startWorkers (w := w)).and
      (opened_startWorkers hentry hstaff (List.nil_subset _))).and
      (after_startWorkers (E := True) (e := node.entry) hstaff)).mono ?_
    rintro result t'' ⟨⟨hexplained, hopened⟩, hlocal, -⟩
    refine ⟨hstarted.explained.trans hexplained, hopened, fun k hk hstaffed =>
      (hstarted.staffed k hstaffed).of_local hlocal hexplained hk, ?_⟩
    rw [hlocal.phase?_eq, phase?, phase?, hkeeps.node_eq place le_rfl]

lemma startedAt_startAt (hw : t.ledger.wiring = w) (hready : Ready Reached (.node place) t.ledger) :
    (startAt (startNode depth) place).After True t fun result t' =>
      StartedAt w place t (Result.error? result) t' ∧
        t'.ledger.phase? (.node place) = some .opened := by
  obtain ⟨node, hnode⟩ := exists_node_of_has hready.has
  have hphase : node.phase = .unopened := by
    by_contra hne
    exact hready.not_marked ⟨node.phase, phase?_node hnode, hne⟩
  refine after_get_bind.mpr ?_
  rw [hnode]
  refine after_lift_bind.mpr ⟨fun e herror => ?_, fun phase hok => ?_⟩
  · rw [hphase] at herror
    cases herror
  obtain ⟨-, rfl⟩ := Phase.start_eq_ok_iff.mp hok
  refine after_modify_bind.mpr ?_
  have hmoves := moves_setPhase hnode .opened
  have hspread := hmoves.spread_reached Phase.noConfusion fun _ => id
  have hmark : Explained (StartsBehind w place) t none
      (t.changeNode place fun node => { node with phase := .opened }) := .of_eq rfl rfl
  have hnode₁ := getElem?_changeNode (f := fun node => { node with phase := .opened }) hnode
  have hbeside (k : Nat) (hk : k ≠ place) (hstaffed : t.Staffed w k) :
      (t.changeNode place fun node => { node with phase := .opened }).Staffed w k := by
    refine hstaffed.imp ?_ (List.Subset.refl _)
    simp [ledger, changeNode, List.getElem?_modify_ne _ _ hk.symm]
  generalize t.changeNode place (fun node => { node with phase := .opened }) = t₁ at *
  have hopened {failure : Option Error} {t' : Tree σ ω} (h : Crewed w place t₁ failure t') :
      StartedAt w place t failure t' ∧ t'.ledger.phase? (.node place) = some .opened :=
    ⟨h.startedAt hmark hbeside, h.phase?_eq.trans hmoves.phase?_self⟩
  split
  · next s started hcrew =>
    exact (crewed_startSource hnode₁ hcrew).mono fun _ _ => hopened
  · next team hcrew =>
    have hw₁ := hmoves.wiring_eq.trans hw
    refine (crewed_startTeam ih hw₁ hnode₁ hcrew (hw ▸ hready.sound.nodup_suppliesOf place)
      fun slot hmem => ?_).mono fun _ _ => hopened
    refine hready.slot hspread hmoves.wiring_eq ⟨.opened, hmoves.phase?_self, Phase.noConfusion⟩
      ?_ (mem_suppliesOf_of_mem_slots hnode hcrew hmem)
    rintro y hy ⟨phase, hphase, hne⟩
    exact ⟨phase, (hmoves.phase?_ne y hy).symm.trans hphase, hne⟩

end Nodes

/-- Opening a tree from a part that was not opened before is never refused, and only executors
downstream of one that fails are left closed at an open node. -/
theorem startedAt_startNode [Source σ] [Worker ω] (depth : Nat) (hw : t.ledger.wiring = w)
    (hready : Ready Reached (.node place) t.ledger) :
    (startNode depth place).After True t fun result t' =>
      StartedAt w place t (Result.error? result) t' ∧
        t'.ledger.phase? (.node place) = some .opened := by
  induction depth generalizing place t with
  | zero => exact after_endless.mpr trivial
  | succ depth ih =>
    exact startedAt_startAt (fun t q hw hready => (ih hw hready).mono fun _ _ => And.left) hw hready

/-- Only calls to open were made. -/
abbrev Started (t : Tree σ ω) (failure : Option Error) (t' : Tree σ ω) : Prop :=
  Explained (·.event = .start) t failure t'

lemma started_startNode [Source σ] [Worker ω] (depth : Nat)
    (hready : Ready Reached (.node place) t.ledger) :
    (startNode depth place).After True t fun result t' =>
      Started t (Result.error? result) t' :=
  (startedAt_startNode depth rfl hready).mono fun _ _ h => h.1.explained.imp fun _ => And.left

end Tree

end Dataflow
