import Dataflow.Proofs.Tree.Change

/-!
# What closing does to the ledger

Closing a node closes everything below it that nobody else needs, whatever fails on the way, and
asks exactly the executors to close that were opened.
-/

namespace Dataflow

namespace Ledger

variable {l l' l'' : Ledger} {xs ys : List Supply} {b : Part}

/-- What closing some nodes and endpoints does to the phases of all parts, whether it fails or
not: they are closed in the end, and so is everything that hangs on a part that was closed. -/
structure Closes (xs : List Supply) (l l' : Ledger) : Prop where
  wiring_eq : l'.wiring = l.wiring
  spread : Spread Done xs l l'
  full : ∀ b, l.Full Done b → l'.Full Done b
  done : ∀ x ∈ xs, l'.Done (.supply x)

namespace Closes

lemma refl (hdone : ∀ x ∈ xs, l.Done (.supply x)) : Closes xs l l where
  wiring_eq := rfl
  spread := .refl
  full := fun _ => id
  done := hdone

lemma trans (h : Closes xs l l') (h' : Closes ys l' l'') : Closes (xs ++ ys) l l'' where
  wiring_eq := h'.wiring_eq.trans h.wiring_eq
  spread := h.spread.trans h'.spread h.wiring_eq
  full := fun b hb => h'.full b (h.full b hb)
  done := by
    intro x hx
    rcases List.mem_append.mp hx with hx | hx
    · exact h'.spread.mono _ (h.done x hx)
    · exact h'.done x hx

/-- Closing spreads from a part that is newly closed to all that hangs on it. -/
lemma under (hspread : Spread Done xs l l') (hwiring : l'.wiring = l.wiring) (hb : ¬l.Done b)
    (hb' : l'.Done b) (hnew : ∀ a, l'.Done a → l.Done a ∨ a = b ∨ ∃ c i,
      a = .supply (.endpoint c i)) (hxs : ∀ x ∈ xs, l'.Done (.supply x))
    (hys : ∀ y, y ∈ ys ↔ l.wiring.Hangs y b) (h : Closes ys l' l'') : Closes xs l l'' where
  wiring_eq := h.wiring_eq.trans hwiring
  spread := hspread.trans_hangs h.spread hwiring (fun y => (hys y).mp) hb hb'
  full := by
    intro a ha
    by_cases hab : a = b
    · intro _ y hy
      rw [h.wiring_eq, hwiring, hab, ← hys] at hy
      exact h.done y hy
    · refine h.full a fun hmarked => ?_
      rcases hnew a hmarked with hold | heq | ⟨c, i, rfl⟩
      · exact ha.imp hspread hwiring (fun _ => hold) hmarked
      · exact (hab heq).elim
      · exact full_endpoint hmarked
  done := fun x hx => h.spread.mono _ (hxs x hx)

lemma of_local {place : Nat} (h : Closes xs l l') (hlocal : Local place l' l'') :
    Closes xs l l'' where
  wiring_eq := hlocal.wiring_eq.trans h.wiring_eq
  spread := h.spread.congr hlocal.done_iff
  full := fun b hb hmarked y hy => (hlocal.done_iff _).mpr
    (h.full b hb ((hlocal.done_iff _).mp hmarked) y (hlocal.wiring_eq ▸ hy))
  done := fun x hx => (hlocal.done_iff _).mpr (h.done x hx)

end Closes

/-! ### Accounts of closing -/

/-- A node is being closed: some of its executors were asked to close. -/
structure Closing (place : Nat) (asked : List (Option Nat)) (l : Ledger) (e : NodeEntry) :
    Prop where
  entry : l.nodes[place]? = some e
  phase_eq : e.phase = .closed
  starts_le : ∀ w, (l.tally (place, w)).starts ≤ 1
  opens_le : ∀ w, (l.tally (place, w)).opens ≤ (l.tally (place, w)).starts
  opens_eq : ∀ w, (l.tally (place, w)).opens = e.opened.count w
  stops_eq : ∀ w, (l.tally (place, w)).stops = asked.count w
  opened_subset : e.opened ⊆ e.staff

namespace Closing

variable {place : Nat} {asked : List (Option Nat)} {e : NodeEntry}

lemma of_keeps (h : Closing place asked l e) (hkeeps : l.Keeps place l') :
    Closing place asked l' e := by
  obtain ⟨hentry, hphase, hstarts, hle, hopens, hstops, hlt⟩ := h
  simp only [← hkeeps.tally_eq place le_rfl] at hstarts hle hopens hstops
  exact ⟨(hkeeps.node_eq place le_rfl).trans hentry, hphase, hstarts, hle, hopens, hstops, hlt⟩

lemma tracked (h : Closing place e.opened l e) : l.Tracked place := by
  intro e' he'
  rw [h.entry, Option.some.injEq] at he'
  subst he'
  exact {
    fresh := fun hphase => by rw [h.phase_eq] at hphase; cases hphase
    starts_le := h.starts_le
    opens_le := h.opens_le
    opens_eq := h.opens_eq
    stops_eq := fun w => by rw [h.stops_eq w, if_pos h.phase_eq]
    opened_subset := h.opened_subset }

/-- One more executor is asked to close. -/
lemma ask {w : Option Nat} {m : Ledger} (h : Closing place asked l e)
    (hentry : m.nodes[place]? = some e)
    (hself : m.tally (place, w) = ⟨(l.tally (place, w)).starts, (l.tally (place, w)).opens,
      (l.tally (place, w)).stops + 1⟩)
    (hother : ∀ w', w' ≠ w → m.tally (place, w') = l.tally (place, w')) :
    Closing place (asked ++ [w]) m e := by
  have hall {P : Option Nat → CallTally → Prop} (hw : P w (m.tally (place, w)))
      (hrest : ∀ w', w' ≠ w → P w' (l.tally (place, w'))) (w' : Option Nat) :
      P w' (m.tally (place, w')) := by
    by_cases heq : w' = w
    · rwa [heq]
    · rw [hother w' heq]
      exact hrest w' heq
  constructor
  · exact hentry
  · exact h.phase_eq
  · exact hall (P := fun _ x => x.starts ≤ 1) (by rw [hself]; exact h.starts_le w)
      fun w' _ => h.starts_le w'
  · exact hall (P := fun _ x => x.opens ≤ x.starts) (by rw [hself]; exact h.opens_le w)
      fun w' _ => h.opens_le w'
  · exact hall (P := fun w' x => x.opens = e.opened.count w')
      (by rw [hself]; exact h.opens_eq w) fun w' _ => h.opens_eq w'
  · refine hall (P := fun w' x => x.stops = (asked ++ [w]).count w') ?_ fun w' hne => ?_
    · rw [hself, List.count_append, List.count_singleton_self, ← h.stops_eq]
    · rw [List.count_append, List.count_singleton, if_neg (by simpa using hne.symm)]
      exact h.stops_eq w'
  · exact h.opened_subset

end Closing

end Ledger

namespace Tree

open Act Ledger

variable {σ ω : Type} {t : Tree σ ω} {place : Nat} {E : Prop}

/-! ### Doing everything -/

lemma after_tryAll_nil {post : Result Unit → Tree σ ω → Prop} :
    (tryAll ([] : List (Drive σ ω Unit))).After E t post ↔ post (.ok ()) t :=
  after_pure

/-- What is done after an action is done whether the action fails or not. -/
lemma after_tryAll_cons {a : Drive σ ω Unit} {rest : List (Drive σ ω Unit)}
    {mid post : Result Unit → Tree σ ω → Prop} (h : a.After E t mid)
    (hrest : ∀ first t', mid first t' → (tryAll rest).After E t' fun others t'' =>
      post (first >>= fun _ => others) t'') : (tryAll (a :: rest)).After E t post := by
  refine after_attempt_bind.mpr (h.mono fun first t' hmid => ?_)
  refine after_attempt_bind.mpr ((hrest first t' hmid).mono fun others t'' hpost => ?_)
  match first with
  | .error e => exact after_lift_bind.mpr ⟨fun e' he' => he' ▸ hpost, nofun⟩
  | .ok _ => exact after_lift_bind.mpr ⟨nofun, fun _ _ => after_lift.mpr hpost⟩

/-! ### Closing workers -/

section Workers

variable [Worker ω]

/-- A worker is asked to close. -/
lemma after_stopWorker {i : Nat} {d : List (Option Nat)} {e : NodeEntry}
    (hmem : some i ∈ e.opened) :
    (stopWorker place i : Drive σ ω Unit).After E t fun _ t' => Local place t.ledger t'.ledger ∧
      (Closing place d t.ledger e → Closing place (d ++ [some i]) t'.ledger e) := by
  refine after_team?_bind (fun hno => ?_) fun node team hnode hcrew => ?_
  · refine after_pure.mpr ⟨.refl, fun hclosing => ?_⟩
    obtain ⟨node, team, hnode, hcrew, -⟩ :=
      exists_team hclosing.entry (hclosing.opened_subset hmem)
    exact (hno node team hnode hcrew).elim
  · match hw : team.workers[i]? with
    | none =>
      simp only [hw]
      refine after_pure.mpr ⟨.refl, fun hclosing => ?_⟩
      obtain ⟨node', team', hnode', hcrew', hlt, -⟩ :=
        exists_team hclosing.entry (hclosing.opened_subset hmem)
      rw [hnode, Option.some.injEq] at hnode'
      rw [← hnode', hcrew, Crew.team.injEq] at hcrew'
      rw [← hcrew'] at hlt
      exact absurd hlt (Nat.not_lt.mpr (List.getElem?_eq_none_iff.mp hw))
    | some w =>
      simp only [hw]
      let t₁ : Tree σ ω := t.changeTeam place fun team =>
        { team with workers := team.workers.set i (Worker.stop w).2 }
      have hledger : t₁.ledger = t.ledger :=
        ledger_changeTeam_of_entry_eq fun _ => ⟨rfl, List.length_set, rfl⟩
      refine after_callWorker.mpr ?_
      rw [← hledger]
      exact ⟨local_call (t := t₁) rfl, fun hclosing => hclosing.ask hclosing.entry
        tally_cons_stop fun _ hne => tally_cons_of_worker_ne hne⟩

/-- All workers of a list are asked to close, also after failures. -/
lemma after_stopWorkers {is : List Nat} {d : List (Option Nat)} {e : NodeEntry}
    (hmem : ∀ i ∈ is, some i ∈ e.opened) :
    (tryAll (is.map (stopWorker place)) : Drive σ ω Unit).After E t fun _ t' =>
      Local place t.ledger t'.ledger ∧
        (Closing place d t.ledger e → Closing place (d ++ is.map some) t'.ledger e) := by
  induction is generalizing d t with
  | nil =>
    refine after_tryAll_nil.mpr ⟨.refl, fun hclosing => ?_⟩
    rwa [List.map_nil, List.append_nil]
  | cons i is ih =>
    obtain ⟨hi, hrest⟩ := List.forall_mem_cons.mp hmem
    refine after_tryAll_cons (after_stopWorker (d := d) hi) ?_
    rintro first t' ⟨hlocal, hclosing⟩
    refine (ih (d := d ++ [some i]) hrest).mono ?_
    rintro others t'' ⟨hlocal', hclosing'⟩
    refine ⟨hlocal.trans hlocal', fun h => ?_⟩
    rw [List.map_cons, List.append_cons]
    exact hclosing' (hclosing h)

/-- The executors of a node that were opened are asked to close, if it was open. -/
lemma after_stopTeam {team : Team ω} {wasOpen : Bool} {e : NodeEntry}
    (hopened : e.opened = (List.range team.started).map some) :
    (tryAll (if wasOpen then (List.range team.started).map (stopWorker place) else []) :
      Drive σ ω Unit).After E t fun _ t' => Local place t.ledger t'.ledger ∧
        (Closing place [] t.ledger e → (wasOpen = false → e.opened = []) →
          t'.ledger.Tracked place) := by
  split_ifs with hwas
  · refine (after_stopWorkers (d := []) (e := e) fun i hi => ?_).mono ?_
    · rw [hopened]
      exact List.mem_map_of_mem hi
    · rintro _ t' ⟨hlocal, hclosing⟩
      refine ⟨hlocal, fun h _ => ?_⟩
      have hend := hclosing h
      rw [List.nil_append, ← hopened] at hend
      exact hend.tracked
  · refine after_tryAll_nil.mpr ⟨.refl, fun h hnil => ?_⟩
    rw [← hnil (by simpa using hwas)] at h
    exact h.tracked

end Workers

/-! ### Closing endpoints -/

lemma stopEndpoint_eq_error {con : Connector} {i : Nat} {e : Error}
    (hi : i < con.endpoints.length) (h : con.stopEndpoint i = .error e) :
    con.phases[i]? = some .closed := by
  rw [Connector.stopEndpoint, Connector.endpoint, List.getElem?_eq_getElem hi,
    Option.getD_some] at h
  rw [Connector.phases, List.getElem?_map, List.getElem?_eq_getElem hi, Option.map_some]
  cases hphase : con.endpoints[i].phase with
  | closed => rfl
  | unopened => rw [hphase] at h; cases h
  | opened => rw [hphase] at h; cases h

lemma stopEndpoint_eq_ok {con con' : Connector} {i : Nat} (hi : i < con.endpoints.length)
    (h : con.stopEndpoint i = .ok con') :
    con.phases[i]? ≠ some .closed ∧ con'.phases = con.phases.set i .closed := by
  rw [Connector.stopEndpoint, Connector.endpoint, List.getElem?_eq_getElem hi,
    Option.getD_some] at h
  have hset := phases_change_phase con i .closed
  rw [Connector.phases, List.getElem?_map, List.getElem?_eq_getElem hi, Option.map_some]
  cases hphase : con.endpoints[i].phase with
  | closed => rw [hphase] at h; cases h
  | unopened => rw [hphase] at h; cases h; exact ⟨by simp, hset⟩
  | opened => rw [hphase] at h; cases h; exact ⟨by simp, hset⟩

lemma isLive_eq_false_iff {con : Connector} :
    con.isLive = false ↔ ∀ phase ∈ con.phases, phase = .closed := by
  simp [Connector.isLive, Connector.phases, Endpoint.isLive]

section Endpoint

variable {c : ConnectorId} {i : Nat} {junction : Junction} {con : Connector}
  (hjunction : t.junctions[c]? = some junction) (hi : i < junction.connector.endpoints.length)
  (hcon : junction.connector.stopEndpoint i = .ok con)

include hjunction hi hcon

lemma moves_stopEndpoint :
    Moves (.endpoint c i) .closed t.ledger ((seat c).write con t).ledger :=
  moves_write hjunction (by simpa [Connector.phases] using hi) (stopEndpoint_eq_ok hi hcon).2

omit hi hcon in
lemma done_joint_write :
    ((seat c).write con t).ledger.Done (.joint c) ↔ con.isLive = false := by
  have hentry : ((seat c).write con t).ledger.joints[c]? =
      some ⟨junction.producer, con.phases, con.started⟩ := by
    rw [getElem?_write hjunction, if_pos rfl]
  rw [isLive_eq_false_iff]
  constructor
  · rintro ⟨joint, h, hall⟩
    cases hentry.symm.trans h
    exact hall
  · exact fun hall => ⟨_, hentry, hall⟩

lemma not_done_joint : ¬t.ledger.Done (.joint c) := by
  rintro ⟨joint, h, hall⟩
  have hentry : t.ledger.joints[c]? = some junction.entry := by simp [ledger, hjunction]
  cases hentry.symm.trans h
  have hphases : i < junction.connector.phases.length := by simpa [Connector.phases] using hi
  have hclosed := hall _ (List.getElem_mem hphases)
  refine (stopEndpoint_eq_ok hi hcon).1 ?_
  rw [List.getElem?_eq_getElem hphases, ← hclosed]

end Endpoint

/-- An endpoint is closed, and with the last one the producer. -/
lemma after_stopEndpoint {stop : Drive σ ω Unit} {c : ConnectorId} {i q n : Nat}
    (hjoint : t.ledger.wiring.joints[c]? = some (q, n)) (hi : i < n)
    (hstop : ∀ t' : Tree σ ω, t'.ledger.wiring = t.ledger.wiring →
      stop.After E t' fun _ t'' =>
        t'.ledger.Keeps place t''.ledger ∧ Closes [.node q] t'.ledger t''.ledger) :
    ((seat c).stopEndpoint stop i).After E t fun _ t' =>
      t.ledger.Keeps place t'.ledger ∧ Closes [.endpoint c i] t.ledger t'.ledger := by
  obtain ⟨junction, hjunction, hread, rfl, rfl⟩ := exists_junction_of_joint hjoint
  refine after_get_bind.mpr (after_lift_bind.mpr ⟨fun e hcon => ?_, fun con hcon => ?_⟩)
  · rw [hread] at hcon
    refine ⟨.refl, .refl ?_⟩
    simpa [Done, phase?_endpoint hjunction] using stopEndpoint_eq_error hi hcon
  rw [hread] at hcon
  refine after_modify_bind.mpr ?_
  -- What the endpoint itself does to the ledger.
  let t₁ := (seat c).measure (.buffered con.producer con.buffer.length) ((seat c).write con t)
  have hmoves : Moves (.endpoint c i) .closed t.ledger t₁.ledger :=
    moves_stopEndpoint hjunction hi hcon
  have hspread := hmoves.spread_done
  have hkeeps : t.ledger.Keeps place t₁.ledger := keeps_write hmoves
  have hself : t₁.ledger.Done (.supply (.endpoint c i)) := hmoves.phase?_self
  have hc : t₁.ledger.Done (.joint c) ↔ con.isLive = false := done_joint_write hjunction
  have hnew (a : Part) (ha : t₁.ledger.Done a) :
      t.ledger.Done a ∨ a = .joint c ∨ ∃ d j, a = .supply (.endpoint d j) := by
    cases a with
    | joint d =>
      by_cases hd : d = c
      · exact .inr (.inl (congrArg _ hd))
      · have hsame : t₁.ledger.joints[d]? = t.ledger.joints[d]? :=
          (getElem?_write hjunction d).trans (if_neg hd)
        simp only [Done, hsame] at ha
        exact .inl ha
    | supply x =>
      cases x with
      | endpoint d j => exact .inr (.inr ⟨d, j, rfl⟩)
      | node k => exact .inl ha
  change (if !con.isLive then stop else pure () : Drive σ ω Unit).After E t₁ _
  split_ifs with hlast
  · refine (hstop t₁ hmoves.wiring_eq).mono ?_
    rintro result t' ⟨hkeeps', hcloses⟩
    refine ⟨hkeeps.trans hkeeps', .under hspread hmoves.wiring_eq
      (not_done_joint hjunction hi hcon) (hc.mpr (by simpa using hlast)) hnew
      (by simpa using hself)
      (fun y => List.mem_singleton.trans (Wiring.hangs_joint_iff hjoint).symm) hcloses⟩
  · refine after_pure.mpr ⟨hkeeps, hmoves.wiring_eq, hspread, fun a ha hmarked => ?_,
      by simpa using hself⟩
    rcases hnew a hmarked with h | rfl | ⟨d, j, rfl⟩
    · exact ha.imp hspread hmoves.wiring_eq (fun _ => h) hmarked
    · exact (hlast (by simpa using hc.mp hmarked)).elim
    · exact full_endpoint hmarked

/-! ### Closing nodes -/

section Node

variable {node : Node σ ω} (hnode : t.nodes[place]? = some node) (hphase : node.phase ≠ .closed)

include hnode hphase

/-- A node is marked as closed before anything that feeds it is closed. -/
lemma closes_node {m : Ledger}
    (h : Closes node.crew.supplies
      (t.changeNode place fun node => { node with phase := .closed }).ledger m) :
    Closes [.node place] t.ledger m := by
  have hmoves := moves_setPhase hnode .closed
  have hdone : (t.changeNode place fun node => { node with phase := .closed }).ledger.Done
      (.supply (.node place)) :=
    hmoves.phase?_self
  refine .under hmoves.spread_done hmoves.wiring_eq ?_ hdone ?_ (by simpa using hdone) ?_ h
  · intro hclosed
    rw [Done, phase?_node hnode, Option.some.injEq] at hclosed
    exact hphase hclosed
  · intro a ha
    rcases a with (k | ⟨c, i⟩) | c
    · by_cases hk : k = place
      · exact .inr (.inl (hk ▸ rfl))
      · rw [Done, hmoves.phase?_ne _ fun heq => hk (Supply.node.inj heq)] at ha
        exact .inl ha
    · exact .inr (.inr ⟨c, i, rfl⟩)
    · exact .inl ha
  · intro y
    rw [Wiring.hangs_node_iff, suppliesOf_node hnode]

lemma closing_node (htracked : t.ledger.Tracked place) :
    Closing place [] (t.changeNode place fun node => { node with phase := .closed }).ledger
      { node.entry with phase := .closed } := by
  have hnode₀ := htracked node.entry (ledger_getElem? hnode)
  exact {
    entry := ledger_getElem? (getElem?_changeNode hnode)
    phase_eq := rfl
    starts_le := hnode₀.starts_le
    opens_le := hnode₀.opens_le
    opens_eq := hnode₀.opens_eq
    stops_eq := fun w => (hnode₀.stops_eq w).trans (if_neg hphase)
    opened_subset := hnode₀.opened_subset }

omit hphase in
lemma opened_eq_nil (htracked : t.ledger.Tracked place) (hunopened : node.phase = .unopened) :
    node.crew.opened = [] :=
  (htracked node.entry (ledger_getElem? hnode)).opened_eq_nil hunopened

end Node

/-- A source is asked to close if it was opened. -/
lemma after_stopSource [Source σ] {node : Node σ ω} {s : σ} {started wasOpen : Bool}
    (hnode : t.nodes[place]? = some node) (hcrew : node.crew = .source s started) :
    (if wasOpen && started then callSource place s started .stop Source.stop else pure () :
      Drive σ ω Unit).After E t fun _ t' => Local place t.ledger t'.ledger ∧
        (Closing place [] t.ledger node.entry → (wasOpen = false → node.crew.opened = []) →
          t'.ledger.Tracked place) := by
  split_ifs with hboth
  · obtain ⟨rfl, rfl⟩ : wasOpen = true ∧ started = true := by simpa using hboth
    let t₁ : Tree σ ω := t.changeNode place fun node =>
      { node with crew := .source (Source.stop s).2 true }
    have hledger : t₁.ledger = t.ledger := ledger_changeNode_of_entry_eq fun old hold => by
      rw [hnode, Option.some.injEq] at hold
      simp only [← hold, Node.entry, hcrew, Crew.supplies, Crew.opened, Crew.staff]
    refine after_callSource.mpr ?_
    rw [← hledger]
    refine ⟨local_call (t := t₁) rfl, fun hclosing _ => ?_⟩
    have hopened : node.entry.opened = [none] := by simp [Node.entry, hcrew, Crew.opened]
    have hend := hclosing.ask hclosing.entry tally_cons_stop
      (m := { t₁ with newestCalls :=
        ⟨place, none, .stop, Result.error? (Source.stop s).1⟩ :: t₁.newestCalls }.ledger)
      fun _ hne => tally_cons_of_worker_ne hne
    rw [List.nil_append, ← hopened] at hend
    exact hend.tracked
  · refine after_pure.mpr ⟨.refl, fun h hnil => ?_⟩
    have hopened : node.entry.opened = [] := by
      cases wasOpen with
      | false => exact hnil rfl
      | true =>
        cases started with
        | false => simp [Node.entry, hcrew, Crew.opened]
        | true => exact (hboth rfl).elim
    rw [← hopened] at h
    exact h.tracked

section Nodes

variable {w : Wiring} {stop : Nat → Drive σ ω Unit}
  (hstop : ∀ q < place, ∀ t' : Tree σ ω, t'.ledger.wiring = w → (stop q).After E t'
    fun _ t'' => t'.ledger.Keeps (q + 1) t''.ledger ∧ Closes [.node q] t'.ledger t''.ledger)

include hstop

lemma after_stopSupply {x : Supply} (hw : t.ledger.wiring = w) (hx : w.Below place x) :
    (onSupply stop Seat.stopEndpoint x).After E t fun _ t' =>
      t.ledger.Keeps place t'.ledger ∧ Closes [x] t.ledger t'.ledger := by
  have hbelow {q : Nat} (hq : q < place) (t' : Tree σ ω) (hw' : t'.ledger.wiring = w) :=
    (hstop q hq t' hw').mono fun _ _ h => And.intro (h.1.mono (m := place) hq) h.2
  match x with
  | .node q => exact hbelow hx t hw
  | .endpoint c i =>
    obtain ⟨q, n, hjoint, hi, hq⟩ := hx
    rw [← hw] at hjoint
    refine after_get_bind.mpr ?_
    rw [producer_eq hjoint]
    exact after_stopEndpoint hjoint hi fun t' hw' => hbelow hq t' (hw'.trans hw)

/-- All that feeds a node is closed, and what comes behind it is done as well. -/
lemma after_stopSlots {slots : List Slot} {rest : List (Drive σ ω Unit)}
    {post : Tree σ ω → Prop} (hw : t.ledger.wiring = w)
    (hslots : ∀ slot ∈ slots, w.Below place slot.supply)
    (hrest : ∀ t', t.ledger.Keeps place t'.ledger →
      Closes (slots.map Slot.supply) t.ledger t'.ledger →
      (tryAll rest).After E t' fun _ => post) :
    (tryAll (slots.map (fun slot => onSupply stop Seat.stopEndpoint slot.supply) ++ rest)).After
      E t fun _ => post := by
  induction slots generalizing t with
  | nil => exact hrest t .refl (.refl fun _ => List.not_mem_nil.elim)
  | cons slot slots ih =>
    obtain ⟨hslot, hslots⟩ := List.forall_mem_cons.mp hslots
    refine after_tryAll_cons (after_stopSupply hstop hw hslot) ?_
    rintro first t' ⟨hkeeps, hcloses⟩
    refine ih (hkeeps.wiring_eq.trans hw) hslots fun t'' hkeeps' hcloses' => ?_
    exact hrest t'' (hkeeps.trans hkeeps') (hcloses.trans hcloses')

variable [Source σ] [Worker ω]

/-- A node is closed after what feeds it. -/
lemma after_stopAt (hw : t.ledger.wiring = w) (hsound : w.Sound) (hhas : w.Has (.node place)) :
    (stopAt stop place).After E t fun _ t' =>
      t.ledger.Keeps (place + 1) t'.ledger ∧ Closes [.node place] t.ledger t'.ledger := by
  obtain ⟨node, hnode⟩ := exists_node_of_has (hw ▸ hhas)
  refine after_get_bind.mpr ?_
  rw [hnode]
  refine after_lift_bind.mpr ⟨fun e herror => ⟨.refl, .refl ?_⟩, fun wasOpen hwasOpen => ?_⟩
  · have hclosed : node.phase = .closed := by
      by_contra hne
      rw [Phase.stop_eq_ok_iff.mpr ⟨hne, rfl⟩] at herror
      cases herror
    simp [Done, phase?_node hnode, hclosed]
  obtain ⟨hphase, hwasOpen⟩ := Phase.stop_eq_ok_iff.mp hwasOpen
  have hunopened (hnot : wasOpen = false) : node.phase = .unopened := by
    rw [hwasOpen, decide_eq_false_iff_not] at hnot
    cases hcase : node.phase with
    | unopened => rfl
    | opened => exact (hnot hcase).elim
    | closed => exact (hphase hcase).elim
  refine after_modify_bind.mpr ?_
  have hbeside := beside_setPhase hnode .closed
  have hcloses {l' : Ledger} := closes_node hnode hphase (m := l')
  have hclosing := closing_node hnode hphase
  have hnil (htracked : t.ledger.Tracked place) (hnot : wasOpen = false) :=
    opened_eq_nil hnode htracked (hunopened hnot)
  have hnode₁ := getElem?_changeNode (f := fun node => { node with phase := .closed }) hnode
  generalize t.changeNode place (fun node => { node with phase := .closed }) = t₁ at *
  split
  · next s started hcrew =>
    refine (after_stopSource hnode₁ hcrew).mono ?_
    rintro result t' ⟨hlocal, htracked⟩
    refine ⟨(hbeside.trans (.of_local hlocal)).keeps fun h => htracked (hclosing h) (hnil h),
      hcloses ?_⟩
    rw [hcrew]
    exact (Closes.refl fun _ => List.not_mem_nil.elim).of_local hlocal
  · next team hcrew =>
    have hsupplies : node.crew.supplies = team.slots.map Slot.supply := by
      rw [hcrew]
      rfl
    have hslots (slot : Slot) (hslot : slot ∈ team.slots) : w.Below place slot.supply :=
      hsound.below place _ (hw ▸ mem_suppliesOf_of_mem_slots hnode hcrew hslot)
    rw [hsupplies] at hcloses
    refine after_modify_bind.mpr ?_
    have hledger : (t₁.changeTeam place fun team => { team with pending := [] }).ledger =
        t₁.ledger :=
      ledger_changeTeam_of_entry_eq fun _ => ⟨rfl, rfl, rfl⟩
    generalize t₁.changeTeam place (fun team => { team with pending := [] }) = t₂ at hledger ⊢
    rw [← hledger] at hbeside hclosing
    simp only [← hledger] at hcloses
    refine after_stopSlots hstop (hbeside.wiring_eq.trans hw) hslots fun t₃ hkeeps hcloses' => ?_
    have hopened : node.entry.opened = (List.range team.started).map some := by
      simp only [Node.entry, hcrew, Crew.opened]
    refine (after_stopTeam (e := { node.entry with phase := .closed }) hopened).mono ?_
    rintro result t' ⟨hlocal, htracked⟩
    refine ⟨((hbeside.trans (.of_keeps hkeeps)).trans (.of_local hlocal)).keeps fun h => ?_,
      hcloses (hcloses'.of_local hlocal)⟩
    exact htracked ((hclosing h).of_keeps hkeeps) (hnil h)

end Nodes

variable [Source σ] [Worker ω]

/-- Closing a node of a soundly wired tree comes to an end if there are no more nodes below it
than it may go deep. -/
theorem after_stopNode {depth : Nat} (hsound : t.ledger.wiring.Sound)
    (hhas : t.ledger.wiring.Has (.node place)) :
    (stopNode depth place).After (depth ≤ place) t fun _ t' =>
      t.ledger.Keeps (place + 1) t'.ledger ∧ Closes [.node place] t.ledger t'.ledger := by
  induction depth generalizing place t with
  | zero => exact after_endless.mpr (Nat.zero_le _)
  | succ depth ih =>
    refine after_stopAt (w := t.ledger.wiring) (fun q hq t' hw => ?_) rfl hsound hhas
    refine (ih (hw ▸ hsound) ?_).imp (by omega) fun _ _ => id
    exact hw ▸ hq.trans hhas

end Tree

end Dataflow
