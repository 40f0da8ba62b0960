import Dataflow.Proofs.Tree.Change

/-!
# What opening does to the ledger

Opening a node asks for everything below it that was not asked for before, and keeps account of
the executors that were opened, also when it fails halfway.
-/

namespace Dataflow

namespace Ledger

variable {l l' l'' : Ledger} {xs ys : List Supply} {b : Part} {result : Result Unit}

/-- A connector of which an endpoint was asked to open was asked to open its producer. -/
def Lit (l : Ledger) : Prop :=
  ∀ c i, l.Reached (.supply (.endpoint c i)) → l.Reached (.joint c)

/-- What opening some nodes and endpoints does to the phases of all parts. After a success
everything that hangs on a part that was opened is open, too. -/
structure Opens (xs : List Supply) (l : Ledger) (result : Result Unit) (l' : Ledger) : Prop where
  wiring_eq : l'.wiring = l.wiring
  done_iff : ∀ a, l'.Done a ↔ l.Done a
  spread : Spread Reached xs l l'
  lit : l.Lit → l'.Lit
  full : result = .ok () → ∀ b, l.Full Reached b → l'.Full Reached b
  reached : result = .ok () → ∀ x ∈ xs, l'.Reached (.supply x)

namespace Opens

lemma refl : Opens [] l result l where
  wiring_eq := rfl
  done_iff := fun _ => .rfl
  spread := .refl
  lit := id
  full := fun _ _ => id
  reached := fun _ _ => List.not_mem_nil.elim

lemma more {e : Error} (h : Opens xs l (.error e) l') (hsub : xs ⊆ ys) :
    Opens ys l (.error e) l' where
  wiring_eq := h.wiring_eq
  done_iff := h.done_iff
  spread := h.spread.mono_list hsub
  lit := h.lit
  full := nofun
  reached := nofun

lemma trans (h : Opens xs l (.ok ()) l') (h' : Opens ys l' result l'') :
    Opens (xs ++ ys) l result l'' where
  wiring_eq := h'.wiring_eq.trans h.wiring_eq
  done_iff := fun a => (h'.done_iff a).trans (h.done_iff a)
  spread := h.spread.trans h'.spread h.wiring_eq
  lit := fun hlit => h'.lit (h.lit hlit)
  full := fun hresult b hb => h'.full hresult b (h.full rfl b hb)
  reached := by
    intro hresult x hx
    rcases List.mem_append.mp hx with hx | hx
    · exact h'.spread.mono _ (h.reached rfl x hx)
    · exact h'.reached hresult x hx

/-- Opening spreads from a part that is newly marked to all that hangs on it. -/
lemma under (hspread : Spread Reached xs l l') (hwiring : l'.wiring = l.wiring)
    (hdone : ∀ a, l'.Done a ↔ l.Done a) (hlit : l.Lit → l'.Lit) (hb : ¬l.Reached b)
    (hb' : l'.Reached b) (hnew : ∀ a, l'.Reached a → l.Reached a ∨ a = b ∨ ∃ c i,
      a = .supply (.endpoint c i)) (hxs : ∀ x ∈ xs, l'.Reached (.supply x))
    (hys : ∀ y, y ∈ ys ↔ l.wiring.Hangs y b) (h : Opens ys l' result l'') :
    Opens xs l result l'' where
  wiring_eq := h.wiring_eq.trans hwiring
  done_iff := fun a => (h.done_iff a).trans (hdone a)
  spread := hspread.trans_hangs h.spread hwiring (fun y => (hys y).mp) hb hb'
  lit := fun h₀ => h.lit (hlit h₀)
  full := by
    intro hresult a ha
    by_cases hab : a = b
    · intro _ y hy
      rw [h.wiring_eq, hwiring, hab, ← hys] at hy
      exact h.reached hresult y hy
    · refine h.full hresult a fun hmarked => ?_
      rcases hnew a hmarked with hold | heq | ⟨c, i, rfl⟩
      · exact ha.imp hspread hwiring (fun _ => hold) hmarked
      · exact (hab heq).elim
      · exact full_endpoint hmarked
  reached := fun _ x hx => h.spread.mono _ (hxs x hx)

/-- What happens within a node afterwards does not matter to the phases. -/
lemma of_local {place : Nat} {result' : Result Unit} (h : Opens xs l result l')
    (hlocal : Local place l' l'') (hresult : result' = .ok () → result = .ok ()) :
    Opens xs l result' l'' where
  wiring_eq := hlocal.wiring_eq.trans h.wiring_eq
  done_iff := fun a => (hlocal.done_iff a).trans (h.done_iff a)
  spread := h.spread.congr hlocal.reached_iff
  lit := fun hlit c i hreached =>
    (hlocal.reached_iff _).mpr (h.lit hlit c i ((hlocal.reached_iff _).mp hreached))
  full := fun hok b hb hmarked y hy => (hlocal.reached_iff _).mpr
    (h.full (hresult hok) b hb ((hlocal.reached_iff _).mp hmarked) y (hlocal.wiring_eq ▸ hy))
  reached := fun hok x hx => (hlocal.reached_iff _).mpr (h.reached (hresult hok) x hx)

end Opens

/-! ### Accounts of opening -/

/-- A node is being opened: its first workers were opened and the others were not asked yet. -/
structure Opening (place i : Nat) (l : Ledger) (e : NodeEntry) : Prop where
  entry : l.nodes[place]? = some e
  phase_eq : e.phase = .opened
  opened_eq : e.opened = (List.range i).map some
  tracked : e.Tracked fun w => l.tally (place, w)
  fresh : ∀ w, w ∉ e.opened → (l.tally (place, w)).starts = 0

lemma Opening.tracked_place {place i : Nat} {e : NodeEntry} (h : Opening place i l e) :
    l.Tracked place := by
  intro e' he'
  rw [h.entry, Option.some.injEq] at he'
  exact he' ▸ h.tracked

lemma Opening.fresh_next {place i : Nat} {e : NodeEntry} (h : Opening place i l e) :
    (l.tally (place, some i)).starts = 0 :=
  h.fresh _ (by simp [h.opened_eq])

lemma Opening.of_keeps {place i : Nat} {e : NodeEntry} (h : Opening place i l e)
    (hkeeps : l.Keeps place l') : Opening place i l' e where
  entry := (hkeeps.node_eq place le_rfl).trans h.entry
  phase_eq := h.phase_eq
  opened_eq := h.opened_eq
  tracked := by simpa only [hkeeps.tally_eq place le_rfl] using h.tracked
  fresh := fun w hw => by rw [hkeeps.tally_eq place le_rfl]; exact h.fresh w hw

end Ledger

/-! ### Accounts of workers -/

namespace NodeEntry.Tracked

variable {e : NodeEntry} {tally tally' : Option Nat → CallTally} {w : Option Nat}

lemma opening (h : e.Tracked tally) (hphase : e.phase = .unopened) :
    NodeEntry.Tracked { e with phase := .opened } tally where
  fresh := nofun
  starts_le := h.starts_le
  opens_le := h.opens_le
  opens_eq := h.opens_eq
  stops_eq := by
    intro w
    rw [h.stops_eq w, hphase, if_neg Phase.noConfusion, if_neg Phase.noConfusion]
  opened_subset := h.opened_subset

lemma start_failed (h : e.Tracked tally) (hphase : e.phase = .opened)
    (hfresh : (tally w).starts = 0)
    (hself : tally' w = ⟨(tally w).starts + 1, (tally w).opens + 0, (tally w).stops⟩)
    (hother : ∀ w', w' ≠ w → tally' w' = tally w') : e.Tracked tally' := by
  have hopens := h.opens_le w
  have hall {P : Option Nat → CallTally → Prop} (hw : P w (tally' w))
      (hrest : ∀ w', P w' (tally w')) (w' : Option Nat) : P w' (tally' w') := by
    by_cases heq : w' = w
    · rwa [heq]
    · rw [hother w' heq]
      exact hrest w'
  constructor
  · exact fun hunopened => by rw [hphase] at hunopened; cases hunopened
  · exact hall (P := fun _ x => x.starts ≤ 1) (by rw [hself, hfresh]) h.starts_le
  · exact hall (P := fun _ x => x.opens ≤ x.starts) (by rw [hself]; simp only; omega) h.opens_le
  · exact hall (P := fun w x => x.opens = e.opened.count w)
      (by rw [hself]; exact h.opens_eq w) h.opens_eq
  · exact hall (P := fun w x => x.stops = if e.phase = .closed then e.opened.count w else 0)
      (by rw [hself]; exact h.stops_eq w) h.stops_eq
  · exact h.opened_subset

/-- A worker opens. -/
lemma start_ok (h : e.Tracked tally) (hphase : e.phase = .opened)
    (hfresh : (tally w).starts = 0) (hmem : w ∈ e.staff)
    (hself : tally' w = ⟨(tally w).starts + 1, (tally w).opens + 1, (tally w).stops⟩)
    (hother : ∀ w', w' ≠ w → tally' w' = tally w') :
    NodeEntry.Tracked { e with opened := e.opened ++ [w] } tally' := by
  have hopens := h.opens_le w
  have hcount := h.opens_eq w
  have hall {P : Option Nat → CallTally → Prop} (hw : P w (tally' w))
      (hrest : ∀ w', w' ≠ w → P w' (tally w')) (w' : Option Nat) : P w' (tally' w') := by
    by_cases heq : w' = w
    · rwa [heq]
    · rw [hother w' heq]
      exact hrest w' heq
  constructor
  · exact fun hunopened => by rw [hphase] at hunopened; cases hunopened
  · exact hall (P := fun _ x => x.starts ≤ 1) (by rw [hself, hfresh]) fun w' _ => h.starts_le w'
  · exact hall (P := fun _ x => x.opens ≤ x.starts) (by rw [hself]; simp only; omega)
      fun w' _ => h.opens_le w'
  · refine hall (P := fun w' x => x.opens = (e.opened ++ [w]).count w') ?_ fun w' hne => ?_
    · rw [hself, List.count_append, List.count_singleton_self, hcount]
    · rw [List.count_append, List.count_singleton, if_neg (by simpa using hne.symm)]
      exact h.opens_eq w'
  · rw [hphase]
    refine hall (P := fun _ x => x.stops = 0) ?_ fun w' _ => ?_
    · rw [hself]
      simpa [hphase] using h.stops_eq w
    · simpa [hphase] using h.stops_eq w'
  · exact List.append_subset.mpr ⟨h.opened_subset, by simpa using hmem⟩

end NodeEntry.Tracked

namespace Tree

open Act Ledger

variable {σ ω : Type} {t : Tree σ ω} {place : Nat} {E : Prop}

/-! ### Opening workers -/

section Workers

variable [Worker ω]

/-- The first worker that is not open yet is asked to open. -/
lemma after_startWorker {i : Nat} {e : NodeEntry} {w : ω} (hmem : some i ∈ e.staff) :
    (do callWorker place i w .start Worker.start
        modify (·.changeTeam place fun team => { team with started := i + 1 }) :
      Drive σ ω Unit).After E t fun result t' =>
        Local place t.ledger t'.ledger ∧
          (Opening place i t.ledger e → match result with
            | .ok _ => Opening place (i + 1) t'.ledger { e with opened := e.opened ++ [some i] }
            | .error _ => t'.ledger.Tracked place) := by
  -- The call itself leaves the entry alone.
  let t₁ : Tree σ ω :=
    t.changeTeam place fun team => { team with workers := team.workers.set i (Worker.start w).2 }
  let call : Call := ⟨place, some i, .start, Result.error? (Worker.start w).1⟩
  let t₂ : Tree σ ω := { t₁ with newestCalls := call :: t₁.newestCalls }
  have hledger₁ : t₁.ledger = t.ledger :=
    ledger_changeTeam_of_entry_eq fun _ => ⟨rfl, List.length_set, rfl⟩
  have hnodes₂ : t₂.ledger.nodes = t.ledger.nodes := by rw [← hledger₁]; rfl
  have hlocal₂ : Local place t.ledger t₂.ledger := hledger₁ ▸ local_call rfl
  have hself : t₂.ledger.tally (place, some i) =
      ⟨(t.ledger.tally (place, some i)).starts + 1,
        (t.ledger.tally (place, some i)).opens + if call.failure = none then 1 else 0,
        (t.ledger.tally (place, some i)).stops⟩ :=
    tally_cons_start
  have hother (w' : Option Nat) (hne : w' ≠ some i) :
      t₂.ledger.tally (place, w') = t.ledger.tally (place, w') :=
    tally_cons_of_worker_ne (c := call) hne
  refine After.bind (Q := fun result t' => result = (Worker.start w).1 ∧ t' = t₂)
    (after_callWorker.mpr ⟨rfl, rfl⟩) ?_ ?_
  · rintro e' _ ⟨hresult, rfl⟩
    refine ⟨hlocal₂, fun hopening k hk => ?_⟩
    rw [hnodes₂, hopening.entry, Option.some.injEq] at hk
    subst hk
    have hfailure : call.failure ≠ none := by
      simp only [call, ← hresult, Result.error?_error, ne_eq, reduceCtorEq, not_false_eq_true]
    rw [if_neg hfailure] at hself
    exact hopening.tracked.start_failed hopening.phase_eq hopening.fresh_next hself hother
  · rintro _ _ ⟨hresult, rfl⟩
    have hfailure : call.failure = none := by
      simp only [call, ← hresult, Result.error?_ok]
    rw [if_pos hfailure] at hself
    have hlocal₃ : Local place t₂.ledger
        (t₂.changeTeam place fun team => { team with started := i + 1 }).ledger :=
      local_changeNode fun node _ => by split <;> simp_all [Crew.supplies]
    refine ⟨hlocal₂.trans hlocal₃, fun hopening => ?_⟩
    have hentry₂ : t₂.ledger.nodes[place]? = some e := by rw [hnodes₂]; exact hopening.entry
    obtain ⟨node, team, hnode, hcrew, -, rfl⟩ := exists_team hentry₂ hmem
    have hrange : node.crew.opened ++ [some i] = (List.range (i + 1)).map some := by
      rw [show node.crew.opened = _ from hopening.opened_eq, List.range_succ, List.map_append,
        List.map_singleton]
    constructor
    · rw [ledger_getElem? (getElem?_changeTeam hnode hcrew)]
      rw [hcrew] at hrange
      simp only [Node.entry, hcrew, hrange, Crew.supplies, Crew.staff]
      rfl
    · exact hopening.phase_eq
    · exact hrange
    · exact hopening.tracked.start_ok hopening.phase_eq hopening.fresh_next
        hmem hself hother
    · intro w' hw'
      rw [List.mem_append, List.mem_singleton, not_or] at hw'
      exact (congrArg CallTally.starts (hother _ hw'.2)).trans (hopening.fresh w' hw'.1)

/-- Opening the workers goes on up to the first failure. -/
lemma after_startWorkers {ws : List ω} {i : Nat} {e : NodeEntry}
    (hstaff : e.staff = (List.range (i + ws.length)).map some) :
    (startWorkers place (ws.zipIdx i) : Drive σ ω Unit).After E t fun result t' =>
      Local place t.ledger t'.ledger ∧
        (Opening place i t.ledger e → match result with
          | .ok _ => ∃ e', Opening place (i + ws.length) t'.ledger e'
          | .error _ => t'.ledger.Tracked place) := by
  induction ws generalizing i e t with
  | nil =>
    exact after_pure.mpr ⟨.refl, fun hopening => ⟨e, hopening⟩⟩
  | cons w ws ih =>
    rw [List.length_cons, Nat.add_comm ws.length, ← Nat.add_assoc] at hstaff ⊢
    rw [List.zipIdx_cons, startWorkers, ← bind_assoc]
    have hmem : some i ∈ e.staff := by
      simp only [hstaff, List.mem_map_of_injective (Option.some_injective ℕ), List.mem_range]
      omega
    refine (after_startWorker (e := e) hmem).bind (fun _ _ => id) ?_
    rintro _ t' ⟨hlocal, hopening⟩
    refine (ih (e := { e with opened := e.opened ++ [some i] }) hstaff).mono ?_
    rintro result t'' ⟨hlocal', hopening'⟩
    exact ⟨hlocal.trans hlocal', fun h => hopening' (hopening h)⟩

end Workers

/-! ### Opening endpoints -/

lemma startEndpoint_eq_ok {con con' : Connector} {i : Nat} (hi : i < con.endpoints.length)
    (h : con.startEndpoint i = .ok con') :
    con.phases[i]? = some .unopened ∧ con'.phases = con.phases.set i .opened ∧
      con'.started = true := by
  obtain ⟨hunopened, rfl⟩ := Connector.startEndpoint_eq_ok_iff.mp h
  rw [Connector.endpoint, List.getElem?_eq_getElem hi, Option.getD_some] at hunopened
  refine ⟨?_, ?_, rfl⟩
  · rw [Connector.phases, List.getElem?_map, List.getElem?_eq_getElem hi, Option.map_some,
      hunopened]
  · exact phases_change_phase con i .opened

section Endpoint

variable {c : ConnectorId} {i : Nat} {junction : Junction} {con : Connector}
  (hjunction : t.junctions[c]? = some junction) (hi : i < junction.connector.endpoints.length)
  (hcon : junction.connector.startEndpoint i = .ok con)

include hjunction hi hcon

lemma moves_startEndpoint :
    Moves (.endpoint c i) .opened t.ledger ((seat c).write con t).ledger :=
  moves_write hjunction (by simpa [Connector.phases] using hi) (startEndpoint_eq_ok hi hcon).2.1

lemma reached_joint_startEndpoint (d : ConnectorId) :
    ((seat c).write con t).ledger.Reached (.joint d) ↔
      t.ledger.Reached (.joint d) ∨ d = c := by
  have hstarted := (startEndpoint_eq_ok hi hcon).2.2
  simp only [Reached, getElem?_write hjunction]
  by_cases hd : d = c <;> simp [hd, hstarted]

lemma spread_startEndpoint :
    Spread Reached [.endpoint c i] t.ledger ((seat c).write con t).ledger :=
  (moves_startEndpoint hjunction hi hcon).spread_reached Phase.noConfusion fun d hd =>
    (reached_joint_startEndpoint hjunction hi hcon d).mpr (.inl hd)

end Endpoint

/-- An endpoint is opened, and with the first one the producer. -/
lemma after_startEndpoint {start : Drive σ ω Unit} {c : ConnectorId} {i q n : Nat}
    (hjoint : t.ledger.wiring.joints[c]? = some (q, n)) (hi : i < n)
    (hstart : ∀ t' : Tree σ ω, t'.ledger.wiring = t.ledger.wiring →
      start.After E t' fun result t'' =>
        t'.ledger.Keeps place t''.ledger ∧ Opens [.node q] t'.ledger result t''.ledger) :
    ((seat c).startEndpoint start i).After E t fun result t' =>
      t.ledger.Keeps place t'.ledger ∧ Opens [.endpoint c i] t.ledger result t'.ledger := by
  obtain ⟨junction, hjunction, hread, rfl, rfl⟩ := exists_junction_of_joint hjoint
  refine after_get_bind.mpr (after_lift_bind.mpr ⟨fun e _ => ?_, fun con hcon => ?_⟩)
  · exact ⟨.refl, Opens.refl.more (List.nil_subset _)⟩
  rw [hread] at hcon
  -- What the endpoint itself does to the ledger.
  let t₁ := (seat c).write con t
  have hmoves : Moves (.endpoint c i) .opened t.ledger t₁.ledger :=
    moves_startEndpoint hjunction hi hcon
  have hphase : t.ledger.phase? (.endpoint c i) = some .unopened :=
    (phase?_endpoint hjunction i).trans (startEndpoint_eq_ok hi hcon).1
  have hjoint₁ := reached_joint_startEndpoint hjunction hi hcon
  have hspread : Spread Reached [.endpoint c i] t.ledger t₁.ledger :=
    spread_startEndpoint hjunction hi hcon
  have hkeeps : t.ledger.Keeps place t₁.ledger := keeps_write hmoves
  have hdone := hmoves.done_iff Phase.noConfusion (by simp [hphase])
  have hself : t₁.ledger.Reached (.supply (.endpoint c i)) :=
    ⟨.opened, hmoves.phase?_self, Phase.noConfusion⟩
  have hnew (a : Part) (ha : t₁.ledger.Reached a) :
      t.ledger.Reached a ∨ a = .joint c ∨ ∃ d j, a = .supply (.endpoint d j) := by
    rcases a with (k | ⟨d, j⟩) | d
    · exact .inl ha
    · exact .inr (.inr ⟨d, j, rfl⟩)
    · exact ((hjoint₁ d).mp ha).imp_right fun hd => .inl (congrArg _ hd)
  have hlit (h : t.ledger.Lit) : t₁.ledger.Lit := by
    rintro d j ⟨phase, hphase, hne⟩
    by_cases hd : d = c
    · exact (hjoint₁ d).mpr (.inr hd)
    · rw [hmoves.phase?_ne _ fun heq => hd (Supply.endpoint.inj heq).1] at hphase
      exact (hjoint₁ d).mpr (.inl (h d j ⟨phase, hphase, hne⟩))
  have hys (y : Supply) :
      y ∈ [Supply.node junction.producer] ↔ t.ledger.wiring.Hangs y (.joint c) :=
    List.mem_singleton.trans (Wiring.hangs_joint_iff hjoint).symm
  refine after_modify_bind.mpr ?_
  rw [hread]
  split_ifs with hfirst
  · have hnot : ¬t.ledger.Reached (.joint c) := by
      simpa [Reached, ledger, hjunction, Junction.entry] using hfirst
    refine (hstart t₁ hmoves.wiring_eq).mono ?_
    rintro result t' ⟨hkeeps', hopens⟩
    exact ⟨hkeeps.trans hkeeps', .under hspread hmoves.wiring_eq hdone hlit hnot
      ((hjoint₁ c).mpr (.inr rfl)) hnew (by simpa using hself) hys hopens⟩
  · have hold : t.ledger.Reached (.joint c) := by
      simpa [Reached, ledger, hjunction, Junction.entry] using hfirst
    refine after_pure.mpr ⟨hkeeps, hmoves.wiring_eq, hdone, hspread, hlit, fun _ a ha => ?_,
      by simpa using hself⟩
    intro hmarked
    rcases hnew a hmarked with h | rfl | ⟨d, j, rfl⟩
    · exact ha.imp hspread hmoves.wiring_eq (fun _ => h) hmarked
    · exact ha.imp hspread hmoves.wiring_eq (fun _ => hold) hmarked
    · exact full_endpoint hmarked

/-! ### Opening nodes -/

section Node

variable {node : Node σ ω} (hnode : t.nodes[place]? = some node)
  (hphase : node.phase = .unopened)

include hnode hphase

/-- A node is marked as open before anything that feeds it is opened. -/
lemma opens_node {r : Result Unit} {m : Ledger}
    (h : Opens node.crew.supplies
      (t.changeNode place fun node => { node with phase := .opened }).ledger r m) :
    Opens [.node place] t.ledger r m := by
  have hmoves := moves_setPhase hnode .opened
  have hunopened : t.ledger.phase? (.node place) = some .unopened :=
    hphase ▸ phase?_node hnode
  have hreached : (t.changeNode place fun node => { node with phase := .opened }).ledger.Reached
      (.supply (.node place)) :=
    ⟨.opened, hmoves.phase?_self, Phase.noConfusion⟩
  refine .under (hmoves.spread_reached Phase.noConfusion fun _ => id) hmoves.wiring_eq
    (hmoves.done_iff Phase.noConfusion (by simp [hunopened])) ?_ ?_ hreached ?_
    (by simpa using hreached) ?_ h
  · exact fun hlit c i hc => hlit c i hc
  · rintro ⟨phase, hold, hne⟩
    rw [hunopened, Option.some.injEq] at hold
    exact hne hold.symm
  · intro a ha
    rcases a with (k | ⟨c, i⟩) | c
    · by_cases hk : k = place
      · exact .inr (.inl (hk ▸ rfl))
      · obtain ⟨phase, hold, hne⟩ := ha
        rw [hmoves.phase?_ne _ fun heq => hk (Supply.node.inj heq)] at hold
        exact .inl ⟨phase, hold, hne⟩
    · exact .inr (.inr ⟨c, i, rfl⟩)
    · exact .inl ha
  · intro y
    rw [Wiring.hangs_node_iff, suppliesOf_node hnode]

lemma opening_node (htracked : t.ledger.Tracked place) :
    Opening place 0 (t.changeNode place fun node => { node with phase := .opened }).ledger
      { node.entry with phase := .opened } := by
  have hnode₀ := htracked node.entry (ledger_getElem? hnode)
  have hfresh := hnode₀.fresh hphase
  exact {
    entry := ledger_getElem? (getElem?_changeNode hnode)
    phase_eq := rfl
    opened_eq := hnode₀.opened_eq_nil hphase
    tracked := hnode₀.opening hphase
    fresh := fun w _ => hfresh w }

end Node

/-- Opening a source. -/
lemma after_startSource [Source σ] {node : Node σ ω} {s : σ} {started : Bool} {e : NodeEntry}
    (hnode : t.nodes[place]? = some node) (hcrew : node.crew = .source s started) :
    (do callSource place s false .start Source.start
        modify (·.changeNode place fun node => match node.crew with
          | .source s _ => { node with crew := .source s true }
          | .team _ => node) : Drive σ ω Unit).After E t fun _ t' =>
      Local place t.ledger t'.ledger ∧ (Opening place 0 t.ledger e → t'.ledger.Tracked place) := by
  let t₁ : Tree σ ω := t.changeNode place fun node =>
    { node with crew := .source (Source.start s).2 false }
  let call : Call := ⟨place, none, .start, Result.error? (Source.start s).1⟩
  let t₂ : Tree σ ω := { t₁ with newestCalls := call :: t₁.newestCalls }
  have hself : t₂.ledger.tally (place, none) =
      ⟨(t.ledger.tally (place, none)).starts + 1,
        (t.ledger.tally (place, none)).opens + if call.failure = none then 1 else 0,
        (t.ledger.tally (place, none)).stops⟩ :=
    tally_cons_start
  have hother (w' : Option Nat) (hne : w' ≠ none) :
      t₂.ledger.tally (place, w') = t.ledger.tally (place, w') :=
    tally_cons_of_worker_ne (c := call) hne
  have hlocal₁ : Local place t.ledger t₁.ledger :=
    local_changeNode fun old hold => by
      rw [hnode, Option.some.injEq] at hold
      exact ⟨rfl, by rw [← hold, hcrew]; rfl⟩
  have hlocal₂ : Local place t.ledger t₂.ledger := hlocal₁.trans (local_call rfl)
  have hnode₂ : t₂.nodes[place]? = some { node with crew := .source (Source.start s).2 false } :=
    getElem?_changeNode hnode
  -- A source that is being opened has not been opened before, so that its entry stays the same.
  have hentry (hopening : Opening place 0 t.ledger e) :
      t₂.ledger.nodes[place]? = some e ∧ e.supplies = [] ∧ e.opened = [] ∧ e.staff = [none] := by
    have heq := hopening.entry
    have hnil := hopening.opened_eq
    rw [ledger_getElem? hnode, Option.some.injEq] at heq
    subst heq
    rw [ledger_getElem? hnode₂]
    simp_all [Node.entry, Crew.supplies, Crew.opened, Crew.staff]
  refine After.bind (Q := fun result t' => result = (Source.start s).1 ∧ t' = t₂)
    (after_callSource.mpr ⟨rfl, rfl⟩) ?_ ?_
  · rintro e' _ ⟨hresult, rfl⟩
    refine ⟨hlocal₂, fun hopening k hk => ?_⟩
    rw [(hentry hopening).1, Option.some.injEq] at hk
    subst hk
    have hfailure : call.failure ≠ none := by
      simp only [call, ← hresult, Result.error?_error, ne_eq, reduceCtorEq, not_false_eq_true]
    rw [if_neg hfailure] at hself
    exact hopening.tracked.start_failed hopening.phase_eq
      (hopening.fresh none (by simp [hopening.opened_eq])) hself hother
  · rintro _ _ ⟨hresult, rfl⟩
    have hfailure : call.failure = none := by
      simp only [call, ← hresult, Result.error?_ok]
    rw [if_pos hfailure] at hself
    refine ⟨hlocal₂.trans (local_changeNode fun node _ => ?_), fun hopening k hk => ?_⟩
    · split <;> simp_all [Crew.supplies]
    obtain ⟨hentry₂, hsupplies, hopened, hstaff⟩ := hentry hopening
    rw [ledger_getElem? hnode₂, Option.some.injEq] at hentry₂
    rw [ledger_getElem? (getElem?_changeNode hnode₂), Option.some.injEq] at hk
    have htracked := hopening.tracked.start_ok hopening.phase_eq
      (hopening.fresh none (by simp [hopening.opened_eq])) (by simp [hstaff]) hself hother
    have heq : k = { e with opened := e.opened ++ [none] } := by
      subst hk hentry₂
      rfl
    exact heq ▸ htracked

section Nodes

variable {w : Wiring} {start : Nat → Drive σ ω Unit}
  (hstart : ∀ q < place, ∀ t' : Tree σ ω, t'.ledger.wiring = w → (start q).After E t'
    fun result t'' => t'.ledger.Keeps (q + 1) t''.ledger ∧
      Opens [.node q] t'.ledger result t''.ledger)

include hstart

lemma after_startSupply {x : Supply} (hw : t.ledger.wiring = w) (hx : w.Below place x) :
    (onSupply start Seat.startEndpoint x).After E t fun result t' =>
      t.ledger.Keeps place t'.ledger ∧ Opens [x] t.ledger result t'.ledger := by
  have hbelow {q : Nat} (hq : q < place) (t' : Tree σ ω) (hw' : t'.ledger.wiring = w) :=
    (hstart q hq t' hw').mono fun _ _ h => And.intro (h.1.mono (m := place) hq) h.2
  match x with
  | .node q => exact hbelow hx t hw
  | .endpoint c i =>
    obtain ⟨q, n, hjoint, hi, hq⟩ := hx
    rw [← hw] at hjoint
    refine after_get_bind.mpr ?_
    rw [producer_eq hjoint]
    exact after_startEndpoint hjoint hi fun t' hw' => hbelow hq t' (hw'.trans hw)

/-- All that feeds a node is opened, up to the first failure. -/
lemma after_startSlots {slots : List Slot} (hw : t.ledger.wiring = w)
    (hslots : ∀ slot ∈ slots, w.Below place slot.supply) :
    (slots.forM fun slot => onSupply start Seat.startEndpoint slot.supply).After E t
      fun result t' => t.ledger.Keeps place t'.ledger ∧
        Opens (slots.map Slot.supply) t.ledger result t'.ledger := by
  induction slots generalizing t with
  | nil => exact after_pure.mpr ⟨.refl, .refl⟩
  | cons slot slots ih =>
    obtain ⟨hslot, hrest⟩ := List.forall_mem_cons.mp hslots
    refine (after_startSupply hstart hw hslot).bind ?_ ?_
    · rintro e t' ⟨hkeeps, hopens⟩
      exact ⟨hkeeps, hopens.more (by simp)⟩
    · rintro _ t' ⟨hkeeps, hopens⟩
      refine (ih (hkeeps.wiring_eq.trans hw) hrest).mono ?_
      rintro result t'' ⟨hkeeps', hopens'⟩
      exact ⟨hkeeps.trans hkeeps', hopens.trans hopens'⟩

variable [Source σ] [Worker ω]

/-- A node is opened after what feeds it. -/
lemma after_startAt (hw : t.ledger.wiring = w) (hsound : w.Sound) (hhas : w.Has (.node place)) :
    (startAt start place).After E t fun result t' =>
      t.ledger.Keeps (place + 1) t'.ledger ∧
        Opens [.node place] t.ledger result t'.ledger := by
  obtain ⟨node, hnode⟩ := exists_node_of_has (hw ▸ hhas)
  refine after_get_bind.mpr ?_
  rw [hnode]
  refine after_lift_bind.mpr ⟨fun e _ => ⟨.refl, Opens.refl.more (List.nil_subset _)⟩, ?_⟩
  intro phase hstartPhase
  obtain ⟨hphase, rfl⟩ := Phase.start_eq_ok_iff.mp hstartPhase
  refine after_modify_bind.mpr ?_
  have hbeside := beside_setPhase hnode .opened
  have hopens {result : Result Unit} {l' : Ledger} := opens_node hnode hphase (r := result)
    (m := l')
  have hopening := opening_node hnode hphase
  have hnode₁ := getElem?_changeNode (f := fun node => { node with phase := .opened }) hnode
  generalize t.changeNode place (fun node => { node with phase := .opened }) = t₁ at *
  split
  · next s started hcrew =>
    refine (after_startSource (e := { node.entry with phase := .opened }) hnode₁ hcrew).mono ?_
    rintro result t' ⟨hlocal, htracked⟩
    refine ⟨(hbeside.trans (.of_local hlocal)).keeps fun h => htracked (hopening h), hopens ?_⟩
    rw [hcrew]
    exact Opens.refl.of_local hlocal id
  · next team hcrew =>
    have hsupplies : node.crew.supplies = team.slots.map Slot.supply := by
      rw [hcrew]
      rfl
    have hslots (slot : Slot) (hslot : slot ∈ team.slots) : w.Below place slot.supply :=
      hsound.below place _ (hw ▸ mem_suppliesOf_of_mem_slots hnode hcrew hslot)
    rw [hsupplies] at hopens
    refine (after_startSlots hstart (hbeside.wiring_eq.trans hw) hslots).bind ?_ ?_
    · rintro e t' ⟨hkeeps, hopens'⟩
      refine ⟨(hbeside.trans (.of_keeps hkeeps)).keeps fun h => ?_, hopens hopens'⟩
      exact ((hopening h).of_keeps hkeeps).tracked_place
    · rintro _ t' ⟨hkeeps, hopens'⟩
      have hstaff : node.entry.staff = (List.range (0 + team.workers.length)).map some := by
        simp [Node.entry, hcrew, Crew.staff]
      refine (after_startWorkers (e := { node.entry with phase := .opened }) hstaff).mono ?_
      rintro result t'' ⟨hlocal, hworkers⟩
      refine ⟨((hbeside.trans (.of_keeps hkeeps)).trans (.of_local hlocal)).keeps fun h => ?_,
        hopens (hopens'.of_local hlocal fun _ => rfl)⟩
      have hend := hworkers ((hopening h).of_keeps hkeeps)
      cases result with
      | ok _ => exact hend.choose_spec.tracked_place
      | error _ => exact hend

end Nodes

variable [Source σ] [Worker ω]

/-- Opening a node of a soundly wired tree comes to an end if there are no more nodes below it
than it may go deep. -/
theorem after_startNode {depth : Nat} (hsound : t.ledger.wiring.Sound)
    (hhas : t.ledger.wiring.Has (.node place)) :
    (startNode depth place).After (depth ≤ place) t fun result t' =>
      t.ledger.Keeps (place + 1) t'.ledger ∧
        Opens [.node place] t.ledger result t'.ledger := by
  induction depth generalizing place t with
  | zero => exact after_endless.mpr (Nat.zero_le _)
  | succ depth ih =>
    refine after_startAt (w := t.ledger.wiring) (fun q hq t' hw => ?_) rfl hsound hhas
    refine (ih (hw ▸ hsound) ?_).imp (by omega) fun _ _ => id
    exact hw ▸ hq.trans hhas

end Tree

end Dataflow
