import Dataflow.Proofs.Act
import Dataflow.Tree.Drive

/-!
# What operations keep

Opening, pulling and closing consist of a few changes to a tree, wherever in it they are made. A
property of trees that each of these changes keeps is kept by the operation as a whole, whatever
happens in it.
-/

namespace Dataflow

namespace Tree

open Act

variable {σ ω α : Type} {P : Tree σ ω → Prop} {t : Tree σ ω} {place : Nat}

section Calls

variable {event : Event} {E : Prop}

lemma after_callSource {s : σ} {started : Bool} {f : σ → Result α × σ}
    {post : Result α → Tree σ ω → Prop} :
    (callSource place s started event f).After E t post ↔
      post (f s).1
        { t.changeNode place fun node => { node with crew := .source (f s).2 started } with
          newestCalls := ⟨place, none, event, Result.error? (f s).1⟩ :: t.newestCalls } :=
  .rfl

lemma after_callWorker {i : Nat} {w : ω} {f : ω → Result α × ω}
    {post : Result α → Tree σ ω → Prop} :
    (callWorker place i w event f).After E t post ↔
      post (f w).1
        { t.changeTeam place fun team => { team with workers := team.workers.set i (f w).2 } with
          newestCalls := ⟨place, some i, event, Result.error? (f w).1⟩ :: t.newestCalls } :=
  .rfl

/-- A node has a team, which is then as it was found, or has none. -/
lemma after_team?_bind {f : Option (Team ω) → Drive σ ω α}
    {post : Result α → Tree σ ω → Prop}
    (hnone : (∀ node team, t.nodes[place]? = some node → node.crew ≠ .team team) →
      (f none).After E t post)
    (hteam : ∀ node team, t.nodes[place]? = some node → node.crew = .team team →
      (f (some team)).After E t post) : ((team? place : Drive σ ω _) >>= f).After E t post := by
  have hrun : (team? place : Drive σ ω _).After E t fun result t' => t' = t ∧
      ∃ found, result = .ok found ∧ (f found).After E t post := by
    refine after_get_bind.mpr ?_
    match hnode : t.nodes[place]? with
    | none =>
      refine after_pure.mpr ⟨rfl, none, rfl, hnone ?_⟩
      rintro node team hsome -
      rw [hnode] at hsome
      cases hsome
    | some node =>
      match hcrew : node.crew with
      | .team team =>
        simp only [Option.map_some, hcrew]
        exact after_pure.mpr ⟨rfl, _, rfl, hteam node team hnode hcrew⟩
      | .source s started =>
        simp only [Option.map_some, hcrew]
        refine after_pure.mpr ⟨rfl, none, rfl, hnone ?_⟩
        intro node' team hsome hteam
        rw [hnode, Option.some.injEq] at hsome
        rw [← hsome, hcrew] at hteam
        cases hteam
  refine hrun.bind ?_ ?_
  · rintro e _ ⟨-, found, hfound, -⟩
    cases hfound
  · rintro x _ ⟨rfl, found, ⟨⟩, hpost⟩
    exact hpost

lemma keeps_team? : (team? place : Drive σ ω (Option (Team ω))).Keeps P :=
  fun t ht => after_get_bind.mpr <| by split <;> exact keeps_pure _ t ht

lemma after_now_bind {f : Nat → Drive σ ω α} {post : Result α → Tree σ ω → Prop} :
    (now >>= f).After E t post ↔
      (f (t.clock t.readings)).After E { t with readings := t.readings + 1 } post := by
  unfold After
  rw [outcome_bind]
  rfl

/-- A worker that takes something in is called once, when the clock was read, and its team keeps
what it gives. Where there is no such worker, nothing happens. -/
lemma after_handed [Worker ω] {i : Nat} {input : Input} {post : Result Unit → Tree σ ω → Prop}
    (hnone : (∀ node team, t.nodes[place]? = some node → node.crew = .team team →
      team.workers[i]? = none) → post (.ok ()) t)
    (hworker : ∀ node team w, t.nodes[place]? = some node → node.crew = .team team →
      team.workers[i]? = some w →
        (callWorker place i w (.process input) (Worker.process (t.clock t.readings) input) :
          Drive σ ω (List Tuple)).After E { t with readings := t.readings + 1 } fun
            | .ok given, t' => post (.ok ()) ((t'.changeTeam place fun team =>
                { team with pending := team.pending ++ given }).measure (.call node.operator.id
                  node.operator.kind.tag (if input.isTuple then 1 else 0) given.length
                  (.zero false)))
            | .error e, t' => post (.error e) t') :
    (deliver place i input : Drive σ ω Unit).After E t post := by
  refine after_get_bind.mpr ?_
  split
  · next operator schema phase team hnode =>
    split
    · next w hw =>
      refine after_now_bind.mpr ?_
      exact (hworker _ team w hnode rfl hw).bind (fun _ _ => id) fun _ _ h => after_modify.mpr h
    · next hw =>
      refine after_pure.mpr (hnone fun node team' hnode' hcrew => ?_)
      cases hnode.symm.trans hnode'
      cases hcrew
      exact hw
  · next hnode =>
    refine after_pure.mpr (hnone ?_)
    rintro ⟨operator, schema, phase, crew⟩ team hnode' rfl
    exact (hnode _ _ _ _ hnode').elim

lemma keeps_onSupply {onNode : Nat → Drive σ ω α}
    {onEndpoint : Seat (Tree σ ω) → Drive σ ω α → Nat → Drive σ ω α}
    (hnode : ∀ q, (onNode q).Keeps P)
    (hendpoint : ∀ c q i, (onEndpoint (seat c) (onNode q) i).Keeps P) (x : Supply) :
    (onSupply onNode onEndpoint x).Keeps P := by
  cases x with
  | node q => exact hnode q
  | endpoint c i => exact fun t ht => after_get_bind.mpr (hendpoint c _ i t ht)

end Calls

section Start

variable [Source σ] [Worker ω]

/-- A property of trees that everything keeps which opening does. A worker that is opened was read
when its node was looked at. -/
structure StartKeeps (P : Tree σ ω → Prop) : Prop where
  endpoint : ∀ {t c i con}, P t → ((seat c).read t).startEndpoint i = .ok con →
    P ((seat c).write con t)
  team : ∀ {t place node team}, P t → t.nodes[place]? = some node → node.phase = .unopened →
    node.crew = .team team → P (t.changeNode place fun node => { node with phase := .opened })
  /-- A node with a source counts as open, and the source is asked to open. -/
  source : ∀ {t place node s started}, P t → t.nodes[place]? = some node →
    node.phase = .unopened → node.crew = .source s started →
      (setPhase place .opened >>= fun _ => callSource place s false .start Source.start).After
        True t fun _ => P
  mark : ∀ {t place f}, P t → (∀ node : Node σ ω, f node = node ∨
    ∃ s started, node.crew = .source s started ∧ f node = { node with crew := .source s true }) →
      P (t.changeNode place f)
  worker : ∀ {t₀ t place node team i w}, P t₀ → t₀.nodes[place]? = some node →
    node.crew = .team team → team.workers[i]? = some w → P t →
      (callWorker place i w .start Worker.start : Drive σ ω Unit).After True t fun _ => P
  count : ∀ {t place n}, P t → P (t.changeTeam place fun team => { team with started := n })

namespace StartKeeps

variable (h : StartKeeps P)

include h

lemma startEndpoint {start : Drive σ ω Unit} (hstart : start.Keeps P) (c : ConnectorId) (i : Nat) :
    ((seat c).startEndpoint start i).Keeps P := by
  refine fun t ht => after_get_bind.mpr (after_lift_bind.mpr ⟨fun _ _ => ht, fun con hcon => ?_⟩)
  refine after_modify_bind.mpr ?_
  split_ifs
  · exact hstart _ (h.endpoint ht hcon)
  · exact after_pure.mpr (h.endpoint ht hcon)

lemma startWorkers {node : Node σ ω} {team : Team ω} (ht : P t)
    (hnode : t.nodes[place]? = some node) (hcrew : node.crew = .team team) {ws : List (ω × Nat)}
    (hws : ∀ entry ∈ ws, team.workers[entry.2]? = some entry.1) :
    (startWorkers place ws : Drive σ ω Unit).Keeps P := by
  induction ws with
  | nil => exact keeps_pure _
  | cons entry ws ih =>
    obtain ⟨hw, hrest⟩ := List.forall_mem_cons.mp hws
    exact Keeps.bind (fun _ => h.worker ht hnode hcrew hw) fun _ =>
      Keeps.bind (keeps_modify fun _ => h.count) fun _ => ih hrest

lemma startAt {start : Nat → Drive σ ω Unit} (hstart : ∀ q, (start q).Keeps P) :
    (startAt start place).Keeps P := by
  intro t ht
  refine after_get_bind.mpr ?_
  cases hnode : t.nodes[place]? with
  | none => exact after_pure.mpr ht
  | some node =>
    refine after_lift_bind.mpr ⟨fun _ _ => ht, fun phase hphase => ?_⟩
    obtain ⟨hunopened, rfl⟩ := Phase.start_eq_ok_iff.mp hphase
    cases hcrew : node.crew with
    | source s started =>
      refine (h.source ht hnode hunopened hcrew).bind (fun _ _ => id) fun _ t' ht' =>
        after_modify.mpr (h.mark ht' fun other => ?_)
      cases hother : other.crew with
      | source s' started' => exact .inr ⟨s', started', rfl, rfl⟩
      | team => exact .inl rfl
    | team team =>
      refine after_modify_bind.mpr (Keeps.bind (keeps_forM _ fun slot _ => ?_) (fun _ => ?_) _
        (h.team ht hnode hunopened hcrew))
      · exact keeps_onSupply hstart (fun c q i => h.startEndpoint (hstart q) c i) _
      · refine h.startWorkers ht hnode hcrew fun entry hentry => ?_
        exact List.mem_zipIdx_iff_getElem?.mp hentry

/-- Opening a node keeps the property. -/
theorem startNode (depth place : Nat) : (startNode depth place : Drive σ ω Unit).Keeps P := by
  induction depth generalizing place with
  | zero => exact keeps_endless
  | succ depth ih => exact h.startAt ih

lemma start (depth : Nat) : (start depth : Drive σ ω Unit).Keeps P :=
  fun t ht => after_get_bind.mpr (h.startNode depth t.root t ht)

end StartKeeps

end Start

section Next

/-- A property of trees that everything keeps which pulling does. Workers are asked to take
something in only at open nodes. -/
structure NextKeeps [Source σ] [Worker ω] (isOpen : Nat → Prop) (P : Tree σ ω → Prop) : Prop where
  opened : ∀ {t place node}, P t → t.nodes[place]? = some node → node.phase = .opened →
    isOpen place
  read : ∀ {t c i x con}, P t → ((seat c).read t).read i = .ok (x, con) →
    ((seat c).settle con).After True t fun _ => P
  push : ∀ {t c x}, P t → P ((seat c).write (((seat c).read t).push x) t)
  finish : ∀ {t c}, P t → P ((seat c).write ((seat c).read t).finish t)
  source : ∀ {t place node s started}, P t → t.nodes[place]? = some node →
    node.phase = .opened → node.crew = .source s started →
      (callSource place s started .next Source.next : Drive σ ω (Option Tuple)).After True t
        fun _ => P
  measure : ∀ {t operator kind rowsIn rowsOut seconds}, P t →
    P (t.measure (.call operator kind rowsIn rowsOut seconds))
  turn : ∀ {t place} {n : Team ω → Nat}, P t →
    P (t.changeTeam place fun team => { team with nextSlot := n team })
  pop : ∀ {t place node team x rest}, P t → t.nodes[place]? = some node →
    node.crew = .team team → team.pending = x :: rest →
      P (t.changeTeam place fun team => { team with pending := rest })
  deal : ∀ {t place}, P t → P (t.changeTeam place fun team =>
    { team with nextWorker := (team.nextWorker + 1) % team.workers.length })
  exhaust : ∀ {t place i}, P t → P (t.changeTeam place fun team =>
    { team with slots := team.slots.modify i fun slot => { slot with exhausted := true } })
  tick : ∀ {t n}, P t → P { t with readings := n }
  process : ∀ {t place node team i w input time}, isOpen place → P t →
    t.nodes[place]? = some node → node.crew = .team team → team.workers[i]? = some w →
      (callWorker place i w (.process input) (Worker.process time input) :
        Drive σ ω (List Tuple)).After True t fun _ => P
  collect : ∀ {t place given}, P t →
    P (t.changeTeam place fun team => { team with pending := team.pending ++ given })

namespace NextKeeps

variable [Source σ] [Worker ω] {isOpen : Nat → Prop} (h : NextKeeps isOpen P)

include h

lemma deliver (c : ConnectorId) (i : Nat) :
    ((seat c).deliver i : Drive σ ω (Option Tuple)).Keeps P := by
  refine fun t ht => after_get_bind.mpr (after_lift_bind.mpr ⟨fun _ _ => ht, fun _ hread => ?_⟩)
  exact (h.read ht hread).bind (fun _ _ => id) fun _ _ ht' => after_pure.mpr ht'

lemma pull {next : Drive σ ω (Option Tuple)} (hnext : next.Keeps P) (c : ConnectorId) (i : Nat) :
    ((seat c).pull next i).Keeps P := by
  refine fun t ht => after_get_bind.mpr (after_lift_bind.mpr ⟨fun _ _ => ht, fun _ _ => ?_⟩)
  split_ifs
  · exact h.deliver c i t ht
  · exact after_pure.mpr ht
  · refine hnext.bind (fun given => ?_) t ht
    cases given with
    | none => exact Keeps.bind (keeps_modify fun _ => h.finish) fun _ => keeps_pure _
    | some x => exact Keeps.bind (keeps_modify fun _ => h.push) fun _ => h.deliver c i

lemma onSupply {next : Nat → Drive σ ω (Option Tuple)} (hnext : ∀ q, (next q).Keeps P)
    (x : Supply) : (onSupply next Seat.pull x).Keeps P :=
  keeps_onSupply hnext (fun c q i => h.pull (hnext q) c i) x

lemma work (hopen : isOpen place) (i : Nat) (input : Input) :
    (Tree.deliver place i input : Drive σ ω Unit).Keeps P := by
  refine fun t ht => after_handed (fun _ => ht) fun node team w hnode hcrew hw => ?_
  have htimed : P { t with readings := t.readings + 1 } := h.tick ht
  refine (h.process hopen htimed hnode hcrew hw).mono fun result t' ht' => ?_
  cases result with
  | ok given => exact h.measure (h.collect ht')
  | error e => exact ht'

lemma dealing (hopen : isOpen place) (x : Tuple) (link : Link) :
    (Tree.deal place x link : Drive σ ω Unit).Keeps P := by
  refine keeps_team?.bind fun found => ?_
  cases found with
  | none => exact keeps_pure _
  | some team => exact Keeps.bind (keeps_modify fun _ => h.deal) fun _ => h.work hopen _ _

lemma exhausting (hopen : isOpen place) (i : Nat) (link : Link) :
    (Tree.exhaust place i link : Drive σ ω Unit).Keeps P := by
  refine keeps_team?.bind fun found => ?_
  cases found with
  | none => exact keeps_pure _
  | some team =>
    exact Keeps.bind (keeps_modify fun _ => h.exhaust) fun _ =>
      keeps_forM _ fun w _ => h.work hopen w _

lemma feed {next : Nat → Drive σ ω (Option Tuple)} (hnext : ∀ q, (next q).Keeps P)
    (hopen : isOpen place) (i : Nat) (slot : Slot) : (feed next place i slot).Keeps P := by
  refine Keeps.bind (keeps_modify fun _ => h.turn) fun _ =>
    (h.onSupply hnext slot.supply).bind fun given => ?_
  cases given with
  | none => exact h.exhausting hopen i slot.link
  | some x => exact h.dealing hopen x slot.link

lemma nextAt {next : Nat → Drive σ ω (Option Tuple)} (hnext : ∀ q, (next q).Keeps P) :
    (nextAt next place).Keeps P := by
  intro t ht
  refine after_get_bind.mpr ?_
  cases hnode : t.nodes[place]? with
  | none => exact after_pure.mpr ht
  | some node =>
    refine after_lift_bind.mpr ⟨fun _ _ => ht, fun _ hrequire => ?_⟩
    have hphase : node.phase = .opened := Phase.require_eq_ok_iff.mp hrequire
    cases hcrew : node.crew with
    | source s started =>
      exact (h.source ht hnode hphase hcrew).bind (fun _ _ => id) fun given t' ht' =>
        after_modify_bind.mpr (after_pure.mpr (h.measure ht'))
    | team team =>
      cases hpending : team.pending with
      | cons x rest =>
        simp only [hpending]
        exact after_modify_bind.mpr (after_pure.mpr (h.pop ht hnode hcrew hpending))
      | nil =>
        simp only [hpending]
        split
        · exact after_pure.mpr ht
        · exact Keeps.bind (h.feed hnext (h.opened ht hnode hphase) _ _) (fun _ => hnext place) t ht

/-- Pulling a node keeps the property. -/
theorem nextNode (depth place : Nat) :
    (nextNode depth place : Drive σ ω (Option Tuple)).Keeps P := by
  induction depth generalizing place with
  | zero => exact keeps_endless
  | succ depth ih => exact h.nextAt ih

lemma next (depth : Nat) : (next depth : Drive σ ω (Option Tuple)).Keeps P :=
  fun t ht => after_get_bind.mpr (h.nextNode depth t.root t ht)

lemma drain (depth rounds : Nat) (given : List Tuple) :
    (drain depth rounds given : Drive σ ω (List Tuple)).Keeps P := by
  induction rounds generalizing given with
  | zero => exact keeps_endless
  | succ rounds ih =>
    refine (h.next depth).bind fun found => ?_
    cases found with
    | none => exact keeps_pure _
    | some x => exact ih (x :: given)

end NextKeeps

end Next

section Stop

lemma keeps_tryAll {as : List (Drive σ ω Unit)} (h : ∀ a ∈ as, a.Keeps P) :
    (tryAll as).Keeps P := by
  induction as with
  | nil => exact keeps_pure _
  | cons a as ih =>
    obtain ⟨ha, has⟩ := List.forall_mem_cons.mp h
    exact ha.attempt.bind fun _ => (ih has).attempt.bind fun _ =>
      (keeps_lift _).bind fun _ => keeps_lift _

/-- A property of trees that everything keeps which closing does. -/
structure StopKeeps [Source σ] [Worker ω] (P : Tree σ ω → Prop) : Prop where
  endpoint : ∀ {t c i con}, P t → ((seat c).read t).stopEndpoint i = .ok con →
    ((seat c).settle con).After True t fun _ => P
  phase : ∀ {t place}, P t → P (t.changeNode place fun node => { node with phase := .closed })
  /-- A node with a source counts as closed, and the source is asked to close. -/
  source : ∀ {t place node s started}, P t → t.nodes[place]? = some node →
    node.crew = .source s started →
      (setPhase place .closed >>= fun _ => callSource place s started .stop Source.stop).After
        True t fun _ => P
  clear : ∀ {t place}, P t → P (t.changeTeam place fun team => { team with pending := [] })
  worker : ∀ {t place node team i w}, P t → t.nodes[place]? = some node →
    node.crew = .team team → team.workers[i]? = some w →
      (callWorker place i w .stop Worker.stop : Drive σ ω Unit).After True t fun _ => P

namespace StopKeeps

variable [Source σ] [Worker ω] (h : StopKeeps P)

include h

lemma stopEndpoint {stop : Drive σ ω Unit} (hstop : stop.Keeps P) (c : ConnectorId) (i : Nat) :
    ((seat c).stopEndpoint stop i).Keeps P := by
  refine fun t ht => after_get_bind.mpr (after_lift_bind.mpr ⟨fun _ _ => ht, fun con hcon => ?_⟩)
  refine (h.endpoint ht hcon).bind (fun _ _ => id) fun _ t' ht' => ?_
  split_ifs
  · exact hstop t' ht'
  · exact after_pure.mpr ht'

lemma stopWorker (i : Nat) : (stopWorker place i : Drive σ ω Unit).Keeps P := by
  refine fun t ht => after_team?_bind (fun _ => after_pure.mpr ht) fun node team hnode hcrew => ?_
  dsimp only
  split
  · next w hw => exact h.worker ht hnode hcrew hw
  · exact after_pure.mpr ht

lemma stopAt {stop : Nat → Drive σ ω Unit} (hstop : ∀ q, (stop q).Keeps P) :
    (stopAt stop place).Keeps P := by
  intro t ht
  refine after_get_bind.mpr ?_
  cases hnode : t.nodes[place]? with
  | none => exact after_pure.mpr ht
  | some node =>
    refine after_lift_bind.mpr ⟨fun _ _ => ht, fun wasOpen _ => ?_⟩
    cases hcrew : node.crew with
    | source s started =>
      dsimp only
      split_ifs
      · exact h.source ht hnode hcrew
      · exact after_modify_bind.mpr (after_pure.mpr (h.phase ht))
    | team team =>
      refine after_modify_bind.mpr (after_modify_bind.mpr (keeps_tryAll (fun a ha => ?_) _
        (h.clear (h.phase ht))))
      rcases List.mem_append.mp ha with ha | ha
      · obtain ⟨slot, -, rfl⟩ := List.mem_map.mp ha
        exact keeps_onSupply hstop (fun c q i => h.stopEndpoint (hstop q) c i) _
      · split_ifs at ha
        · obtain ⟨i, -, rfl⟩ := List.mem_map.mp ha
          exact h.stopWorker i
        · exact (List.not_mem_nil ha).elim

/-- Closing a node keeps the property. -/
theorem stopNode (depth place : Nat) : (stopNode depth place : Drive σ ω Unit).Keeps P := by
  induction depth generalizing place with
  | zero => exact keeps_endless
  | succ depth ih => exact h.stopAt ih

lemma stop (depth : Nat) : (stop depth : Drive σ ω Unit).Keeps P :=
  fun t ht => after_get_bind.mpr (h.stopNode depth t.root t ht)

end StopKeeps

end Stop

end Tree

end Dataflow
