import Dataflow.Proofs.Flow.Node
import Dataflow.Proofs.Tree.Cleanup

/-!
# Trees that are ready to give

Opening a tree opens its sources and changes nothing else that matters: no tuple has passed yet. If
sources open and workers do nothing to open, the opening succeeds, and any forecast that is right
for the opened sources and for the teams as they were built is right for the tree.
-/

namespace Dataflow

open Act Ledger

variable {σ ω : Type}

/-- No tuple has passed through a connector. -/
structure Connector.Unread (con : Connector) : Prop where
  buffer_eq : con.buffer = []
  base_eq : con.base = 0
  ended_eq : con.ended = false
  position_eq : ∀ e ∈ con.endpoints, e.position = 0

lemma Connector.Fresh.unread {con : Connector} (h : con.Fresh) : con.Unread where
  buffer_eq := h.buffer_eq
  base_eq := h.base_eq
  ended_eq := h.ended_eq
  position_eq := fun e he => (h.endpoints e he).1

lemma Connector.Unread.startEndpoint {con con' : Connector} {i : Nat} (h : con.Unread)
    (hstart : con.startEndpoint i = .ok con') : con'.Unread := by
  obtain ⟨-, rfl⟩ := startEndpoint_eq_ok_iff.mp hstart
  refine ⟨h.buffer_eq, h.base_eq, h.ended_eq, fun e he => ?_⟩
  obtain ⟨j, hj⟩ := List.mem_iff_getElem?.mp he
  simp only [Connector.change, List.getElem?_modify, Option.map_eq_map, Option.map_eq_some_iff]
    at hj
  obtain ⟨old, hold, rfl⟩ := hj
  have hzero := h.position_eq old (List.mem_of_getElem? hold)
  split_ifs <;> exact hzero

variable [Source σ]

/-- How a crew has changed since it was built, if its node has come to a phase: a source is opened
along with its node, and a team may have some workers opened. -/
inductive Crew.Primed (phase : Phase) : Crew σ ω → Crew σ ω → Prop
  | source (s : σ) (started started' : Bool) : Primed phase (.source s started)
    (.source (if phase = .unopened then s else (Source.start s).2) started')
  | team (t : Team ω) (n : Nat) : Primed phase (.team t) (.team { t with started := n })

lemma Crew.Primed.of_source {phase : Phase} {crew : Crew σ ω} {s : σ} {started : Bool}
    (h : crew.Primed phase (.source s started)) : ∃ s₀ started₀, crew = .source s₀ started₀ ∧
      s = if phase = .unopened then s₀ else (Source.start s₀).2 := by
  cases h with
  | source s started started' => exact ⟨s, started, rfl, rfl⟩

lemma Crew.Primed.of_team {phase : Phase} {crew : Crew σ ω} {t : Team ω}
    (h : crew.Primed phase (.team t)) : ∃ t₀ n, crew = .team t₀ ∧ t = { t₀ with started := n } := by
  cases h with
  | team t n => exact ⟨t, n, rfl, rfl⟩

namespace Tree

/-- How a tree has changed since it was built, while it is opened and no call fails. -/
structure Primed (t₀ t : Tree σ ω) : Prop where
  nodes : ∀ (k : Nat) node, t.nodes[k]? = some node → ∃ node₀, t₀.nodes[k]? = some node₀ ∧
    node.operator = node₀.operator ∧ node₀.crew.Primed node.phase node.crew
  junctions : ∀ (c : ConnectorId) junction, t.junctions[c]? = some junction →
    junction.connector.Unread
  calls : ∀ c ∈ t.newestCalls, c.failure = none

variable {t₀ t : Tree σ ω} {place : Nat}

lemma Fresh.primed (h : t₀.Fresh) : t₀.Primed t₀ where
  nodes := by
    intro k node hk
    have hphase := (h.nodes node (List.mem_of_getElem? hk)).phase_eq
    refine ⟨node, hk, rfl, ?_⟩
    match node.crew with
    | .source s started =>
      have hsource := @Crew.Primed.source σ ω _ .unopened s started started
      rwa [if_pos rfl, ← hphase] at hsource
    | .team team => exact .team team team.started
  junctions := fun c junction hc => (h.junctions junction (List.mem_of_getElem? hc)).unread
  calls := by simp [h.calls_eq]

/-- One node changes, and perhaps a call that did not fail is added. -/
lemma Primed.changeNode {f : Node σ ω → Node σ ω} {l : List Call} (h : t₀.Primed t)
    (hf : ∀ node node₀, t.nodes[place]? = some node → t₀.nodes[place]? = some node₀ →
      node₀.crew.Primed node.phase node.crew →
      (f node).operator = node.operator ∧ node₀.crew.Primed (f node).phase (f node).crew)
    (hcalls : ∀ c ∈ l, c.failure = none) :
    t₀.Primed { t.changeNode place f with newestCalls := l } where
  nodes := by
    intro k node' hk
    simp only [Tree.changeNode, List.getElem?_modify, Option.map_eq_map,
      Option.map_eq_some_iff] at hk
    obtain ⟨node, hnode, rfl⟩ := hk
    obtain ⟨node₀, hnode₀, hoperator, hcrew⟩ := h.nodes k node hnode
    split_ifs with heq
    · subst heq
      obtain ⟨hoperator', hcrew'⟩ := hf node node₀ hnode hnode₀ hcrew
      exact ⟨node₀, hnode₀, hoperator'.trans hoperator, hcrew'⟩
    · exact ⟨node₀, hnode₀, hoperator, hcrew⟩
  junctions := h.junctions
  calls := hcalls

/-- A team changes, but only in the number of its opened workers. -/
lemma Primed.changeTeam {f : Team ω → Team ω} {calls : List Call} (h : t₀.Primed t)
    (hf : ∀ node₀ team n, t₀.nodes[place]? = some node₀ → node₀.crew = .team team →
      ∃ m, f { team with started := n } = { team with started := m })
    (hcalls : ∀ c ∈ calls, c.failure = none) :
    t₀.Primed { t.changeTeam place f with newestCalls := calls } := by
  refine h.changeNode (fun node node₀ _ hnode₀ hcrew => ?_) hcalls
  match hnew : node.crew with
  | .source s started =>
    refine ⟨rfl, ?_⟩
    rwa [hnew] at hcrew ⊢
  | .team team =>
    rw [hnew] at hcrew
    obtain ⟨team₀, n, hold, rfl⟩ := hcrew.of_team
    obtain ⟨m, hm⟩ := hf node₀ team₀ n hnode₀ hold
    refine ⟨rfl, ?_⟩
    change node₀.crew.Primed node.phase (.team (f { team₀ with started := n }))
    rw [hold, hm]
    exact .team team₀ m

/-- The executors of a tree that was not opened yet can be opened and closed, and workers do not
change when they are opened. -/
structure Willing [Worker ω] (t₀ : Tree σ ω) : Prop where
  startSource : ∀ node ∈ t₀.nodes, ∀ s started, node.crew = .source s started →
    (Source.start s).1 = .ok ()
  startWorker : ∀ w : ω, Worker.start w = (.ok (), w)
  stopSource : ∀ s : σ, (Source.stop s).1 = .ok ()
  stopWorker : ∀ w : ω, (Worker.stop w).1 = .ok ()

variable [Worker ω]

/-- The source of a node is opened along with it. -/
lemma Primed.callSource {s : σ} {node : Node σ ω} {started : Bool} (ht : t₀.Primed t)
    (hnode : t.nodes[place]? = some node) (hphase : node.phase = .unopened)
    (hcrew : node.crew = .source s started) (hwilling : t₀.Willing) :
    (setPhase place .opened >>= fun _ => callSource place s false .start Source.start).After True t
      fun _ t' => t₀.Primed t' := by
  obtain ⟨node₀, hnode₀, -, hprimed⟩ := ht.nodes place node hnode
  rw [hcrew, hphase] at hprimed
  obtain ⟨s, started₀, hold, rfl⟩ := hprimed.of_source
  have hstart := hwilling.startSource node₀ (List.mem_of_getElem? hnode₀) s started₀ hold
  refine after_modify_bind.mpr (after_callSource.mpr ?_)
  have h := ht.changeNode
    (f := (fun node => { node with crew := .source (Source.start s).2 false }) ∘
      fun node => { node with phase := .opened })
    (l := ⟨place, none, .start, Result.error? (Source.start s).1⟩ :: t.newestCalls)
    (fun node node₁ _ (hnode₁ : t₀.nodes[place]? = some node₁) _ => ⟨rfl, ?_⟩)
    (List.forall_mem_cons.mpr ⟨by rw [hstart]; rfl, ht.calls⟩)
  · simpa only [Tree.changeNode, List.modify_modify_eq] using h
  · rw [hnode₀] at hnode₁
    cases hnode₁
    rw [hold]
    exact .source s started₀ false

/-- If sources open and workers do nothing to open, everything that opening does goes without a
failure. -/
lemma startKeeps_primed (hwilling : t₀.Willing) : StartKeeps t₀.Primed where
  endpoint := by
    intro t c i con ht hcon
    refine ⟨ht.nodes, fun d junction hd => ?_, ht.calls⟩
    simp only [seat, List.getElem?_modify, Option.map_eq_map, Option.map_eq_some_iff] at hd
    obtain ⟨old, hold, rfl⟩ := hd
    split_ifs with hcd
    · subst hcd
      refine (ht.junctions c old hold).startEndpoint (i := i) ?_
      rw [← hcon]
      simp [seat, hold]
    · exact ht.junctions d old hold
  team := by
    intro t place node team ht hnode _ hcrew
    refine ht.changeNode (fun node' node₁ hnode' hnode₁ hprimed => ⟨rfl, ?_⟩) ht.calls
    obtain rfl : node = node' := Option.some.inj (hnode.symm.trans hnode')
    rw [hcrew] at hprimed ⊢
    obtain ⟨team₀, n, hold, rfl⟩ := hprimed.of_team
    rw [hold]
    exact .team team₀ n
  source ht hnode hphase hcrew := ht.callSource hnode hphase hcrew hwilling
  mark := by
    intro t place f ht hf
    refine ht.changeNode (fun node node₀ _ _ hprimed => ?_) ht.calls
    obtain hsame | ⟨s, started, hcrew, hmarked⟩ := hf node
    · rw [hsame]
      exact ⟨rfl, hprimed⟩
    · rw [hcrew] at hprimed
      obtain ⟨s₀, started₀, hold, rfl⟩ := hprimed.of_source
      rw [hmarked, hold]
      exact ⟨rfl, .source s₀ started₀ true⟩
  worker := by
    intro t₁ t place node team i w ht₁ hnode hcrew hw ht
    obtain ⟨node₀, hnode₀, -, hprimed⟩ := ht₁.nodes place node hnode
    rw [hcrew] at hprimed
    obtain ⟨team₀, m, hold, rfl⟩ := hprimed.of_team
    refine after_callWorker.mpr (ht.changeTeam (fun node₁ team₁ n hnode₁ hcrew₁ => ⟨n, ?_⟩) ?_)
    · obtain rfl : node₀ = node₁ := Option.some.inj (hnode₀.symm.trans hnode₁)
      obtain rfl : team₀ = team₁ := Crew.team.inj (hold.symm.trans hcrew₁)
      rw [hwilling.startWorker]
      simp only [set_eq_self hw]
    · rw [hwilling.startWorker]
      exact List.forall_mem_cons.mpr ⟨rfl, ht.calls⟩
  count ht := ht.changeTeam (fun _ _ _ _ _ => ⟨_, rfl⟩) ht.calls

/-- A new tree is opened without a failure. -/
lemma Fresh.after_start (h : t₀.Fresh) (hwilling : t₀.Willing) (depth : Nat) :
    (start depth : Drive σ ω Unit).After (depth < t₀.nodes.length) t₀ fun result t =>
      result = .ok () ∧ t₀.Primed t ∧ Opens [.node t₀.root] t₀.ledger (.ok ()) t.ledger := by
  refine after_get_bind.mpr ?_
  have hready := h.ready h.not_reached
  have hlt : t₀.root < t₀.nodes.length := by simpa [ledger, Ledger.wiring] using h.sound.root_lt
  refine (((after_startNode h.sound hready.has).and (started_startNode depth hready)).and
    ((startKeeps_primed hwilling).startNode depth t₀.root t₀ h.primed)).imp
    (fun hle => lt_of_le_of_lt hle hlt) fun result t h' => ?_
  obtain ⟨⟨⟨-, hopens⟩, hstarted⟩, hprimed⟩ := h'
  obtain ⟨new, hnew, -, hfailure⟩ := hstarted.newCalls
  have hnone : Result.error? result = none := by
    rw [← hfailure, firstFailure, List.findSome?_eq_none_iff]
    intro c hc
    refine hprimed.calls c (List.mem_reverse.mp ?_)
    change c ∈ t.calls
    rw [hnew]
    exact List.mem_append_right _ hc
  cases result with
  | ok _ => exact ⟨rfl, hprimed, hopens⟩
  | error e => cases hnone

omit [Worker ω] in
lemma Primed.exists_opened {node₀ : Node σ ω} (h : t₀.Primed t)
    (hw : t.ledger.wiring = t₀.ledger.wiring) (hopened : ∀ node ∈ t.nodes, node.phase = .opened)
    (hk : t₀.nodes[place]? = some node₀) : ∃ node, t.nodes[place]? = some node ∧
      node.phase = .opened ∧ node₀.crew.Primed .opened node.crew := by
  have hlength := congrArg (·.supplies.length) hw
  simp only [Ledger.wiring, ledger, List.length_map] at hlength
  have hnode := List.getElem?_eq_getElem (hlength ▸ (List.getElem?_eq_some_iff.mp hk).1)
  obtain ⟨node₁, hk₁, -, hcrew⟩ := h.nodes place _ hnode
  rw [hk, Option.some.injEq] at hk₁
  subst hk₁
  have hphase := hopened _ (List.mem_of_getElem? hnode)
  rw [hphase] at hcrew
  exact ⟨_, hnode, hphase, hcrew⟩

omit [Worker ω] in
lemma Primed.exists_source {node₀ : Node σ ω} {s : σ} {started : Bool} (h : t₀.Primed t)
    (hw : t.ledger.wiring = t₀.ledger.wiring) (hopened : ∀ node ∈ t.nodes, node.phase = .opened)
    (hk : t₀.nodes[place]? = some node₀) (hcrew₀ : node₀.crew = .source s started) :
    ∃ (node : Node σ ω) (started' : Bool), node.phase = .opened ∧
      t.nodes[place]? = some { node with crew := .source (Source.start s).2 started' } := by
  obtain ⟨⟨operator, schema, phase, crew⟩, hnode, hphase, hcrew⟩ := h.exists_opened hw hopened hk
  rw [hcrew₀] at hcrew
  cases hcrew with
  | source _ _ started' => exact ⟨⟨operator, schema, phase, _⟩, started', hphase, hnode⟩

omit [Worker ω] in
/-- In an open tree a team is as it was but for its number of opened workers. -/
lemma Primed.exists_team {node₀ : Node σ ω} {team : Team ω} (h : t₀.Primed t)
    (hw : t.ledger.wiring = t₀.ledger.wiring) (hopened : ∀ node ∈ t.nodes, node.phase = .opened)
    (hk : t₀.nodes[place]? = some node₀) (hcrew₀ : node₀.crew = .team team) :
    ∃ (node : Node σ ω) (started : Nat), node.phase = .opened ∧
      t.nodes[place]? = some { node with crew := .team { team with started := started } } := by
  obtain ⟨⟨operator, schema, phase, crew⟩, hnode, hphase, hcrew⟩ := h.exists_opened hw hopened hk
  rw [hcrew₀] at hcrew
  cases hcrew with
  | team _ started => exact ⟨⟨operator, schema, phase, _⟩, started, hphase, hnode⟩

/-- A forecast is right for an open tree that gave nothing yet. -/
structure Foretold (R : Forecast) (t : Tree σ ω) : Prop where
  crews : ∀ (k : Nat) node, t.nodes[k]? = some node → node.crew.Flows R (R (.node k))
  endpoints : ∀ (c : ConnectorId) junction, t.junctions[c]? = some junction →
    ∀ i < junction.connector.endpoints.length, R (.endpoint c i) = R (.node junction.producer)

omit [Source σ] [Worker ω] in
lemma phase_of_opened (hopen : ∀ x, t.ledger.wiring.Has x → t.ledger.phase? x = some .opened) :
    ∀ node ∈ t.nodes, node.phase = .opened := by
  intro node hnode
  obtain ⟨k, hk⟩ := List.mem_iff_getElem?.mp hnode
  have hphase := hopen (.node k) (has_node_iff.mpr (List.getElem?_eq_some_iff.mp hk).1)
  exact Option.some.inj ((phase?_node hk).symm.trans hphase)

lemma Foretold.flows {R : Forecast} (h : Foretold R t) (hprimed : t₀.Primed t)
    (hopen : ∀ x, t.ledger.wiring.Has x → t.ledger.phase? x = some .opened) (a : Part) :
    t.Flows R a := by
  match a with
  | .supply (.endpoint ..) => trivial
  | .supply (.node k) =>
    exact fun node hk => ⟨phase_of_opened hopen node (List.mem_of_getElem? hk), h.crews k node hk⟩
  | .joint c =>
    intro junction hc
    have hunread := hprimed.junctions c junction hc
    have hahead (e : Endpoint) : junction.connector.ahead e = [] := by
      rw [Connector.ahead, hunread.buffer_eq, List.drop_nil]
    refine ⟨fun hended => ?_, fun e he => ?_, fun e he _ => ?_, fun i e he => ?_⟩
    · rw [hunread.ended_eq] at hended
      cases hended
    · obtain ⟨i, hi⟩ := List.mem_iff_getElem?.mp he
      have hphase := hopen (.endpoint c i)
        ((Wiring.has_endpoint_iff (joint_of_junction hc)).mpr (List.getElem?_eq_some_iff.mp hi).1)
      simpa [phase?_endpoint hc, Connector.phases, hi] using hphase
    · rw [hunread.base_eq, hunread.position_eq e he]
      exact ⟨le_rfl, Nat.zero_le _⟩
    · rw [hahead, Stream.after_nil]
      exact h.endpoints c junction hc i (List.getElem?_eq_some_iff.mp he).1

variable {depth : Nat}

/-- Executors that can be closed are closed without a failure. -/
lemma stop_eq_ok (hwilling : t₀.Willing) (hready : Ready Done (.node t.root) t.ledger)
    {t' : Tree σ ω} {result : Result Unit} (hstop : (stop depth).outcome t = some (result, t')) :
    result = .ok () := by
  have hstopped : (stop depth : Drive σ ω Unit).After True t fun result t' =>
      Stopped t (Result.error? result) t' :=
    after_get_bind.mpr (stopped_stopNode depth hready)
  obtain ⟨new, -, hnew, hfailure⟩ := (hstopped.of_outcome hstop).newCalls
  have hnone : Result.error? result = none := by
    rw [← hfailure, firstFailure, List.findSome?_eq_none_iff]
    intro c hc
    obtain ⟨-, ⟨s, hs⟩ | ⟨w, hw⟩⟩ := hnew c hc
    · rw [hs, hwilling.stopSource]
      rfl
    · rw [hw, hwilling.stopWorker]
      rfl
  cases result with
  | ok _ => rfl
  | error e => cases hnone

lemma refines_openAndDrain {depth' : Nat} (hle : depth ≤ depth') :
    (openAndDrain depth : Drive σ ω (List Tuple)).Refines (openAndDrain depth') :=
  (refines_start hle).bind fun _ => refines_drain hle hle []

/-- A tree that is pulled to the end is closed within as many steps as it has nodes. -/
lemma isSome_complete_of_drained (horderly : t.ledger.Orderly) {depth : Nat}
    (hle : t.nodes.length ≤ depth)
    (h : ((openAndDrain depth : Drive σ ω (List Tuple)).outcome t).isSome) :
    ((complete depth : Drive σ ω (List Tuple)).outcome t).isSome := by
  obtain ⟨⟨result, t'⟩, houtcome⟩ := Option.isSome_iff_exists.mp h
  have hadvances := (advances_openAndDrain horderly).of_outcome houtcome
  refine isSome_complete ((after_of_outcome houtcome).mpr ?_)
  refine (advances_stop hadvances.orderly).isSome (not_lt.mpr ?_)
  have hlength := congrArg (·.supplies.length) hadvances.wiring_eq
  simp only [Ledger.wiring, ledger, List.length_map] at hlength
  exact hlength ▸ hle

/-- A new tree is opened, and then pulled to the end as an open tree that gave nothing yet. -/
lemma Fresh.exists_openAndDrain (h : t₀.Fresh) (hwilling : t₀.Willing)
    {Q : Result (List Tuple) → Prop}
    (hdrain : ∀ t, t₀.Primed t →
      (∀ x, t.ledger.wiring.Has x → t.ledger.phase? x = some .opened) →
      t.ledger.wiring = t₀.ledger.wiring →
      ∃ depth, (drain depth depth [] : Drive σ ω _).After False t fun result _ => Q result) :
    ∃ depth, (openAndDrain depth : Drive σ ω (List Tuple)).After False t₀
      fun result _ => Q result := by
  obtain ⟨result, t, hstart, rfl, hprimed, hopens⟩ :=
    ((h.after_start hwilling t₀.nodes.length).imp (F := False) (lt_irrefl _) fun _ _ => id).exists
  obtain ⟨depth, hdrained⟩ :=
    hdrain t hprimed (fun x => h.opened hopens (x := x)) hopens.wiring_eq
  refine ⟨max t₀.nodes.length depth, ?_⟩
  have hstarted : (start (max t₀.nodes.length depth) : Drive σ ω Unit).After False t₀
      fun result t' => result = .ok () ∧ t = t' :=
    (refines_start (le_max_left ..)).after ((after_of_outcome hstart).mpr ⟨rfl, rfl⟩)
  refine hstarted.bind (fun _ _ h' => nomatch h'.1) fun _ _ h' => ?_
  obtain ⟨-, rfl⟩ := h'
  exact (refines_drain (le_max_right ..) (le_max_right ..) []).after hdrained

/-- A new tree that is run as a whole comes to one result, if it may go deep enough; and however
deep it may go, it comes to no other. -/
theorem Fresh.exists_complete (h : t₀.Fresh) (hwilling : t₀.Willing)
    {Q : Result (List Tuple) → Prop}
    (hdrain : ∀ t, t₀.Primed t →
      (∀ x, t.ledger.wiring.Has x → t.ledger.phase? x = some .opened) →
      t.ledger.wiring = t₀.ledger.wiring →
      ∃ depth, (drain depth depth [] : Drive σ ω _).After False t fun result _ => Q result) :
    ∃ result, Q result ∧
      (∃ depth₀, ∀ depth, depth₀ ≤ depth →
        ((complete depth : Drive σ ω (List Tuple)).outcome t₀).map Prod.fst = some result) ∧
      ∀ depth result' t', (complete depth).outcome t₀ = some (result', t') → result' = result := by
  obtain ⟨depth₀, hrun⟩ := h.exists_openAndDrain hwilling hdrain
  obtain ⟨result, t₁, houtcome, hQ⟩ := hrun.exists
  have hsame {depth : Nat} {result' : Result (List Tuple)} {t' : Tree σ ω}
      (hcomplete : (complete depth).outcome t₀ = some (result', t')) : result' = result := by
    obtain ⟨pulled, stopped, t₁, t₂, hpulled, hstopped, rfl, -⟩ := outcome_complete hcomplete
    have hready := (h.after_openAndDrain.of_outcome hpulled).2
    have heq := ((refines_openAndDrain (le_max_right depth depth₀)).outcome_eq houtcome).symm.trans
      ((refines_openAndDrain (le_max_left depth depth₀)).outcome_eq hpulled)
    cases heq
    rw [stop_eq_ok hwilling hready hstopped]
    cases result <;> rfl
  refine ⟨result, hQ, ⟨max depth₀ t₀.nodes.length, fun depth hle => ?_⟩, fun _ _ _ => hsame⟩
  have hends : ((complete depth : Drive σ ω (List Tuple)).outcome t₀).isSome :=
    isSome_complete_of_drained h.orderly ((le_max_right ..).trans hle)
      (((refines_openAndDrain ((le_max_left ..).trans hle)).after hrun).isSome id)
  obtain ⟨⟨result', t'⟩, hcomplete⟩ := Option.isSome_iff_exists.mp hends
  rw [hcomplete, Option.map_some, hsame hcomplete]

/-- A new tree that is run as a whole gives the forecast of its sink. -/
theorem Fresh.complete_eq_all (h : t₀.Fresh) (hwilling : t₀.Willing) {P : Stream → Prop}
    (hforecast : ∀ t, t₀.Primed t → (∀ node ∈ t.nodes, node.phase = .opened) →
      t.ledger.wiring = t₀.ledger.wiring → ∃ R, Foretold R t ∧ P (R (.node t₀.root))) :
    ∃ out, P out ∧
      (∃ depth₀, ∀ depth, depth₀ ≤ depth →
        ((complete depth : Drive σ ω (List Tuple)).outcome t₀).map Prod.fst = some out.all) ∧
      ∀ depth result t', (complete depth).outcome t₀ = some (result, t') → result = out.all := by
  obtain ⟨result, ⟨out, hP, rfl⟩, hends, hsame⟩ := h.exists_complete hwilling
    (Q := fun result => ∃ out, P out ∧ result = out.all) fun t hprimed hopen hw => by
      obtain ⟨R, hforetold, hP⟩ := hforecast t hprimed (phase_of_opened hopen) hw
      obtain ⟨depth, hdrain⟩ := exists_drain h.sound hw
        (fun a _ => hforetold.flows hprimed hopen a) []
      exact ⟨depth, hdrain.mono fun _ _ hall => ⟨R (.node t₀.root), hP, hall⟩⟩
  exact ⟨out, hP, hends, hsame⟩

end Tree

end Dataflow
