import Dataflow.Proofs.Flow.Places
import Dataflow.Proofs.Lists
import Dataflow.Proofs.Tree.Cleanup

/-!
# Contracts

A contract says which inputs the executors of a node may get, which tuples they may give, and which
failures they may have. If every executor keeps to its part of a contract, and the inputs of every
node may get what the nodes behind them may give, then the whole tree keeps to it, whatever is done
to the tree and in whatever order.
-/

namespace Dataflow

open Act

/-- Which node is behind each supply, which is the sink and which operator each node runs, and what
the executors of each node may get, give and refuse. -/
structure Contract where
  feeder : Supply → Nat
  root : Nat
  operator : Nat → Option Operator
  accepts : Nat → Input → Prop
  emits : Nat → Tuple → Prop
  refuses : Nat → Event → Error → Prop

/-! ### Executors -/

section Executors

variable {σ ω : Type}

/-- A result is a failure that is allowed, or a value that is. -/
def Result.Meets {α : Type} (emits : α → Prop) (refuses : Error → Prop) : Result α → Prop
  | .ok x => emits x
  | .error e => refuses e

/-- A source keeps to a contract, whatever it is asked and in whatever order: there is an invariant
that all calls keep and under which all answers are allowed. -/
def Source.Meets [Source σ] (emits : Tuple → Prop) (refuses : Event → Error → Prop) (s : σ) :
    Prop :=
  ∃ I : σ → Prop, I s ∧ ∀ s, I s →
    (I (Source.start s).2 ∧ (Source.start s).1.Meets (fun _ => True) (refuses .start)) ∧
    (I (Source.next s).2 ∧
      (Source.next s).1.Meets (fun given => ∀ x ∈ given, emits x) (refuses .next)) ∧
    (I (Source.stop s).2 ∧ (Source.stop s).1.Meets (fun _ => True) (refuses .stop))

/-- A worker keeps to a contract as long as it gets inputs that are allowed. -/
def Worker.Meets [Worker ω] (accepts : Input → Prop) (emits : Tuple → Prop)
    (refuses : Event → Error → Prop) (w : ω) : Prop :=
  ∃ I : ω → Prop, I w ∧ ∀ w, I w →
    (I (Worker.start w).2 ∧ (Worker.start w).1.Meets (fun _ => True) (refuses .start)) ∧
    (∀ now input, accepts input → I (Worker.process now input w).2 ∧
      (Worker.process now input w).1.Meets (fun given => ∀ x ∈ given, emits x)
        (refuses (.process input))) ∧
    (I (Worker.stop w).2 ∧ (Worker.stop w).1.Meets (fun _ => True) (refuses .stop))

lemma Result.Meets.imp {α : Type} {emits emits' : α → Prop} {refuses refuses' : Error → Prop}
    {result : Result α} (h : result.Meets emits refuses) (hemits : ∀ x, emits x → emits' x)
    (hrefuses : ∀ e, refuses e → refuses' e) : result.Meets emits' refuses' := by
  match result with
  | .ok x => exact hemits x h
  | .error e => exact hrefuses e h

section Source

variable [Source σ] {emits : Tuple → Prop} {refuses : Event → Error → Prop} {s : σ}

lemma Source.Meets.imp {emits' : Tuple → Prop} {refuses' : Event → Error → Prop}
    (h : Source.Meets emits refuses s) (hemits : ∀ x, emits x → emits' x)
    (hrefuses : ∀ event e, refuses event e → refuses' event e) :
    Source.Meets emits' refuses' s := by
  obtain ⟨I, hs, hI⟩ := h
  refine ⟨I, hs, fun s hs => ?_⟩
  obtain ⟨⟨hstart, hstarted⟩, ⟨hnext, hgiven⟩, ⟨hstop, hstopped⟩⟩ := hI s hs
  exact ⟨⟨hstart, hstarted.imp (fun _ => id) (hrefuses _)⟩,
    ⟨hnext, hgiven.imp (fun _ h x hx => hemits x (h x hx)) (hrefuses _)⟩,
    ⟨hstop, hstopped.imp (fun _ => id) (hrefuses _)⟩⟩

lemma Source.Meets.start (h : Source.Meets emits refuses s) :
    Source.Meets emits refuses (Source.start s).2 ∧
      (Source.start s).1.Meets (fun _ => True) (refuses .start) := by
  obtain ⟨I, hs, hI⟩ := h
  exact ⟨⟨I, (hI s hs).1.1, hI⟩, (hI s hs).1.2⟩

lemma Source.Meets.next (h : Source.Meets emits refuses s) :
    Source.Meets emits refuses (Source.next s).2 ∧
      (Source.next s).1.Meets (fun given => ∀ x ∈ given, emits x) (refuses .next) := by
  obtain ⟨I, hs, hI⟩ := h
  exact ⟨⟨I, (hI s hs).2.1.1, hI⟩, (hI s hs).2.1.2⟩

lemma Source.Meets.stop (h : Source.Meets emits refuses s) :
    Source.Meets emits refuses (Source.stop s).2 ∧
      (Source.stop s).1.Meets (fun _ => True) (refuses .stop) := by
  obtain ⟨I, hs, hI⟩ := h
  exact ⟨⟨I, (hI s hs).2.2.1, hI⟩, (hI s hs).2.2.2⟩

end Source

section Worker

variable [Worker ω] {accepts : Input → Prop} {emits : Tuple → Prop}
  {refuses : Event → Error → Prop} {w : ω}

lemma Worker.Meets.imp {accepts' : Input → Prop} {emits' : Tuple → Prop}
    {refuses' : Event → Error → Prop} (h : Worker.Meets accepts emits refuses w)
    (haccepts : ∀ input, accepts' input → accepts input) (hemits : ∀ x, emits x → emits' x)
    (hrefuses : ∀ event e, refuses event e → refuses' event e) :
    Worker.Meets accepts' emits' refuses' w := by
  obtain ⟨I, hw, hI⟩ := h
  refine ⟨I, hw, fun w hw => ?_⟩
  obtain ⟨⟨hstart, hstarted⟩, hprocess, ⟨hstop, hstopped⟩⟩ := hI w hw
  refine ⟨⟨hstart, hstarted.imp (fun _ => id) (hrefuses _)⟩, fun now input hinput => ?_,
    ⟨hstop, hstopped.imp (fun _ => id) (hrefuses _)⟩⟩
  obtain ⟨hnext, hgiven⟩ := hprocess now input (haccepts input hinput)
  exact ⟨hnext, hgiven.imp (fun _ h x hx => hemits x (h x hx)) (hrefuses _)⟩

lemma Worker.Meets.start (h : Worker.Meets accepts emits refuses w) :
    Worker.Meets accepts emits refuses (Worker.start w).2 ∧
      (Worker.start w).1.Meets (fun _ => True) (refuses .start) := by
  obtain ⟨I, hw, hI⟩ := h
  exact ⟨⟨I, (hI w hw).1.1, hI⟩, (hI w hw).1.2⟩

lemma Worker.Meets.process (h : Worker.Meets accepts emits refuses w) (now : Nat) {input : Input}
    (hinput : accepts input) :
    Worker.Meets accepts emits refuses (Worker.process now input w).2 ∧
      (Worker.process now input w).1.Meets (fun given => ∀ x ∈ given, emits x)
        (refuses (.process input)) := by
  obtain ⟨I, hw, hI⟩ := h
  obtain ⟨hnext, hresult⟩ := (hI w hw).2.1 now input hinput
  exact ⟨⟨I, hnext, hI⟩, hresult⟩

lemma Worker.Meets.stop (h : Worker.Meets accepts emits refuses w) :
    Worker.Meets accepts emits refuses (Worker.stop w).2 ∧
      (Worker.stop w).1.Meets (fun _ => True) (refuses .stop) := by
  obtain ⟨I, hw, hI⟩ := h
  exact ⟨⟨I, (hI w hw).2.2.1, hI⟩, (hI w hw).2.2.2⟩

end Worker

end Executors

/-! ### Trees -/

section Trees

variable {σ ω : Type} [Source σ] [Worker ω] (c : Contract)

/-- A team keeps to a contract: so do its workers, and it may get what comes through its slots. -/
structure Team.Meets (k : Nat) (team : Team ω) : Prop where
  workers : ∀ w ∈ team.workers, Worker.Meets (c.accepts k) (c.emits k) (c.refuses k) w
  pending : ∀ x ∈ team.pending, c.emits k x
  slots : ∀ slot ∈ team.slots, c.accepts k (.exhausted slot.link) ∧
    ∀ x, c.emits (c.feeder slot.supply) x → c.accepts k (.tuple x slot.link)

/-- A crew keeps to a contract. -/
def Crew.Meets (k : Nat) : Crew σ ω → Prop
  | .source s _ => Source.Meets (c.emits k) (c.refuses k) s
  | .team staff => staff.Meets c k

/-- A call that the contract allows, with an answer that it allows. -/
structure Call.Meets (call : Call) : Prop where
  accepts : ∀ input, call.event = .process input → c.accepts call.node input
  refuses : ∀ e, call.failure = some e → c.refuses call.node call.event e

/-- A tree keeps to a contract. -/
structure Tree.Meets (t : Tree σ ω) : Prop where
  root_eq : t.root = c.root
  feeder_eq : ∀ x, t.ledger.wiring.placeOf x = c.feeder x
  operator_eq : ∀ (k : Nat) node, t.nodes[k]? = some node → c.operator k = some node.operator
  crews : ∀ (k : Nat) node, t.nodes[k]? = some node → node.crew.Meets c k
  buffers : ∀ (j : ConnectorId) junction, t.junctions[j]? = some junction →
    ∀ x ∈ junction.connector.buffer, c.emits junction.producer x
  calls : ∀ call ∈ t.newestCalls, call.Meets c

end Trees

namespace Tree

variable {σ ω α : Type} [Source σ] [Worker ω] {c : Contract}
  {t : Tree σ ω} {place : Nat}

/-! ### Changes -/

/-- One node changes, and perhaps calls are added. -/
lemma Meets.changeNode {f : Node σ ω → Node σ ω} {calls : List Call} (h : t.Meets c)
    (hoperator : ∀ node, (f node).operator = node.operator)
    (hf : ∀ node, t.nodes[place]? = some node → node.crew.Meets c place →
      (f node).crew.Meets c place)
    (hcalls : ∀ call ∈ calls, call.Meets c) :
    Meets c { t.changeNode place f with newestCalls := calls } where
  root_eq := h.root_eq
  feeder_eq := h.feeder_eq
  operator_eq := by
    intro k node' hk
    simp only [Tree.changeNode, List.getElem?_modify, Option.map_eq_map,
      Option.map_eq_some_iff] at hk
    obtain ⟨node, hnode, rfl⟩ := hk
    rw [h.operator_eq k node hnode]
    split_ifs
    · rw [hoperator]
    · rfl
  crews := by
    intro k node' hk
    simp only [Tree.changeNode, List.getElem?_modify, Option.map_eq_map,
      Option.map_eq_some_iff] at hk
    obtain ⟨node, hnode, rfl⟩ := hk
    split_ifs with heq
    · subst heq
      exact hf node hnode (h.crews _ node hnode)
    · exact h.crews k node hnode
  buffers := h.buffers
  calls := hcalls

lemma Meets.changeTeam {f : Team ω → Team ω} {calls : List Call} (h : t.Meets c)
    (hf : ∀ team, team.Meets c place → (f team).Meets c place)
    (hcalls : ∀ call ∈ calls, call.Meets c) :
    Meets c { t.changeTeam place f with newestCalls := calls } := by
  refine h.changeNode (fun node => ?_) (fun node _ hcrew => ?_) hcalls
  · match hnew : node.crew with
    | .source .. => rfl
    | .team _ => rfl
  match hnew : node.crew with
  | .source s started => rwa [hnew] at hcrew ⊢
  | .team team =>
    rw [hnew] at hcrew
    exact hf team hcrew

/-- A connector changes, but holds nothing back that its producer may not give. -/
lemma Meets.write {j : ConnectorId} {con : Connector} (i : Nat) (h : t.Meets c)
    (hcon : ∀ x ∈ con.buffer, c.emits (c.feeder (.endpoint j i)) x) :
    Meets c ((seat j).write con t) where
  root_eq := h.root_eq
  feeder_eq := by
    intro x
    rw [← h.feeder_eq x]
    match x with
    | .node q => rfl
    | .endpoint d _ =>
      simp only [placeOf_endpoint, seat, List.getElem?_modify]
      cases t.junctions[d]? with
      | none => rfl
      | some junction => by_cases hjd : j = d <;> simp [hjd]
  operator_eq := h.operator_eq
  crews := h.crews
  buffers := by
    intro d junction hd x hx
    simp only [seat, List.getElem?_modify, Option.map_eq_map, Option.map_eq_some_iff] at hd
    obtain ⟨old, hold, rfl⟩ := hd
    split_ifs at hx ⊢ with hjd
    · subst hjd
      have hfeeder : c.feeder (.endpoint j i) = old.producer := by
        rw [← h.feeder_eq, placeOf_endpoint, hold]
        rfl
      exact hfeeder ▸ hcon x hx
    · exact h.buffers d old hold x hx
  calls := h.calls

lemma Meets.buffer (h : t.Meets c) (j : ConnectorId) (i : Nat) :
    ∀ x ∈ ((seat j).read t).buffer, c.emits (c.feeder (.endpoint j i)) x := by
  intro x hx
  rw [← h.feeder_eq, placeOf_endpoint]
  match hj : t.junctions[j]? with
  | none => simp [seat, hj, noConnector] at hx
  | some junction =>
    simp only [seat, hj, Option.map_some, Option.getD_some] at hx
    exact h.buffers j junction hj x hx

lemma Meets.measure (h : t.Meets c) (m : Measurement) : (t.measure m).Meets c :=
  ⟨h.root_eq, h.feeder_eq, h.operator_eq, h.crews, h.buffers, h.calls⟩

/-! ### Calls -/

/-- A source that keeps to the contract is called. -/
lemma Meets.callSource {s : σ} {started : Bool} {event : Event} {f : σ → Result α × σ}
    {emits : α → Prop} (h : t.Meets c) (hevent : ∀ input, event ≠ .process input)
    (hsource : Source.Meets (c.emits place) (c.refuses place) (f s).2)
    (hresult : (f s).1.Meets emits (c.refuses place event)) :
    (callSource place s started event f).After True t fun result t' =>
      t'.Meets c ∧ result.Meets emits (c.refuses place event) := by
  refine after_callSource.mpr ⟨h.changeNode (fun _ => rfl) (fun _ _ _ => hsource) ?_, hresult⟩
  refine List.forall_mem_cons.mpr ⟨⟨fun input heq => (hevent input heq).elim, fun e he => ?_⟩,
    h.calls⟩
  match hf : (f s).1 with
  | .ok _ =>
    rw [hf] at he
    cases he
  | .error _ =>
    rw [hf] at he hresult
    cases he
    exact hresult

/-- A worker that keeps to the contract is called. -/
lemma Meets.callWorker {i : Nat} {w : ω} {event : Event} {f : ω → Result α × ω}
    {emits : α → Prop} (h : t.Meets c)
    (hevent : ∀ input, event = .process input → c.accepts place input)
    (hworker : Worker.Meets (c.accepts place) (c.emits place) (c.refuses place) (f w).2)
    (hresult : (f w).1.Meets emits (c.refuses place event)) :
    (callWorker place i w event f).After True t fun result t' =>
      t'.Meets c ∧ result.Meets emits (c.refuses place event) := by
  refine after_callWorker.mpr ⟨h.changeTeam (fun team hteam => ?_) ?_, hresult⟩
  · refine ⟨fun v hv => ?_, hteam.pending, hteam.slots⟩
    rcases List.mem_or_eq_of_mem_set hv with hold | rfl
    · exact hteam.workers v hold
    · exact hworker
  · refine List.forall_mem_cons.mpr ⟨⟨hevent, fun e he => ?_⟩, h.calls⟩
    match hf : (f w).1 with
    | .ok _ =>
      rw [hf] at he
      cases he
    | .error _ =>
      rw [hf] at he hresult
      cases he
      exact hresult

/-! ### Endpoints -/

/-- An action that pulls a node: it gives only tuples that the node may give. -/
def Offers (c : Contract) (place : Nat)
    (next : Drive σ ω (Option Tuple)) : Prop :=
  ∀ t, t.Meets c → next.After True t fun result t' =>
    t'.Meets c ∧ ∀ x, result = .ok (some x) → c.emits place x

section Endpoints

variable {j : ConnectorId} {i : Nat}

lemma mem_buffer_evict {con : Connector} {f : Endpoint → Endpoint} {x : Tuple}
    (h : x ∈ (con.change i f).evict.buffer) : x ∈ con.buffer :=
  List.mem_of_mem_drop h

lemma offers_deliver : Offers c (c.feeder (.endpoint j i))
    ((seat j).deliver i : Drive σ ω (Option Tuple)) := by
  intro t ht
  refine after_get_bind.mpr (after_lift_bind.mpr ⟨fun _ _ => ⟨ht, nofun⟩, fun ⟨x, con⟩ hread => ?_⟩)
  refine after_modify_bind.mpr (after_pure.mpr ?_)
  obtain ⟨hmem, rfl⟩ := Connector.read_eq_ok hread
  refine ⟨(ht.write i fun y hy => ht.buffer j i y (mem_buffer_evict hy)).measure _, ?_⟩
  rintro y ⟨⟩
  exact ht.buffer j i x hmem

lemma offers_pull {next : Drive σ ω (Option Tuple)}
    (h : Offers c (c.feeder (.endpoint j i)) next) :
    Offers c (c.feeder (.endpoint j i)) ((seat j).pull next i) := by
  intro t ht
  refine after_get_bind.mpr (after_lift_bind.mpr ⟨fun _ _ => ⟨ht, nofun⟩, fun _ _ => ?_⟩)
  split_ifs
  · exact offers_deliver t ht
  · exact after_pure.mpr ⟨ht, nofun⟩
  · refine (h t ht).bind (fun _ _ h' => ⟨h'.1, nofun⟩) fun given t' h' => ?_
    obtain ⟨ht', hgiven⟩ := h'
    match given with
    | some x =>
      refine after_modify_bind.mpr (offers_deliver _ (ht'.write i fun y hy => ?_))
      rcases List.mem_append.mp hy with hy | hy
      · exact ht'.buffer j i y hy
      · rw [List.mem_singleton.mp hy]
        exact hgiven x rfl
    | none =>
      refine after_modify_bind.mpr (after_pure.mpr ⟨ht'.write i fun y hy => ?_, nofun⟩)
      exact ht'.buffer j i y hy

lemma offers_onSupply {next : Nat → Drive σ ω (Option Tuple)}
    (h : ∀ q, Offers c q (next q)) :
    ∀ x, Offers c (c.feeder x) (onSupply next Seat.pull x)
  | .node q => fun t ht => by
    rw [← ht.feeder_eq]
    exact h q t ht
  | .endpoint j i => fun t ht => by
    refine after_get_bind.mpr (offers_pull ?_ t ht)
    rw [← t.placeOf_endpoint j i, ht.feeder_eq]
    exact h _

end Endpoints

/-! ### Nodes -/

lemma meets_changeTeam {f : Team ω → Team ω}
    (hf : ∀ team, team.Meets c place → (f team).Meets c place) :
    (modify (·.changeTeam place f) : Drive σ ω PUnit).Keeps (Meets c) :=
  keeps_modify fun _ ht => ht.changeTeam hf ht.calls

lemma meets_deliver {i : Nat} {input : Input} (hinput : c.accepts place input) :
    (deliver place i input : Drive σ ω Unit).Keeps (Meets c) := by
  refine fun t ht => after_handed (fun _ => ht) fun node team w hnode hcrew hw => ?_
  have hteam : node.crew.Meets c place := ht.crews place node hnode
  rw [hcrew] at hteam
  obtain ⟨hnext, hresult⟩ :=
    (hteam.workers w (List.mem_of_getElem? hw)).process (t.clock t.readings) hinput
  have htimed : Meets c { t with readings := t.readings + 1 } :=
    ⟨ht.root_eq, ht.feeder_eq, ht.operator_eq, ht.crews, ht.buffers, ht.calls⟩
  refine (htimed.callWorker ?_ hnext hresult).mono fun result t' h => ?_
  · rintro _ ⟨⟩
    exact hinput
  · cases result with
    | ok given =>
      refine Meets.measure (h.1.changeTeam (fun team hteam => ?_) h.1.calls) _
      exact ⟨hteam.workers, List.forall_mem_append.mpr ⟨hteam.pending, h.2⟩, hteam.slots⟩
    | error e => exact h.1

lemma meets_deal {x : Tuple} {link : Link} (hx : c.accepts place (.tuple x link)) :
    (deal place x link : Drive σ ω Unit).Keeps (Meets c) := by
  refine keeps_team?.bind fun found => ?_
  cases found with
  | none => exact keeps_pure _
  | some team =>
    refine Keeps.bind (meets_changeTeam ?_) fun _ => meets_deliver hx
    exact fun _ hteam => ⟨hteam.workers, hteam.pending, hteam.slots⟩

lemma meets_exhaust {i : Nat} {link : Link} (hlink : c.accepts place (.exhausted link)) :
    (exhaust place i link : Drive σ ω Unit).Keeps (Meets c) := by
  refine keeps_team?.bind fun found => ?_
  cases found with
  | none => exact keeps_pure _
  | some team =>
    refine Keeps.bind (meets_changeTeam fun team hteam => ?_) fun _ =>
      keeps_forM _ fun w _ => meets_deliver hlink
    refine ⟨hteam.workers, hteam.pending, fun slot hslot => ?_⟩
    obtain ⟨j, hj⟩ := List.getElem?_of_mem hslot
    simp only [List.getElem?_modify, Option.map_eq_map, Option.map_eq_some_iff] at hj
    obtain ⟨old, hold, rfl⟩ := hj
    have hmeets := hteam.slots old (List.mem_of_getElem? hold)
    split_ifs <;> exact hmeets

lemma meets_feed {next : Nat → Drive σ ω (Option Tuple)} (h : ∀ q, Offers c q (next q))
    {i : Nat} {slot : Slot} (hslot : c.accepts place (.exhausted slot.link) ∧
      ∀ x, c.emits (c.feeder slot.supply) x → c.accepts place (.tuple x slot.link)) :
    (feed next place i slot).Keeps (Meets c) := by
  refine Keeps.bind (meets_changeTeam ?_) fun _ t ht => ?_
  · exact fun _ hteam => ⟨hteam.workers, hteam.pending, hteam.slots⟩
  refine (offers_onSupply h slot.supply t ht).bind (fun _ _ => And.left) fun given t' h' => ?_
  obtain ⟨ht', hgiven⟩ := h'
  match given with
  | some x => exact meets_deal (hslot.2 x (hgiven x rfl)) t' ht'
  | none => exact meets_exhaust hslot.1 t' ht'

lemma offers_nextAt {next : Nat → Drive σ ω (Option Tuple)}
    (h : ∀ q, Offers c q (next q)) : Offers c place (nextAt next place) := by
  intro t ht
  refine after_get_bind.mpr ?_
  match hnode : t.nodes[place]? with
  | none => exact after_pure.mpr ⟨ht, nofun⟩
  | some node =>
    have hcrew := ht.crews place node hnode
    refine after_lift_bind.mpr ⟨fun _ _ => ⟨ht, nofun⟩, fun _ _ => ?_⟩
    match hnew : node.crew with
    | .source s started =>
      rw [hnew] at hcrew
      obtain ⟨hnext, hresult⟩ := Source.Meets.next hcrew
      refine (ht.callSource (fun _ => Event.noConfusion) hnext hresult).bind
        (fun _ _ h' => ⟨h'.1, nofun⟩) fun given t' h' => ?_
      refine after_modify_bind.mpr (after_pure.mpr ⟨h'.1.measure _, ?_⟩)
      rintro x ⟨⟩
      exact h'.2 x rfl
    | .team team =>
      rw [hnew] at hcrew
      match hpending : team.pending with
      | x :: rest =>
        have hgiven := hcrew.pending
        rw [hpending] at hgiven
        obtain ⟨hx, hrest⟩ := List.forall_mem_cons.mp hgiven
        simp only [hpending]
        refine after_modify_bind.mpr (after_pure.mpr ⟨ht.changeTeam (fun team hteam =>
          ⟨hteam.workers, hrest, hteam.slots⟩) ht.calls, ?_⟩)
        rintro _ ⟨⟩
        exact hx
      | [] =>
        simp only [hpending]
        split
        · exact after_pure.mpr ⟨ht, nofun⟩
        · next i slot hpick =>
          have hslot := hcrew.slots slot (List.mem_of_getElem? (Team.pick?_eq_some hpick).1)
          exact (meets_feed h hslot t ht).bind (fun _ _ h' => ⟨h', nofun⟩) fun _ t' ht' =>
            h place t' ht'

/-! ### Opening and closing -/

lemma Meets.setPhase (h : t.Meets c) (phase : Phase) :
    (t.changeNode place fun node => { node with phase := phase }).Meets c :=
  h.changeNode (fun _ => rfl) (fun _ _ => id) h.calls

/-- Everything that opening does keeps to the contract. -/
lemma startKeeps_meets : StartKeeps fun t : Tree σ ω => t.Meets c where
  endpoint := by
    intro t j i con ht hcon
    refine ht.write i fun x hx => ht.buffer j i x ?_
    obtain ⟨-, rfl⟩ := Connector.startEndpoint_eq_ok_iff.mp hcon
    exact hx
  team ht _ _ _ := ht.setPhase .opened
  source := by
    intro t k node s started ht hnode _ hcrew
    have hmeets := ht.crews k node hnode
    rw [hcrew] at hmeets
    obtain ⟨hanswer, hstarted⟩ := Source.Meets.start hmeets
    exact after_modify_bind.mpr (((ht.setPhase .opened).callSource (fun _ => Event.noConfusion)
      hanswer hstarted).mono fun _ _ => And.left)
  mark := by
    intro t k f ht hf
    refine ht.changeNode (fun old => ?_) (fun old _ hold => ?_) ht.calls
    · obtain hsame | ⟨_, _, -, hmarked⟩ := hf old
      · rw [hsame]
      · rw [hmarked]
    · obtain hsame | ⟨s, started, hcrew, hmarked⟩ := hf old
      · rwa [hsame]
      · rw [hcrew] at hold
        rwa [hmarked]
  worker := by
    intro t₀ t k node team i w ht₀ hnode hcrew hw ht
    have hmeets := ht₀.crews k node hnode
    rw [hcrew] at hmeets
    obtain ⟨hnext, hresult⟩ := (hmeets.workers w (List.mem_of_getElem? hw)).start
    exact (ht.callWorker (fun _ => Event.noConfusion) hnext hresult).mono fun _ _ => And.left
  count ht := ht.changeTeam (fun _ hteam => ⟨hteam.workers, hteam.pending, hteam.slots⟩) ht.calls

/-- Everything that closing does keeps to the contract. -/
lemma stopKeeps_meets : StopKeeps fun t : Tree σ ω => t.Meets c where
  endpoint := by
    intro t j i con ht hcon
    refine after_modify.mpr (Meets.measure (ht.write i fun x hx => ht.buffer j i x ?_) _)
    obtain ⟨-, rfl⟩ := Connector.stopEndpoint_eq_ok_iff.mp hcon
    exact mem_buffer_evict hx
  phase ht := ht.setPhase .closed
  source := by
    intro t k node s started ht hnode hcrew
    have hmeets := ht.crews k node hnode
    rw [hcrew] at hmeets
    obtain ⟨hnext, hresult⟩ := Source.Meets.stop hmeets
    exact after_modify_bind.mpr (((ht.setPhase .closed).callSource (fun _ => Event.noConfusion)
      hnext hresult).mono fun _ _ => And.left)
  clear ht := ht.changeTeam
    (fun _ hteam => ⟨hteam.workers, fun _ => List.not_mem_nil.elim, hteam.slots⟩) ht.calls
  worker := by
    intro t k node team i w ht hnode hcrew hw
    have hmeets := ht.crews k node hnode
    rw [hcrew] at hmeets
    obtain ⟨hnext, hresult⟩ := (hmeets.workers w (List.mem_of_getElem? hw)).stop
    exact (ht.callWorker (fun _ => Event.noConfusion) hnext hresult).mono fun _ _ => And.left

/-! ### Whole trees -/

variable {depth : Nat}

lemma offers_nextNode (depth place : Nat) :
    Offers c place (nextNode depth place : Drive σ ω (Option Tuple)) := by
  induction depth generalizing place with
  | zero => exact fun _ _ => after_endless.mpr trivial
  | succ depth ih => exact offers_nextAt ih

lemma offers_next : Offers c c.root (next depth : Drive σ ω (Option Tuple)) := fun t ht =>
  after_get_bind.mpr (ht.root_eq ▸ offers_nextNode depth t.root t ht)

/-- Whatever is done to a tree that keeps to a contract, it keeps to it. -/
theorem Runs.meets {ops : List Operation} {t' : Tree σ ω} (h : t.Runs ops t')
    (ht : t.Meets c) : t'.Meets c := by
  induction h with
  | nil => exact ht
  | @cons t t' t'' depth op ops result hop hrest ih =>
    refine ih ?_
    match op with
    | .start => exact (startKeeps_meets.start depth t ht).of_outcome hop
    | .stop => exact (stopKeeps_meets.stop depth t ht).of_outcome hop
    | .next =>
      rw [operate, outcome_map, Option.map_eq_some_iff] at hop
      obtain ⟨⟨given, t₁⟩, hnext, heq⟩ := hop
      cases heq
      exact ((offers_next t ht).of_outcome hnext).1

lemma meets_drain (rounds : Nat) {given : List Tuple} (hgiven : ∀ x ∈ given, c.emits c.root x)
    (ht : t.Meets c) : (drain depth rounds given : Drive σ ω (List Tuple)).After True t
      fun result t' => t'.Meets c ∧ ∀ all, result = .ok all → ∀ x ∈ all, c.emits c.root x := by
  induction rounds generalizing given t with
  | zero => exact after_endless.mpr trivial
  | succ rounds ih =>
    refine (offers_next t ht).bind (fun _ _ h' => ⟨h'.1, nofun⟩) fun next t' h' => ?_
    match next with
    | some x => exact ih (List.forall_mem_cons.mpr ⟨h'.2 x rfl, hgiven⟩) h'.1
    | none =>
      refine after_pure.mpr ⟨h'.1, ?_⟩
      rintro _ ⟨⟩ x hx
      exact hgiven x (List.mem_reverse.mp hx)

/-- A whole run of a tree that keeps to a contract gives tuples that its sink may give. -/
theorem meets_complete (ht : t.Meets c) : (complete depth : Drive σ ω (List Tuple)).After True t
    fun result t' => t'.Meets c ∧ ∀ all, result = .ok all → ∀ x ∈ all, c.emits c.root x := by
  refine after_attempt_bind.mpr ?_
  have hopened : (do start depth; drain depth depth [] : Drive σ ω (List Tuple)).After True t
      fun result t' => t'.Meets c ∧ ∀ all, result = .ok all → ∀ x ∈ all, c.emits c.root x :=
    (startKeeps_meets.start depth t ht).bind (fun _ _ h' => ⟨h', fun _ h => by cases h⟩)
      fun _ t' ht' => meets_drain depth (List.forall_mem_nil _) ht'
  refine hopened.mono fun pulled t' h' => after_attempt_bind.mpr ?_
  refine (stopKeeps_meets.stop depth t' h'.1).mono fun stopped t'' ht'' => ?_
  have hfailed (e : Error) : (do modify (·.measure (.failure e.kind)); throw e :
      Drive σ ω (List Tuple)).After True t'' fun result t' =>
        t'.Meets c ∧ ∀ all, result = .ok all → ∀ x ∈ all, c.emits c.root x :=
    after_modify_bind.mpr (after_throw.mpr ⟨ht''.measure _, fun _ h => by cases h⟩)
  cases pulled with
  | error e => exact hfailed e
  | ok all =>
    cases stopped with
    | error e => exact hfailed e
    | ok _ => exact after_pure.mpr ⟨ht'', h'.2⟩

end Tree

end Dataflow
