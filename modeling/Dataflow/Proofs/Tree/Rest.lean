import Dataflow.Proofs.Books.Ends
import Dataflow.Proofs.Tree.Books
import Dataflow.Proofs.Tree.Driven

/-!
# Opening and closing move no tuples

While a tree is opened, nothing of what waits in it moves and no executor is asked to work, so the
books of a new tree stay blank. While it is closed, no executor is asked to work either, so the
books stay as they are in all that was taken in and given out.
-/

namespace Dataflow

variable {σ ω α : Type}

namespace Crew.Fresh

lemma waiting_eq {crew : Crew σ ω} (h : crew.Fresh) : crew.waiting = 0 := by
  cases crew with
  | source => rfl
  | team team =>
    obtain ⟨-, -, -, hpending, -⟩ := h
    rw [Crew.waiting, hpending, List.length_nil]

lemma ended_eq {crew : Crew σ ω} (h : crew.Fresh) (x : Supply) :
    crew.ended x = false := by
  cases crew with
  | source => rfl
  | team team =>
    obtain ⟨-, -, -, -, -, hslots⟩ := h
    simp only [Crew.ended, List.any_eq_false, decide_eq_true_eq]
    rintro slot hslot ⟨-, hended⟩
    rw [hslots slot hslot] at hended
    cases hended

end Crew.Fresh

namespace Tree

open Act

/-- The measured calls of all operators, and the calls of executors to work. -/
def worked (t : Tree σ ω) : (String → String → List (Nat × Nat × Binary64)) × List Call :=
  (t.metrics.calls, t.newestCalls.filter Call.isWork)

/-- What is entered of teams and of connectors. -/
def stored (t : Tree σ ω) :
    List (Nat × (Supply → Bool)) × (ConnectorId → Nat × Bool × (Nat → Nat)) :=
  (t.nodes.map fun node => (node.crew.waiting, node.crew.ended),
    fun c => (((seat c).read t).reach, ((seat c).read t).ended,
      fun i => (((seat c).read t).endpoint i).position))

variable {F : Form} {operators : List Operator} {t t' : Tree σ ω} {k place : Nat}

lemma books_of_worked (operators : List Operator) (h : t'.worked = t.worked) :
    (t'.books operators).taken = (t.books operators).taken ∧
      (t'.books operators).given = (t.books operators).given ∧
      (t'.books operators).nexts = (t.books operators).nexts ∧
      (t'.books operators).works = (t.books operators).works := by
  obtain ⟨hcalls, hwork⟩ := Prod.ext_iff.mp h
  have hcount {p : Call → Bool} (hp : ∀ call, p call → call.isWork) :
      t'.newestCalls.countP p = t.newestCalls.countP p := by
    have hfilter (calls : List Call) : (calls.filter Call.isWork).countP p = calls.countP p := by
      rw [List.countP_filter]
      refine List.countP_congr fun call _ => ?_
      simpa using hp call
    rw [← hfilter, ← hfilter t.newestCalls]
    exact congrArg (List.countP p) hwork
  refine ⟨?_, ?_, ?_, ?_⟩
  · funext k
    simp only [books, Metrics.rowsIn]
    rw [show t'.metrics.calls = t.metrics.calls from hcalls]
  · funext k
    simp only [books, Metrics.rowsOut]
    rw [show t'.metrics.calls = t.metrics.calls from hcalls]
  · funext k
    refine hcount fun call hcall => ?_
    obtain ⟨-, hnext⟩ := of_decide_eq_true hcall
    simp [Call.isWork, hnext]
  · funext k
    refine hcount fun call hcall => ?_
    obtain ⟨-, hprocess⟩ := of_decide_eq_true hcall
    cases hevent : call.event <;> simp [Call.isWork, hevent, Event.isProcess] at hprocess ⊢

lemma books_of_stored (operators : List Operator) (h : t'.stored = t.stored) :
    (t'.books operators).waiting = (t.books operators).waiting ∧
      (t'.books operators).ended = (t.books operators).ended ∧
      (t'.books operators).reach = (t.books operators).reach ∧
      (t'.books operators).dry = (t.books operators).dry ∧
      (t'.books operators).position = (t.books operators).position := by
  obtain ⟨hnodes, hconnectors⟩ := Prod.ext_iff.mp h
  have hnode (k : Nat) := congrArg (·[k]?) hnodes
  simp only [stored, List.getElem?_map] at hnode hconnectors
  have hconnector (c : ConnectorId) := congrFun hconnectors c
  simp only [Prod.mk.injEq] at hconnector
  refine ⟨?_, ?_, funext fun c => (hconnector c).1, funext fun c => (hconnector c).2.1, ?_⟩
  · funext k
    have hwaiting := congrArg (Option.map Prod.fst) (hnode k)
    simp only [Option.map_map, Function.comp_def] at hwaiting
    simp only [books, hwaiting]
  · funext k x
    have hended := congrArg (Option.map fun entry => entry.2 x) (hnode k)
    simp only [Option.map_map, Function.comp_def] at hended
    simp only [books, hended]
  · funext x
    cases x with
    | node q => rfl
    | endpoint c i => exact congrFun (hconnector c).2.2 i

lemma Tied.idle (ht : t.Tied F operators) {s : σ} (hs : (t.books operators).source k = some s) :
    F.suppliesOf k = [] := by
  obtain ⟨node, hnode, hsource⟩ := Option.bind_eq_some_iff.mp hs
  rw [ht.suppliesOf_eq hnode]
  cases hcrew : node.crew with
  | source => rfl
  | team => simp [hcrew, Crew.source?] at hsource

/-- The books of a tree of a form are blank if nothing was moved since they were. -/
lemma Tied.blank (ht : t'.Tied F operators) (h : Books.Blank F (t.books operators))
    (hstored : t'.stored = t.stored) (hworked : t'.worked = t.worked) :
    Books.Blank F (t'.books operators) := by
  obtain ⟨hwaiting, hended, hreach, hdry, hposition⟩ := books_of_stored operators hstored
  obtain ⟨htaken, hgiven, hnexts, hworks⟩ := books_of_worked operators hworked
  exact ⟨fun k s => ht.idle, hwaiting ▸ h.waiting_eq, hended ▸ h.ended_eq, hreach ▸ h.reach_eq,
    hdry ▸ h.dry_eq, hposition ▸ h.position_eq, htaken ▸ h.taken_eq, hgiven ▸ h.given_eq,
    hnexts ▸ h.nexts_eq, hworks ▸ h.works_eq⟩

lemma Fresh.inTurn (h : t.Fresh) (k : Nat) (node : Node σ ω) (hk : t.nodes[k]? = some node) :
    node.crew.InTurn := by
  have hcrew := (h.nodes node (List.mem_of_getElem? hk)).crew
  cases hnew : node.crew with
  | source => trivial
  | team team =>
    rw [hnew] at hcrew
    obtain ⟨-, -, hturn, -, hworkers, -⟩ := hcrew
    have hlength : 0 < team.workers.length := List.length_pos_iff.mpr hworkers
    rwa [← hturn] at hlength

/-- A new tree has blank books. -/
lemma Fresh.blank (h : t.Fresh) (ht : t.Tied F operators) :
    Books.Blank F (t.books operators) := by
  have hconnector (c : ConnectorId) : ((seat c).read t).reach = 0 ∧
      ∀ i, (((seat c).read t).endpoint i).position = 0 := by
    cases hc : t.junctions[c]? with
    | none => simp [seat, hc, noConnector, Connector.reach, Connector.endpoint]
    | some junction =>
      have hfresh := h.junctions junction (List.mem_of_getElem? hc)
      refine ⟨by simp [seat, hc, Connector.reach, hfresh.buffer_eq, hfresh.base_eq], fun i => ?_⟩
      simp only [seat, hc, Option.map_some, Option.getD_some, Connector.endpoint]
      cases he : junction.connector.endpoints[i]? with
      | none => rfl
      | some e => exact (hfresh.endpoints e (List.mem_of_getElem? he)).1
  have hcrew (k : Nat) : (t.books operators).waiting k = 0 ∧
      ∀ x, (t.books operators).ended k x = false := by
    simp only [books]
    cases hnode : t.nodes[k]? with
    | none => exact ⟨rfl, fun _ => rfl⟩
    | some node =>
      have hfresh := (h.nodes node (List.mem_of_getElem? hnode)).crew
      exact ⟨hfresh.waiting_eq, hfresh.ended_eq⟩
  have hrows (k : Nat) : (t.books operators).taken k = 0 ∧ (t.books operators).given k = 0 := by
    simp only [books, h.metrics_eq]
    cases operators[k]? <;> exact ⟨rfl, rfl⟩
  have hcalls (k : Nat) : (t.books operators).nexts k = 0 ∧ (t.books operators).works k = 0 := by
    simp [books, h.calls_eq]
  refine ⟨fun k s => ht.idle, fun k => (hcrew k).1, fun k => (hcrew k).2, fun c => (hconnector c).1,
    fun c q n hjoint => ?_, fun x => ?_, fun k => (hrows k).1, fun k => (hrows k).2,
    fun k => (hcalls k).1, fun k => (hcalls k).2⟩
  · rw [← ht.wiring_eq] at hjoint
    obtain ⟨junction, hjunction, hread, -⟩ := exists_junction_of_joint hjoint
    simp only [books, hread]
    exact (h.junctions junction (List.mem_of_getElem? hjunction)).ended_eq
  · cases x with
    | node => rfl
    | endpoint c i => exact (hconnector c).2 i

lemma stored_changeNode {f : Node σ ω → Node σ ω}
    (h : ∀ node, t.nodes[place]? = some node →
      (f node).crew.waiting = node.crew.waiting ∧ (f node).crew.ended = node.crew.ended) :
    (t.changeNode place f).stored = t.stored := by
  refine Prod.ext ?_ rfl
  exact map_modify_of_eq fun node hnode => Prod.ext (h node hnode).1 (h node hnode).2

lemma stored_changeTeam (t : Tree σ ω) (place : Nat) {f : Team ω → Team ω}
    (h : ∀ team, (f team).pending = team.pending ∧ (f team).slots = team.slots) :
    (t.changeTeam place f).stored = t.stored := by
  refine stored_changeNode fun node _ => ?_
  cases hcrew : node.crew with
  | source => simp [hcrew]
  | team team => simp [Crew.waiting, Crew.ended, h team]

lemma stored_changeSource {node : Node σ ω} {s s' : σ} {started started' : Bool}
    (hnode : t.nodes[place]? = some node) (hcrew : node.crew = .source s started) :
    (t.changeNode place fun node => { node with crew := .source s' started' }).stored =
      t.stored := by
  refine stored_changeNode fun other hother => ?_
  obtain rfl : node = other := Option.some.inj (hnode.symm.trans hother)
  rw [hcrew]
  exact ⟨rfl, rfl⟩

lemma worked_call {call : Call} (h : ¬call.isWork) :
    worked { t with newestCalls := call :: t.newestCalls } = t.worked := by
  simp [worked, h]

lemma told_startEndpoint {i : Nat} {con con' : Connector} (h : con.startEndpoint i = .ok con') :
    (con'.reach, con'.ended, fun j => (con'.endpoint j).position) =
      (con.reach, con.ended, fun j => (con.endpoint j).position) := by
  obtain ⟨-, rfl⟩ := Connector.startEndpoint_eq_ok_iff.mp h
  refine Prod.ext rfl (Prod.ext rfl (funext fun j => ?_))
  simp only [Connector.endpoint, Connector.change, List.getElem?_modify]
  cases con.endpoints[j]? <;> split_ifs <;> rfl

lemma stored_startEndpoint {c : ConnectorId} {i : Nat} {con : Connector}
    (h : ((seat c).read t).startEndpoint i = .ok con) :
    ((seat c).write con t).stored = t.stored := by
  refine Prod.ext rfl (funext fun d => ?_)
  cases hc : t.junctions[c]? with
  | none =>
    have hwrite : (seat c).write con t = t := by
      simp only [seat, List.modify_eq_set_getElem?, hc, Option.map_eq_map, Option.map_none,
        Option.getD_none]
    rw [hwrite]
  | some junction =>
    exact tell_write (fun con => (con.reach, con.ended, fun j => (con.endpoint j).position)) hc con
      (told_startEndpoint h) d

/-- Opening moves nothing and asks no executor to work. -/
lemma startKeeps_still [Source σ] [Worker ω] (stored₀ worked₀) :
    StartKeeps fun t : Tree σ ω => t.stored = stored₀ ∧ t.worked = worked₀ where
  endpoint ht hcon := ⟨(stored_startEndpoint hcon).trans ht.1, ht.2⟩
  team ht _ _ _ := ⟨Eq.trans (stored_changeNode fun _ _ => ⟨rfl, rfl⟩) ht.1, ht.2⟩
  source ht hnode _ hcrew := after_modify_bind.mpr (after_callSource.mpr
    ⟨(stored_changeSource (getElem?_changeNode hnode) hcrew).trans
      (Eq.trans (stored_changeNode fun _ _ => ⟨rfl, rfl⟩) ht.1),
      (worked_call (by simp [Call.isWork])).trans ht.2⟩)
  mark := by
    intro t place f ht hf
    refine ⟨(stored_changeNode fun node _ => ?_).trans ht.1, ht.2⟩
    obtain hsame | ⟨s, started, hcrew, hmarked⟩ := hf node
    · rw [hsame]
      exact ⟨rfl, rfl⟩
    · rw [hmarked, hcrew]
      exact ⟨rfl, rfl⟩
  worker _ _ _ _ ht := after_callWorker.mpr
    ⟨Eq.trans (stored_changeTeam _ _ fun _ => ⟨rfl, rfl⟩) ht.1,
      (worked_call (by simp [Call.isWork])).trans ht.2⟩
  count ht := ⟨Eq.trans (stored_changeTeam _ _ fun _ => ⟨rfl, rfl⟩) ht.1, ht.2⟩

section Sources

variable [Source σ] {t₀ : Tree σ ω}

/-- How the source of a node has changed since the node was new, while a tree is opened: it is
opened along with its node. -/
def Rouses (node₀ node : Node σ ω) : Prop :=
  node.crew.source? = node₀.crew.source?.map fun s =>
    if node.phase = .unopened then s else (Source.start s).2

/-- A tree that was new and is being opened. -/
def Roused (t₀ t : Tree σ ω) : Prop :=
  ∀ (k : Nat) node, t.nodes[k]? = some node → ∃ node₀, t₀.nodes[k]? = some node₀ ∧
    Rouses node₀ node

lemma Fresh.roused (h : t₀.Fresh) : Roused t₀ t₀ := by
  intro k node hk
  refine ⟨node, hk, ?_⟩
  rw [Rouses, (h.nodes node (List.mem_of_getElem? hk)).phase_eq]
  exact Option.map_id'.symm

lemma Roused.changeNode (h : Roused t₀ t) {f : Node σ ω → Node σ ω} (calls : List Call)
    (hf : ∀ node node₀, t.nodes[place]? = some node → Rouses node₀ node → Rouses node₀ (f node)) :
    Roused t₀ { t.changeNode place f with newestCalls := calls } := by
  intro k node' hk
  simp only [Tree.changeNode, List.getElem?_modify, Option.map_eq_map,
    Option.map_eq_some_iff] at hk
  obtain ⟨node, hnode, rfl⟩ := hk
  obtain ⟨node₀, hnode₀, hrouses⟩ := h k node hnode
  refine ⟨node₀, hnode₀, ?_⟩
  split_ifs with heq
  · exact hf node node₀ (heq ▸ hnode) hrouses
  · exact hrouses

lemma Roused.changeTeam (h : Roused t₀ t) (f : Team ω → Team ω) (calls : List Call) :
    Roused t₀ { t.changeTeam place f with newestCalls := calls } := by
  refine h.changeNode calls fun node node₀ _ hrouses => ?_
  cases hcrew : node.crew with
  | source => simpa [hcrew] using hrouses
  | team => simpa [Rouses, hcrew, Crew.source?] using hrouses

lemma Roused.callSource (h : Roused t₀ t) {node : Node σ ω} (hnode : t.nodes[place]? = some node)
    (hphase : node.phase = .unopened) {s : σ} {started : Bool}
    (hcrew : node.crew = .source s started) (calls : List Call) :
    Roused t₀ { (t.changeNode place fun node => { node with phase := .opened }).changeNode place
      (fun node => { node with crew := .source (Source.start s).2 false }) with
        newestCalls := calls } := by
  have hboth : Roused t₀ { t.changeNode place
      ((fun node => { node with crew := .source (Source.start s).2 false }) ∘
        fun node => { node with phase := .opened }) with newestCalls := calls } := by
    refine h.changeNode calls fun other node₀ hother hrouses => ?_
    obtain rfl : node = other := Option.some.inj (hnode.symm.trans hother)
    rw [Rouses, hcrew, hphase] at hrouses
    cases hold : node₀.crew with
    | source s₀ =>
      obtain rfl : s = s₀ := by simpa [hold, Crew.source?] using hrouses
      simp [Rouses, hold, Crew.source?]
    | team => simp [hold, Crew.source?] at hrouses
  simpa only [Tree.changeNode, List.modify_modify_eq] using hboth

/-- Whatever happens in it, opening leaves the sources of unopened nodes alone and opens the
others. -/
lemma startKeeps_roused [Worker ω] : StartKeeps (Roused t₀ : Tree σ ω → Prop) where
  endpoint ht _ := ht
  team := by
    intro t place node team ht hnode _ hcrew
    refine ht.changeNode _ fun other node₀ hother hrouses => ?_
    obtain rfl : node = other := Option.some.inj (hnode.symm.trans hother)
    simpa [Rouses, hcrew, Crew.source?] using hrouses
  source ht hnode hphase hcrew :=
    after_modify_bind.mpr (after_callSource.mpr (ht.callSource hnode hphase hcrew _))
  mark := by
    intro t place f ht hf
    refine ht.changeNode _ fun node node₀ _ hrouses => ?_
    obtain hsame | ⟨s, started, hcrew, hmarked⟩ := hf node
    · rwa [hsame]
    · rw [hmarked]
      simpa [Rouses, hcrew, Crew.source?] using hrouses
  worker _ _ _ _ ht := after_callWorker.mpr (ht.changeTeam _ _)
  count ht := ht.changeTeam _ _

end Sources

lemma stopKeeps_worked [Source σ] [Worker ω] (worked₀) :
    StopKeeps fun t : Tree σ ω => t.worked = worked₀ where
  endpoint := by
    intro t c i con ht _
    have hsame : (((seat c).write con t).measure
        (.buffered con.producer con.buffer.length)).worked = t.worked := by
      refine Prod.ext (funext₂ fun operator kind => ?_) rfl
      simp [worked, measure, Metrics.calls_record, Metrics.callOf, seat]
    exact after_modify.mpr (hsame.trans ht)
  phase ht := ht
  source ht _ _ := after_modify_bind.mpr (after_callSource.mpr
    ((worked_call (by simp [Call.isWork])).trans ht))
  clear ht := ht
  worker ht _ _ _ := after_callWorker.mpr ((worked_call (by simp [Call.isWork])).trans ht)

end Tree

end Dataflow
