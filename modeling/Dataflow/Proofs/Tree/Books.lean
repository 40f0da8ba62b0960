import Dataflow.Proofs.Tree.Tied

/-!
# The books of a tree

What happens to a tree while it is pulled is entered in its books: every tuple that a node takes in
and gives out, and every call of an executor. Pulling moves the books of a tree as pulling books
does.
-/

namespace Dataflow

variable {σ ω : Type}

/-! ### Metrics -/

namespace Metrics

variable {m : Metrics} {operator kind operator' kind' : String} {rowsIn rowsOut : Nat}
  {seconds : Binary64}

lemma calls_record (x : Measurement) :
    (m.record x).calls operator kind =
      m.calls operator kind ++ (callOf operator kind x).toList := by
  rw [calls, measurements_record, List.filterMap_append, List.filterMap_cons, List.filterMap_nil]
  cases callOf operator kind x <;> rfl

lemma rows_record_call :
    (m.record (.call operator kind rowsIn rowsOut seconds)).rowsIn operator' kind' =
        m.rowsIn operator' kind' + (if operator = operator' ∧ kind = kind' then rowsIn else 0) ∧
      (m.record (.call operator kind rowsIn rowsOut seconds)).rowsOut operator' kind' =
        m.rowsOut operator' kind' + if operator = operator' ∧ kind = kind' then rowsOut else 0 := by
  rw [Metrics.rowsIn, Metrics.rowsOut, calls_record, List.foldl_append, List.foldl_append, callOf]
  split_ifs <;> exact ⟨rfl, rfl⟩

end Metrics

/-! ### Crews -/

/-- The source of a crew, if it has one. -/
def Crew.source? : Crew σ ω → Option σ
  | .source s _ => some s
  | .team _ => none

/-- The number of tuples that wait at a crew. -/
def Crew.waiting : Crew σ ω → Nat
  | .source .. => 0
  | .team t => t.pending.length

/-- Whether an input of a crew has ended. -/
def Crew.ended : Crew σ ω → Supply → Bool
  | .source .. => fun _ => false
  | .team t => fun x => t.slots.any fun slot => slot.supply = x ∧ slot.exhausted

/-- One more input of a team has ended. -/
lemma Crew.ended_modify {team : Team ω} {i : Nat} {slot : Slot}
    (hslot : team.slots[i]? = some slot) :
    (Crew.team { team with
      slots := team.slots.modify i fun slot => { slot with exhausted := true } } :
        Crew σ ω).ended = Function.update (Crew.team team : Crew σ ω).ended slot.supply true := by
  funext y
  rw [Function.update_apply, ended, ended]
  split_ifs with hy
  · subst hy
    refine List.any_eq_true.mpr ⟨{ slot with exhausted := true }, ?_, by simp⟩
    refine List.mem_of_getElem? (i := i) ?_
    rw [List.getElem?_modify_eq, hslot]
    rfl
  · have hsame : (team.slots.modify i fun slot => { slot with exhausted := true }).map
          (fun slot => decide (slot.supply = y ∧ slot.exhausted = true)) =
        team.slots.map fun slot => decide (slot.supply = y ∧ slot.exhausted = true) := by
      refine map_modify_of_eq fun other hother => ?_
      obtain rfl : slot = other := Option.some.inj (hslot.symm.trans hother)
      simp [Ne.symm hy]
    have hany := congrArg (fun entries => List.any entries id) hsame
    simpa [List.any_map] using hany

/-- Whether an executor is asked to take something in. -/
def Event.isProcess : Event → Bool
  | .process _ => true
  | _ => false

namespace Tree

open Act

/-- The books of a tree whose nodes run some operators. -/
def books (operators : List Operator) (t : Tree σ ω) : Books σ where
  source k := t.nodes[k]?.bind fun node => node.crew.source?
  waiting k := (t.nodes[k]?.map fun node => node.crew.waiting).getD 0
  ended k x := (t.nodes[k]?.map fun node => node.crew.ended x).getD false
  reach c := ((seat c).read t).reach
  dry c := ((seat c).read t).ended
  position
    | .node _ => 0
    | .endpoint c i => (((seat c).read t).endpoint i).position
  taken k := (operators[k]?.map fun operator =>
    t.metrics.rowsIn operator.id operator.kind.tag).getD 0
  given k := (operators[k]?.map fun operator =>
    t.metrics.rowsOut operator.id operator.kind.tag).getD 0
  nexts k := t.newestCalls.countP fun call => call.node = k ∧ call.event = .next
  works k := t.newestCalls.countP fun call => call.node = k ∧ call.event.isProcess

variable {F : Form} {operators : List Operator} {t t' : Tree σ ω} {k : Nat} {node : Node σ ω}
  {team : Team ω}

/-! ### Entries -/

lemma books_source (operators : List Operator) (hnode : t.nodes[k]? = some node) {s : σ}
    {started : Bool} (hcrew : node.crew = .source s started) :
    (t.books operators).source k = some s ∧ (t.books operators).waiting k = 0 ∧
      (t.books operators).ended k = fun _ => false := by
  simp [books, hnode, hcrew, Crew.source?, Crew.waiting, Crew.ended]

lemma books_team (operators : List Operator) (hnode : t.nodes[k]? = some node)
    (hcrew : node.crew = .team team) :
    (t.books operators).source k = none ∧ (t.books operators).waiting k = team.pending.length ∧
      (t.books operators).ended k = (Crew.team team : Crew σ ω).ended := by
  simp [books, hnode, hcrew, Crew.source?, Crew.waiting]

lemma books_changeNode (hnode : t.nodes[k]? = some node) (f : Node σ ω → Node σ ω) :
    (t.changeNode k f).books operators = { t.books operators with
      source := Function.update (t.books operators).source k (f node).crew.source?
      waiting := Function.update (t.books operators).waiting k (f node).crew.waiting
      ended := Function.update (t.books operators).ended k (f node).crew.ended } := by
  have hnodes (j : Nat) : (t.changeNode k f).nodes[j]? =
      if j = k then some (f node) else t.nodes[j]? := by
    split_ifs with hj
    · rw [hj, getElem?_changeNode hnode]
    · exact List.getElem?_modify_ne _ _ (Ne.symm hj)
  ext1
  case source | waiting =>
    funext j
    simp only [books, hnodes, Function.update_apply]
    split_ifs <;> rfl
  case ended =>
    funext j x
    simp only [books, hnodes, Function.update_apply]
    split_ifs <;> rfl
  all_goals rfl

/-- Of a team only what waits at it and which inputs have ended are entered. -/
lemma books_changeTeam (hnode : t.nodes[k]? = some node) (hcrew : node.crew = .team team)
    (f : Team ω → Team ω) : (t.changeTeam k f).books operators = { t.books operators with
      waiting := Function.update (t.books operators).waiting k (f team).pending.length
      ended := Function.update (t.books operators).ended k
        (Crew.team (f team) : Crew σ ω).ended } := by
  rw [changeTeam, books_changeNode hnode, hcrew]
  simp only [Crew.source?, ← (books_team operators hnode hcrew).1, Function.update_eq_self]
  rfl

lemma books_changeTeam_of_eq (operators : List Operator) (hnode : t.nodes[k]? = some node)
    (hcrew : node.crew = .team team) {f : Team ω → Team ω} (hslots : (f team).slots = team.slots)
    (hpending : (f team).pending = team.pending) :
    (t.changeTeam k f).books operators = t.books operators := by
  obtain ⟨-, hwaiting, hended⟩ := books_team operators hnode hcrew
  have hsame : (Crew.team (f team) : Crew σ ω).ended = (Crew.team team : Crew σ ω).ended := by
    funext x
    rw [Crew.ended, Crew.ended, hslots]
  rw [books_changeTeam hnode hcrew, hpending, hsame, ← hwaiting, ← hended,
    Function.update_eq_self, Function.update_eq_self]

/-- A call to give a tuple or to take something in is counted for its node. -/
lemma books_call (operators : List Operator) (t : Tree σ ω) (call : Call) :
    books operators { t with newestCalls := call :: t.newestCalls } = { t.books operators with
      nexts := raise (t.books operators).nexts call.node (decide (call.event = .next)).toNat
      works := raise (t.books operators).works call.node call.event.isProcess.toNat } := by
  ext1
  case nexts =>
    funext j
    by_cases hj : j = call.node <;> by_cases hnext : call.event = .next <;>
      simp [books, raise_apply, List.countP_cons, hj, hnext, Ne.symm]
  case works =>
    funext j
    by_cases hj : j = call.node <;> cases hwork : call.event.isProcess <;>
      simp [books, raise_apply, List.countP_cons, hj, hwork, Ne.symm]
  all_goals rfl

lemma books_measure {operator : Operator} (hnodup : (operators.map Operator.id).Nodup)
    (hk : operators[k]? = some operator) (rowsIn rowsOut : Nat) (seconds : Binary64) :
    (t.measure (.call operator.id operator.kind.tag rowsIn rowsOut seconds)).books operators =
      { t.books operators with
        taken := raise (t.books operators).taken k rowsIn
        given := raise (t.books operators).given k rowsOut } := by
  have hsame {j : Nat} {other : Operator} (hj : operators[j]? = some other) :
      (operator.id = other.id ∧ operator.kind.tag = other.kind.tag) ↔ j = k := by
    constructor
    · rintro ⟨hid, -⟩
      have hlt : j < (operators.map Operator.id).length := by
        rw [List.length_map]
        exact (List.getElem?_eq_some_iff.mp hj).1
      refine (List.getElem?_inj hlt hnodup).mp ?_
      rw [List.getElem?_map, List.getElem?_map, hj, hk, Option.map_some, Option.map_some, hid]
    · rintro rfl
      cases hk.symm.trans hj
      exact ⟨rfl, rfl⟩
  ext1
  case taken | given =>
    funext j
    simp only [books, raise_apply, measure]
    cases hj : operators[j]? with
    | none =>
      have hne : j ≠ k := by
        rintro rfl
        rw [hj] at hk
        cases hk
      simp [hne]
    | some other => simp [Metrics.rows_record_call, hsame hj]
  all_goals rfl

lemma books_buffered (producer : String) (rows : Nat) :
    (t.measure (.buffered producer rows)).books operators = t.books operators := by
  ext1
  case taken | given =>
    funext j
    simp [books, measure, Metrics.rowsIn, Metrics.rowsOut, Metrics.calls_record, Metrics.callOf]
  all_goals rfl

/-! ### Nodes -/

lemma Tied.exists_team (h : t.Tied F operators) (hk : k < F.supplies.length)
    (hteam : (t.books operators).source k = none) : ∃ node team, t.nodes[k]? = some node ∧
      node.crew = .team team ∧ team.workers.length = F.staff k ∧
        team.nextWorker < team.workers.length := by
  obtain ⟨node, hnode⟩ := h.exists_node hk
  have hstaff := h.staff_eq k node hnode
  have hturn := h.turn k node hnode
  cases hcrew : node.crew with
  | source s started =>
    rw [(books_source operators hnode hcrew).1] at hteam
    cases hteam
  | team team =>
    rw [hcrew] at hstaff hturn
    exact ⟨node, team, hnode, hcrew, hstaff, hturn⟩

lemma Tied.picked (hsound : F.Sound) (ht : t.Tied F operators) (hnode : t.nodes[k]? = some node)
    (hcrew : node.crew = .team team) {i : Nat} {slot : Slot} (hpick : team.pick? = some (i, slot)) :
    slot.supply ∈ F.suppliesOf k ∧ (t.books operators).ended k slot.supply = false := by
  obtain ⟨hslot, hleft⟩ := Team.pick?_eq_some hpick
  have hmem := List.mem_of_getElem? hslot
  have hsupplies := ht.suppliesOf_team hnode hcrew
  have hinj := List.inj_on_of_nodup_map (hsupplies ▸ hsound.nodup_suppliesOf k)
  refine ⟨hsupplies ▸ List.mem_map_of_mem hmem, ?_⟩
  rw [(books_team operators hnode hcrew).2.2]
  simp only [Crew.ended, List.any_eq_false, decide_eq_true_eq]
  rintro other hother ⟨heq, hended⟩
  rw [hinj hother hmem heq, hleft] at hended
  cases hended

/-- A source was asked for a tuple. -/
lemma books_draw (hnodup : (operators.map Operator.id).Nodup)
    (hoperator : operators[k]? = some node.operator) (hnode : t.nodes[k]? = some node) {s s' : σ}
    {started : Bool} (hcrew : node.crew = .source s started) {given : Option Tuple}
    {failure : Option Error} :
    (measure { t.changeNode k fun node => { node with crew := .source s' started } with
        newestCalls := ⟨k, none, .next, failure⟩ :: t.newestCalls }
      (.call node.operator.id node.operator.kind.tag 0 (if given.isSome then 1 else 0)
        (.zero false))).books operators = (t.books operators).draw k s' given.isSome := by
  refine (books_measure hnodup hoperator ..).trans ?_
  have hcalled := books_call operators
    (t.changeNode k fun node => { node with crew := .source s' started })
    ⟨k, none, .next, failure⟩
  rw [books_changeNode hnode] at hcalled
  obtain ⟨-, hwaiting, hended⟩ := books_source operators hnode hcrew
  refine (congrArg (fun b : Books σ => { b with
    taken := raise b.taken k 0
    given := raise b.given k (if given.isSome then 1 else 0) }) hcalled).trans ?_
  ext1
  case waiting => exact (congrArg _ hwaiting).symm.trans (Function.update_eq_self ..)
  case ended => exact (congrArg _ hended).symm.trans (Function.update_eq_self ..)
  case taken => exact raise_zero
  case given => cases given <;> rfl
  case works => exact raise_zero
  all_goals rfl

lemma books_pop (hnode : t.nodes[k]? = some node) (hcrew : node.crew = .team team) {x : Tuple}
    {rest : List Tuple} (hpending : team.pending = x :: rest) :
    (t.changeTeam k fun team => { team with pending := rest }).books operators =
      (t.books operators).pop k := by
  obtain ⟨-, hwaiting, hended⟩ := books_team operators hnode hcrew
  rw [hpending, List.length_cons] at hwaiting
  rw [books_changeTeam hnode hcrew, Books.pop, hwaiting, Nat.add_sub_cancel]
  ext1
  case ended => exact (congrArg _ hended).symm.trans (Function.update_eq_self ..)
  all_goals rfl

/-- What a worker gave out waits, and is measured along with what it took in. -/
lemma books_collect {operator : Operator} (hnodup : (operators.map Operator.id).Nodup)
    (hoperator : operators[k]? = some operator) (hnode : t.nodes[k]? = some node)
    (hcrew : node.crew = .team team) (given : List Tuple) (rowsIn : Nat) (seconds : Binary64) :
    ((t.changeTeam k fun team => { team with pending := team.pending ++ given }).measure
        (.call operator.id operator.kind.tag rowsIn given.length seconds)).books operators =
      { t.books operators with
        waiting := raise (t.books operators).waiting k given.length
        taken := raise (t.books operators).taken k rowsIn
        given := raise (t.books operators).given k given.length } := by
  obtain ⟨-, hwaiting, hended⟩ := books_team operators hnode hcrew
  rw [books_measure hnodup hoperator, books_changeTeam hnode hcrew]
  ext1
  case waiting =>
    funext j
    by_cases hj : j = k
    · subst hj
      simp [hwaiting]
    · simp [raise, hj]
  case ended => exact (congrArg _ hended).symm.trans (Function.update_eq_self ..)
  all_goals rfl

lemma books_exhaust (ht : t.Tied F operators) (hnode : t.nodes[k]? = some node)
    (hcrew : node.crew = .team team) {i : Nat} {x : Supply} (hx : (F.suppliesOf k)[i]? = some x) :
    (t.changeTeam k fun team => { team with
      slots := team.slots.modify i fun slot => { slot with exhausted := true } }).books operators =
      (t.books operators).exhaust k x := by
  rw [ht.suppliesOf_team hnode hcrew, List.getElem?_map, Option.map_eq_some_iff] at hx
  obtain ⟨slot, hslot, rfl⟩ := hx
  obtain ⟨-, hwaiting, hended⟩ := books_team operators hnode hcrew
  rw [books_changeTeam hnode hcrew, ← hwaiting, Function.update_eq_self, Crew.ended_modify hslot,
    ← hended]
  rfl

lemma gives_team?_bind {α : Type} (ht : t.Tied F operators) (hk : k < F.supplies.length)
    (hteam : (t.books operators).source k = none) {f : Option (Team ω) → Drive σ ω α}
    {want : α → Tree σ ω → Prop}
    (h : ∀ node team, t.nodes[k]? = some node → node.crew = .team team →
      team.workers.length = F.staff k → team.nextWorker < team.workers.length →
        (f (some team)).Gives t want) : (team? k >>= f).Gives t want := by
  obtain ⟨node, team, hnode, hcrew, hstaff, hturn⟩ := ht.exists_team hk hteam
  refine after_team?_bind (fun hnone => (hnone node team hnode hcrew).elim) ?_
  intro node' team' hnode' hcrew'
  obtain rfl : node = node' := Option.some.inj (hnode.symm.trans hnode')
  obtain rfl : team = team' := Crew.team.inj (hcrew.symm.trans hcrew')
  exact h node team hnode hcrew hstaff hturn

section Work

variable [Worker ω]

lemma gives_process (operators : List Operator) (hnode : t.nodes[k]? = some node)
    (hcrew : node.crew = .team team) {i : Nat} {w : ω} {time : Nat} {input : Input} :
    (callWorker k i w (.process input) (Worker.process time input) :
      Drive σ ω (List Tuple)).Gives t fun _ t' =>
        t'.books operators = { t.books operators with
          works := raise (t.books operators).works k 1 } ∧
        ∃ node' team', t'.nodes[k]? = some node' ∧ node'.crew = .team team' ∧
          team'.pending = team.pending ∧ team'.slots = team.slots := by
  refine after_callWorker.mpr fun given _ => ⟨?_, _, _, getElem?_changeTeam hnode hcrew, rfl, rfl,
    rfl⟩
  refine (books_call operators (t.changeTeam k _) _).trans ?_
  rw [books_changeTeam_of_eq _ hnode hcrew rfl rfl]
  simp [Event.isProcess]

/-- A worker takes something in, in one call. -/
lemma gives_deliver (hnodup : (operators.map Operator.id).Nodup) (ht : t.Tied F operators)
    (hnode : t.nodes[k]? = some node) (hcrew : node.crew = .team team) {i : Nat}
    (hi : i < team.workers.length) (input : Input) :
    (deliver k i input : Drive σ ω Unit).Gives t fun _ t' => ∃ out,
      t'.books operators = (t.books operators).work k input.isTuple.toNat 1 out := by
  refine after_handed (fun hnone => ?_) fun node' team' w hnode' hcrew' _ => ?_
  · cases (hnone node team hnode hcrew).symm.trans (List.getElem?_eq_getElem hi)
  have hcalled : (callWorker k i w (.process input) (Worker.process (t.clock t.readings) input) :
      Drive σ ω (List Tuple)).Gives { t with readings := t.readings + 1 } _ :=
    gives_process operators (t := { t with readings := t.readings + 1 }) hnode' hcrew'
  refine After.mono hcalled fun result t' hgiven => ?_
  cases result with
  | error e => exact nofun
  | ok given =>
    rintro _ -
    obtain ⟨hbooks, _, _, hnode'', hcrew'', -⟩ := hgiven given rfl
    refine ⟨given.length, ?_⟩
    rw [books_collect hnodup (ht.operator_eq hnode') hnode'' hcrew'', hbooks]
    cases input <;> rfl

variable [Source σ]

lemma gives_deal (hnodup : (operators.map Operator.id).Nodup) (ht : t.Tied F operators)
    (hk : k < F.supplies.length) (hteam : (t.books operators).source k = none) (x : Tuple)
    (link : Link) : (deal k x link : Drive σ ω Unit).Gives t fun _ t' => ∃ out,
      t'.books operators = (t.books operators).work k 1 1 out := by
  refine gives_team?_bind ht hk hteam fun node team hnode hcrew _ hturn => ?_
  refine gives_bind.mpr (gives_modify.mpr ?_)
  let turn (old : Team ω) : Team ω :=
    { old with nextWorker := (old.nextWorker + 1) % old.workers.length }
  have hsame := books_changeTeam_of_eq operators (f := turn) hnode hcrew rfl rfl
  have hdeliver := gives_deliver hnodup (nextKeeps_tied.deal ht)
    (getElem?_changeTeam (f := turn) hnode hcrew) rfl hturn (.tuple x link)
  rwa [hsame] at hdeliver

/-- Workers are told one after another that an input has ended. -/
lemma gives_tell (hnodup : (operators.map Operator.id).Nodup) (hk : k < F.supplies.length)
    (link : Link) {ws : List Nat} (hws : ∀ i ∈ ws, i < F.staff k) {t : Tree σ ω}
    (ht : t.Tied F operators) (hteam : (t.books operators).source k = none) :
    (ws.forM fun i => deliver k i (.exhausted link) : Drive σ ω Unit).Gives t fun _ t' =>
      ∃ out, t'.books operators = (t.books operators).work k 0 ws.length out := by
  induction ws generalizing t with
  | nil => exact gives_pure.mpr ⟨0, (t.books operators).work_zero.symm⟩
  | cons i ws ih =>
    obtain ⟨hi, hws⟩ := List.forall_mem_cons.mp hws
    obtain ⟨node, team, hnode, hcrew, hstaff, -⟩ := ht.exists_team hk hteam
    refine gives_bind.mpr (((gives_deliver hnodup ht hnode hcrew (hstaff ▸ hi) _).and_keeps
      (nextKeeps_tied.work trivial i _) ht).mono ?_)
    rintro _ t₁ ⟨⟨out, hbooks⟩, ht₁⟩
    refine (ih hws ht₁ (by rwa [hbooks])).mono ?_
    rintro _ t' ⟨out', hbooks'⟩
    refine ⟨out + out', ?_⟩
    rw [hbooks', hbooks, Books.work_work, List.length_cons, add_comm ws.length]
    rfl

lemma gives_exhaust (hnodup : (operators.map Operator.id).Nodup) (ht : t.Tied F operators)
    (hk : k < F.supplies.length) (hteam : (t.books operators).source k = none) {i : Nat}
    {x : Supply} (hx : (F.suppliesOf k)[i]? = some x) (link : Link) :
    (exhaust k i link : Drive σ ω Unit).Gives t fun _ t' => ∃ out,
      t'.books operators = ((t.books operators).exhaust k x).work k 0 (F.staff k) out := by
  refine gives_team?_bind ht hk hteam fun node team hnode hcrew hstaff _ => ?_
  refine gives_bind.mpr (gives_modify.mpr ?_)
  rw [← books_exhaust ht hnode hcrew hx]
  refine (gives_tell hnodup hk link (fun w hw => hstaff ▸ List.mem_range.mp hw)
    (nextKeeps_tied.exhaust ht) ?_).mono fun _ t' => ?_
  · rw [books_exhaust ht hnode hcrew hx]
    exact hteam
  · rw [List.length_range, hstaff]
    exact id

end Work

/-! ### Endpoints -/

/-- An action that the books see as a pull of a supply, as long as it succeeds. -/
def Enters [Source σ] (F : Form) (operators : List Operator) (x : Supply)
    (a : Drive σ ω (Option Tuple)) : Prop :=
  ∀ t, t.Tied F operators → a.Gives t fun given t' =>
    Books.Pulled F x (t.books operators) given.isSome (t'.books operators)

section Endpoints

variable {c : ConnectorId} {i : Nat} {con : Connector} {junction : Junction}

lemma read_write_eq (hc : t.junctions[c]? = some junction) (d : ConnectorId) :
    (seat d).read ((seat c).write con t) = if d = c then con else (seat d).read t := by
  split_ifs with hd
  · rw [hd, read_write hc]
  · simp [seat, List.getElem?_modify_ne _ _ (Ne.symm hd)]

/-- What is told of connectors stays as it is if it is told of the new one as well. -/
lemma tell_write {β : Type} (tell : Connector → β) (hc : t.junctions[c]? = some junction)
    (con : Connector) (h : tell con = tell ((seat c).read t)) (d : ConnectorId) :
    tell ((seat d).read ((seat c).write con t)) = tell ((seat d).read t) := by
  rw [read_write_eq hc]
  split_ifs with hd
  · exact hd ▸ h
  · rfl

lemma position_advance (hi : i < con.endpoints.length) (j : Nat) :
    ((con.advance i).endpoint j).position =
      (con.endpoint j).position + if j = i then 1 else 0 := by
  simp only [Connector.advance, Connector.endpoint, Connector.evict, Connector.change,
    List.getElem?_modify]
  by_cases hj : j = i
  · subst hj
    simp [hi]
  · simp [hj, Ne.symm hj]

lemma books_read (hc : t.junctions[c]? = some junction)
    (hi : i < junction.connector.endpoints.length) :
    ((seat c).write (((seat c).read t).advance i) t).books operators =
      (t.books operators).read (.endpoint c i) := by
  have hread : (seat c).read t = junction.connector := by simp [seat, hc]
  ext1
  case reach => exact funext (tell_write Connector.reach hc _ (Connector.reach_evict _))
  case dry => exact funext (tell_write Connector.ended hc _ rfl)
  case position =>
    funext x
    cases x with
    | node q => rfl
    | endpoint d j =>
      simp only [books, read_write_eq hc, Books.read, raise_apply, Supply.endpoint.injEq]
      by_cases hd : d = c
      · subst hd
        rw [if_pos rfl, hread, position_advance hi]
        simp
      · simp [hd]
  all_goals rfl

lemma books_push (hc : t.junctions[c]? = some junction) (x : Tuple) :
    ((seat c).write (((seat c).read t).push x) t).books operators =
      (t.books operators).push c := by
  ext1
  case reach =>
    funext d
    simp only [books, read_write_eq hc, Books.push, raise_apply]
    split_ifs with hd
    · rw [hd, Connector.reach_push]
    · rfl
  case dry => exact funext (tell_write Connector.ended hc _ rfl)
  case position =>
    funext y
    cases y with
    | node q => rfl
    | endpoint d j =>
      exact tell_write (fun con => (con.endpoint j).position) hc (((seat c).read t).push x) rfl d
  all_goals rfl

/-- The producer of a connector has come to the end. -/
lemma books_finish (hc : t.junctions[c]? = some junction) :
    ((seat c).write ((seat c).read t).finish t).books operators =
      (t.books operators).finish c := by
  ext1
  case reach => exact funext (tell_write Connector.reach hc _ rfl)
  case dry =>
    funext d
    simp only [books, read_write_eq hc, Books.finish, Function.update_apply]
    split_ifs <;> rfl
  case position =>
    funext y
    cases y with
    | node q => rfl
    | endpoint d j =>
      exact tell_write (fun con => (con.endpoint j).position) hc ((seat c).read t).finish rfl d
  all_goals rfl

lemma gives_read (ht : t.Tied F operators) (hhas : F.Has (.endpoint c i)) :
    ((seat c).deliver i : Drive σ ω (Option Tuple)).Gives t fun given t' =>
      given.isSome = true ∧ t'.books operators = (t.books operators).read (.endpoint c i) := by
  obtain ⟨junction, hc, -, hi⟩ := ht.exists_junction hhas
  rw [Seat.deliver, gives_bind, gives_get, gives_bind, gives_lift]
  rintro ⟨x, con⟩ hread
  obtain ⟨-, rfl⟩ := Connector.read_eq_ok hread
  refine gives_bind.mpr (gives_modify.mpr (gives_pure.mpr ⟨rfl, ?_⟩))
  exact (books_buffered ..).trans (books_read hc hi)

variable [Source σ]

/-- An endpoint is pulled as its connector is read, or as its producer is pulled. -/
lemma enters_pull (hhas : F.Has (.endpoint c i)) {next : Drive σ ω (Option Tuple)}
    (hties : Ties F operators next)
    (hnext : Enters F operators (.node (F.producerOf c)) next) :
    Enters F operators (.endpoint c i) ((seat c).pull next i) := by
  intro t ht
  rw [Seat.pull, gives_bind, gives_get, gives_bind, gives_lift]
  intro _ _
  split_ifs with hahead hended
  · refine (gives_read ht hhas).mono ?_
    rintro given t' ⟨hsome, hbooks⟩
    rw [hsome, hbooks]
    exact .read hahead
  · rw [gives_pure]
    exact .dry (Nat.not_lt.mp hahead) hended
  · refine gives_bind.mpr (((hnext t ht).and_keeps hties ht).mono ?_)
    rintro given t₁ ⟨hpulled, ht₁⟩
    obtain ⟨junction, hc, -⟩ := ht₁.exists_junction hhas
    have hopen : (t.books operators).dry c = false := Bool.eq_false_iff.mpr hended
    cases given with
    | some x =>
      refine gives_bind.mpr (gives_modify.mpr ?_)
      have hpushed : ((seat c).write (((seat c).read t₁).push x) t₁).Tied F operators :=
        ht₁.write rfl
      refine (gives_read hpushed hhas).mono ?_
      rintro given t' ⟨hsome, hbooks⟩
      rw [hsome, hbooks, books_push hc]
      exact .fetch (Nat.not_lt.mp hahead) hopen hpulled
    | none =>
      refine gives_bind.mpr (gives_modify.mpr (gives_pure.mpr ?_))
      rw [books_finish hc]
      exact .finish (Nat.not_lt.mp hahead) hopen hpulled

lemma enters_onSupply {next : Nat → Drive σ ω (Option Tuple)} (hsound : F.Sound)
    (hties : ∀ q, Ties F operators (next q))
    (hnext : ∀ q, q < F.supplies.length → Enters F operators (.node q) (next q)) :
    ∀ x, F.Has x → Enters F operators x (onSupply next Seat.pull x)
  | .node q, hhas => hnext q hhas
  | .endpoint c i, hhas => by
    intro t ht
    obtain ⟨n, hjoint, -⟩ := hhas.exists_joint
    obtain ⟨junction, hc, hproducer, -⟩ := ht.exists_junction hhas
    refine gives_bind.mpr (gives_get.mpr ?_)
    rw [hc, Option.map_some, Option.getD_some, hproducer]
    exact enters_pull hhas (hties _) (hnext _ (hsound.has_of_hangs (.producer hjoint))) t ht

end Endpoints

/-! ### Pulling -/

section Pulling

variable [Source σ] [Worker ω] {next : Nat → Drive σ ω (Option Tuple)}

/-- An input of a team is pulled, and the team takes in what it gives. -/
lemma gives_feed (hnodup : (operators.map Operator.id).Nodup) (hsound : F.Sound)
    (hties : ∀ q, Ties F operators (next q))
    (hnext : ∀ q, q < F.supplies.length → Enters F operators (.node q) (next q))
    (ht : t.Tied F operators) (hnode : t.nodes[k]? = some node) (hcrew : node.crew = .team team)
    {i : Nat} {slot : Slot} (hslot : team.slots[i]? = some slot) :
    (feed next k i slot).Gives t fun _ t' => ∃ b₁ gave out,
      Books.Pulled F slot.supply (t.books operators) gave b₁ ∧
        t'.books operators = b₁.take (F.staff k) k slot.supply out gave := by
  have hx : (F.suppliesOf k)[i]? = some slot.supply := by
    rw [ht.suppliesOf_team hnode hcrew, List.getElem?_map, hslot, Option.map_some]
  have hmem := List.mem_of_getElem? hx
  have hk : k < F.supplies.length := Wiring.lt_of_mem_suppliesOf hmem
  have hteam := (books_team operators hnode hcrew).1
  let turn (old : Team ω) : Team ω :=
    { old with nextSlot := (i + 1) % old.slots.length }
  have hturned : (t.changeTeam k turn).Tied F operators := nextKeeps_tied.turn ht
  have hpull := (enters_onSupply hsound hties hnext slot.supply
    (hsound.has_of_hangs (.slot hmem)) _ hturned).and_keeps
      (nextKeeps_tied.onSupply hties _) hturned
  rw [books_changeTeam_of_eq operators hnode hcrew rfl rfl] at hpull
  refine gives_bind.mpr (gives_modify.mpr (gives_bind.mpr (hpull.mono ?_)))
  rintro given t₁ ⟨hpulled, ht₁⟩
  have hteam₁ := (hpulled.source_eq_none_iff k).mpr hteam
  cases given with
  | some x =>
    refine (gives_deal hnodup ht₁ hk hteam₁ x slot.link).mono ?_
    rintro _ t' ⟨out, hbooks⟩
    exact ⟨_, true, out, hpulled, hbooks⟩
  | none =>
    refine (gives_exhaust hnodup ht₁ hk hteam₁ hx slot.link).mono ?_
    rintro _ t' ⟨out, hbooks⟩
    exact ⟨_, false, out, hpulled, hbooks⟩

/-- A node is pulled as its source is asked, or as its team is fed. -/
lemma enters_nextAt (hnodup : (operators.map Operator.id).Nodup) (hsound : F.Sound)
    (hties : ∀ q, Ties F operators (next q))
    (hnext : ∀ q, q < F.supplies.length → Enters F operators (.node q) (next q))
    (hk : k < F.supplies.length) : Enters F operators (.node k) (nextAt next k) := by
  intro t ht
  obtain ⟨node, hnode⟩ := ht.exists_node hk
  rw [nextAt, gives_bind, gives_get, hnode]
  rw [gives_bind, gives_lift]
  intro _ _
  cases hcrew : node.crew with
  | source s started =>
    refine gives_bind.mpr (after_callSource.mpr fun given hgiven => ?_)
    refine gives_bind.mpr (gives_modify.mpr (gives_pure.mpr ?_))
    rw [books_draw hnodup (ht.operator_eq hnode) hnode hcrew]
    exact .draw (books_source operators hnode hcrew).1 (Prod.ext hgiven rfl)
  | team team =>
    obtain ⟨hteam, hwaiting, hended⟩ := books_team operators hnode hcrew
    have hsupplies := ht.suppliesOf_team hnode hcrew
    cases hpending : team.pending with
    | cons x rest =>
      simp only [hpending]
      refine gives_bind.mpr (gives_modify.mpr (gives_pure.mpr ?_))
      rw [books_pop hnode hcrew hpending]
      exact .pop hteam (by rw [hwaiting, hpending]; exact Nat.succ_pos _)
    | nil =>
      have hnone : (t.books operators).waiting k = 0 := by rw [hwaiting, hpending, List.length_nil]
      simp only [hpending]
      split
      · next hpick =>
        refine gives_pure.mpr (.spent hteam hnone fun x hx => ?_)
        obtain ⟨slot, hslot, rfl⟩ := List.mem_map.mp (hsupplies ▸ hx)
        rw [hended]
        exact List.any_eq_true.mpr
          ⟨slot, hslot, by simp [Team.pick?_eq_none_iff.mp hpick slot hslot]⟩
      · next i slot hpick =>
        obtain ⟨hmem, hopen⟩ := ht.picked hsound hnode hcrew hpick
        refine gives_bind.mpr (((gives_feed hnodup hsound hties hnext ht hnode hcrew
          (Team.pick?_eq_some hpick).1).and_keeps
            (nextKeeps_tied.feed hties trivial _ _) ht).mono ?_)
        rintro _ t₁ ⟨⟨b₁, gave, out, hpulled, hbooks⟩, ht₁⟩
        refine (hnext k hk t₁ ht₁).mono fun given t' hagain => ?_
        rw [hbooks] at hagain
        exact .feed hteam hnone hmem hopen hpulled hagain

/-- Pulling a tree is entered in its books as pulling its books. -/
theorem enters_nextNode (hnodup : (operators.map Operator.id).Nodup) (hsound : F.Sound)
    (depth : Nat) (hk : k < F.supplies.length) :
    Enters F operators (.node k) (nextNode depth k : Drive σ ω (Option Tuple)) := by
  induction depth generalizing k with
  | zero => exact fun _ _ => gives_endless
  | succ depth ih =>
    exact enters_nextAt hnodup hsound (nextKeeps_tied.nextNode depth) (fun q hq => ih hq) hk

lemma enters_next (hnodup : (operators.map Operator.id).Nodup) (hsound : F.Sound) (depth : Nat) :
    Enters F operators (.node F.root) (Tree.next depth : Drive σ ω (Option Tuple)) := by
  intro t ht
  refine gives_bind.mpr (gives_get.mpr ?_)
  rw [ht.root_eq]
  exact enters_nextNode hnodup hsound depth hsound.root_lt t ht

/-- Until it gives none, the sink is pulled once for each tuple of the tree. -/
lemma gives_drain (hnodup : (operators.map Operator.id).Nodup) (hsound : F.Sound) (depth : Nat)
    {rounds : Nat} {given : List Tuple} (ht : t.Tied F operators) :
    (drain depth rounds given : Drive σ ω (List Tuple)).Gives t fun all t' => ∃ n,
      Books.Drained F (.node F.root) (t.books operators) n (t'.books operators) ∧
        all.length = given.length + n := by
  induction rounds generalizing t given with
  | zero => exact gives_endless
  | succ rounds ih =>
    refine gives_bind.mpr (((enters_next hnodup hsound depth t ht).and_keeps
      (nextKeeps_tied.next depth) ht).mono ?_)
    rintro next t₁ ⟨hpulled, ht₁⟩
    cases next with
    | some x =>
      refine (ih ht₁).mono ?_
      rintro all t' ⟨n, hdrained, hlength⟩
      refine ⟨n + 1, .more hpulled hdrained, ?_⟩
      rw [hlength, List.length_cons]
      omega
    | none => exact gives_pure.mpr ⟨0, .last hpulled, List.length_reverse⟩

end Pulling

end Tree

end Dataflow
