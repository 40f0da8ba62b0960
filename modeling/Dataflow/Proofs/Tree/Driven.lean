import Dataflow.Proofs.Tree.Cleanup

/-!
# Who is driven

Whatever is done to a tree, and whichever executors fail: an executor that was asked to close is
asked nothing afterwards, and one that was not opened is asked to work only at a node where, or
upstream of which, an executor failed to open. Such a failure does leave nodes behind that count as
open, and these are pulled on.
-/

namespace Dataflow

/-- A call of an executor to work. -/
def Call.isWork (c : Call) : Bool :=
  c.event ≠ .start ∧ c.event ≠ .stop

/-- After some calls an executor is in service: it was opened, and it was not asked to close. -/
def InService (calls : List Call) (x : Nat × Option Nat) : Prop :=
  (∃ d ∈ calls, d.isOpen x) ∧ ∀ d ∈ calls, ¬d.isStop x

/-- A call to work that may come after some calls: the executor was not asked to close, and it was
opened unless the opening failed upstream of it. -/
structure InOrder (w : Wiring) (calls : List Call) (c : Call) : Prop where
  not_stopped : ∀ d ∈ calls, ¬d.isStop c.executor
  opened : (∃ d ∈ calls, d.isOpen c.executor) ∨ Hindered w calls c.node

/-- Of some calls, the newest first, all those to work came in order. -/
def Disciplined (w : Wiring) : List Call → Prop
  | [] => True
  | c :: calls => (c.isWork → InOrder w calls c) ∧ Disciplined w calls

namespace Disciplined

variable {w : Wiring} {calls new before after : List Call} {c : Call}

lemma append_idle (h : Disciplined w calls) (hnew : ∀ c ∈ new, ¬c.isWork) :
    Disciplined w (new ++ calls) := by
  induction new with
  | nil => exact h
  | cons c new ih =>
    obtain ⟨hc, hrest⟩ := List.forall_mem_cons.mp hnew
    exact ⟨fun hwork => (hc hwork).elim, ih hrest⟩

lemma inOrder (h : Disciplined w (after ++ c :: before)) (hwork : c.isWork) :
    InOrder w before c := by
  induction after with
  | nil => exact h.1 hwork
  | cons _ _ ih => exact ih h.2

end Disciplined

namespace Tree

open Act Ledger

variable {σ ω α β : Type} {t t' : Tree σ ω} {w : Wiring} {l : Ledger} {place : Nat}

/-- All calls to work came in order so far, and they will do so at open nodes. -/
structure Regular (w : Wiring) (t : Tree σ ω) : Prop where
  disciplined : Disciplined w t.newestCalls
  staffed : ∀ k, t.Staffed w k

namespace Regular

lemma of_eq (h : t.Regular w) (hledger : t'.ledger = t.ledger)
    (hcalls : t'.newestCalls = t.newestCalls) : t'.Regular w where
  disciplined := hcalls ▸ h.disciplined
  staffed := fun k => (h.staffed k).imp (hledger ▸ rfl) (hcalls ▸ List.Subset.refl _)

lemma idle {P : Call → Prop} {failure : Option Error} (h : t.Regular w)
    (hexplained : Explained P t failure t') (hidle : ∀ c, P c → ¬c.isWork)
    (hstaffed : ∀ k, t'.Staffed w k) : t'.Regular w := by
  obtain ⟨new, hnew, hP, -⟩ := hexplained.newCalls
  have hcalls : t'.newestCalls = new.reverse ++ t.newestCalls := by
    rw [← List.reverse_inj, List.reverse_append, List.reverse_reverse]
    exact hnew
  refine ⟨hcalls ▸ h.disciplined.append_idle fun c hc => ?_, hstaffed⟩
  exact hidle c (hP c (List.mem_reverse.mp hc))

/-- At an open node the executors may be asked to work. -/
lemma work {c : Call} {e : NodeEntry} (h : t.Regular w) (hledger : t.ledger = l)
    (htracked : l.Tracked c.node) (hentry : l.nodes[c.node]? = some e) (hphase : e.phase = .opened)
    (hstaff : c.worker ∈ e.staff) (hstart : c.event ≠ .start) (hstop : c.event ≠ .stop) :
    { t with newestCalls := c :: t.newestCalls }.ledger = l ∧
      { t with newestCalls := c :: t.newestCalls }.Regular w := by
  have hsame := (ledger_call t hstart hstop).trans hledger
  subst hledger
  refine ⟨hsame, ⟨fun _ => ⟨?_, ?_⟩, h.disciplined⟩, fun k => ?_⟩
  · have hstops : t.newestCalls.countP (Call.isStop c.executor) = 0 := by
      have hcount := (htracked e hentry).stops_eq c.worker
      rwa [hphase, if_neg Phase.noConfusion] at hcount
    simpa using hstops
  · refine (h.staffed c.node e hentry hphase).imp_left fun hopened => ?_
    have hcount : t.newestCalls.countP (Call.isOpen c.executor) = e.opened.count c.worker :=
      (htracked e hentry).opens_eq c.worker
    rw [← List.countP_pos_iff, hcount, List.count_pos_iff]
    exact hopened hstaff
  · exact (h.staffed k).imp (hsame ▸ rfl) (List.subset_cons_self ..)

end Regular

/-- An action on trees with a given ledger that asks executors to work in order. -/
abbrev Drives (w : Wiring) (l : Ledger) (a : Drive σ ω α) : Prop :=
  a.Keeps fun t => t.ledger = l ∧ t.Regular w

lemma regular_of_same (h : t.ledger = l ∧ t.Regular w) (hledger : t'.ledger = l)
    (hcalls : t'.newestCalls = t.newestCalls) : t'.ledger = l ∧ t'.Regular w :=
  ⟨hledger, h.2.of_eq (hledger.trans h.1.symm) hcalls⟩

variable [Source σ] [Worker ω]

/-- Everything that pulling does asks executors to work in order. -/
lemma nextKeeps_regular (htracked : ∀ k, l.Tracked k) :
    NextKeeps (fun k => ∃ e, l.nodes[k]? = some e ∧ e.phase = .opened)
      fun t : Tree σ ω => t.ledger = l ∧ t.Regular w where
  opened ht hnode hphase := ⟨_, ht.1 ▸ ledger_getElem? hnode, hphase⟩
  read ht hread :=
    after_modify.mpr (regular_of_same ht ((nextKeeps_ledger l).read ht.1 hread) rfl)
  push ht := regular_of_same ht ((nextKeeps_ledger l).push ht.1) rfl
  finish ht := regular_of_same ht ((nextKeeps_ledger l).finish ht.1) rfl
  source := by
    rintro t k node s started ⟨rfl, hregular⟩ hnode hphase hcrew
    have hsame : (t.changeNode k fun node =>
        { node with crew := .source (Source.next s).2 started }).ledger = t.ledger :=
      ledger_callSource hnode hcrew
    exact after_callSource.mpr ((hregular.of_eq hsame rfl).work
      (c := ⟨k, none, .next, Result.error? (Source.next s).1⟩) hsame (htracked k)
      (ledger_getElem? hnode) hphase (by simp [Node.entry, hcrew, Crew.staff]) Event.noConfusion
      Event.noConfusion)
  measure ht := regular_of_same ht ht.1 rfl
  turn ht := regular_of_same ht ((nextKeeps_ledger l).turn ht.1) rfl
  pop ht hnode hcrew hpending :=
    regular_of_same ht ((nextKeeps_ledger l).pop ht.1 hnode hcrew hpending) rfl
  deal ht := regular_of_same ht ((nextKeeps_ledger l).deal ht.1) rfl
  exhaust ht := regular_of_same ht ((nextKeeps_ledger l).exhaust ht.1) rfl
  tick ht := regular_of_same ht ht.1 rfl
  process := by
    rintro t k node team i v input time ⟨e, hentry, hphase⟩ ⟨rfl, hregular⟩ hnode hcrew hv
    have hmem : some i ∈ e.staff := by
      rw [ledger_getElem? hnode, Option.some.injEq] at hentry
      subst hentry
      simpa [Node.entry, hcrew, Crew.staff] using (List.getElem?_eq_some_iff.mp hv).1
    have hsame : (t.changeTeam k fun team =>
        { team with workers := team.workers.set i (Worker.process time input v).2 }).ledger =
          t.ledger :=
      ledger_changeTeam_of_entry_eq fun _ => ⟨rfl, List.length_set, rfl⟩
    exact after_callWorker.mpr ((hregular.of_eq hsame rfl).work (c := ⟨k, some i, .process input,
      Result.error? (Worker.process time input v).1⟩) hsame (htracked k) hentry hphase hmem
        Event.noConfusion Event.noConfusion)
  collect ht := regular_of_same ht ((nextKeeps_ledger l).collect ht.1) rfl

/-- Pulling a node asks only executors of open nodes to work. -/
theorem drives_nextNode (htracked : ∀ k, l.Tracked k) (depth place : Nat) :
    Drives w l (nextNode depth place : Drive σ ω (Option Tuple)) :=
  (nextKeeps_regular htracked).nextNode depth place

omit [Source σ] [Worker ω] in
lemma staffed_of_done (horderly : t.ledger.Orderly)
    (hroot : t.ledger.Done (.supply (.node t.root))) (k : Nat) : t.Staffed w k := by
  intro e he hphase
  have hhas : t.ledger.wiring.Has (.node k) := by
    rw [Wiring.Has, length_nodes]
    exact (List.getElem?_eq_some_iff.mp he).1
  have hclosed := horderly.done hroot hhas
  rw [Done, phase?, he, Option.map_some, hphase] at hclosed
  cases hclosed

/-- How far a tree has come as a whole: nothing was opened yet, the sink is open and nothing was
closed yet, or the sink is closed. -/
inductive Stage (l : Ledger) : Prop
  | asleep (h : ∀ a, ¬l.Reached a)
  | awake (hroot : l.phase? (.node l.root) = some .opened) (h : ∀ a, ¬l.Done a)
  | ended (hroot : l.Done (.supply (.node l.root)))

/-- What holds of a tree whatever was done to it. -/
structure Steady (w : Wiring) (t : Tree σ ω) : Prop where
  wiring_eq : t.ledger.wiring = w
  orderly : t.ledger.Orderly
  regular : t.Regular w
  stage : Stage t.ledger

lemma startNode_refused {phase : Phase} (depth : Nat)
    (h : t.ledger.phase? (.node place) = some phase) (hphase : phase ≠ .unopened) :
    (startNode depth place : Drive σ ω Unit).After True t fun _ t' => t' = t := by
  match depth with
  | 0 => exact after_endless.mpr trivial
  | depth + 1 =>
    refine after_get_bind.mpr ?_
    match hnode : t.nodes[place]? with
    | none => exact after_pure.mpr rfl
    | some node =>
      rw [phase?_node hnode, Option.some.injEq] at h
      refine after_lift_bind.mpr ⟨fun _ _ => rfl, fun _ hstart => ?_⟩
      exact (hphase (h ▸ (Phase.start_eq_ok_iff.mp hstart).1)).elim

lemma stopNode_refused (depth : Nat) (h : t.ledger.Done (.supply (.node place))) :
    (stopNode depth place : Drive σ ω Unit).After True t fun _ t' => t' = t := by
  match depth with
  | 0 => exact after_endless.mpr trivial
  | depth + 1 =>
    refine after_get_bind.mpr ?_
    match hnode : t.nodes[place]? with
    | none => exact after_pure.mpr rfl
    | some node =>
      rw [Done, phase?_node hnode, Option.some.injEq] at h
      refine after_lift_bind.mpr ⟨fun _ _ => rfl, fun _ hstop => ?_⟩
      exact ((Phase.stop_eq_ok_iff.mp hstop).1 h).elim

namespace Steady

/-- A tree is opened at most once. -/
lemma start (h : t.Steady w) (depth : Nat) :
    (start depth : Drive σ ω Unit).After True t fun _ t' => t'.Steady w := by
  have horder : (Tree.start depth : Drive σ ω Unit).After True t fun _ t' =>
      Advances t.ledger t'.ledger :=
    (advances_start h.orderly).imp (fun _ => trivial) fun _ _ => id
  suffices hrest : (Tree.start depth : Drive σ ω Unit).After True t fun _ t' =>
      t'.Regular w ∧ Stage t'.ledger from (horder.and hrest).mono fun _ _ ⟨h', hregular, hstage⟩ =>
    ⟨h'.wiring_eq.trans h.wiring_eq, h'.orderly, hregular, hstage⟩
  refine after_get_bind.mpr ?_
  have hsame {phase : Phase} (hroot : t.ledger.phase? (.node t.root) = some phase)
      (hphase : phase ≠ .unopened) := (startNode_refused (σ := σ) (ω := ω) depth hroot hphase).mono
    fun _ _ heq => heq ▸ And.intro h.regular h.stage
  cases h.stage with
  | awake hroot _ => exact hsame hroot Phase.noConfusion
  | ended hroot => exact hsame hroot Phase.noConfusion
  | asleep hreached =>
    have hready : Ready Reached (.node t.root) t.ledger := ready_root h.orderly.sound hreached
    refine ((startedAt_startNode depth h.wiring_eq hready).and
      (after_startNode h.orderly.sound hready.has)).mono ?_
    rintro result t' ⟨⟨hstarted, hphase⟩, hkeeps, hopens⟩
    have hroot : t'.ledger.root = t.root := congrArg Wiring.root hkeeps.wiring_eq
    refine ⟨h.regular.idle hstarted.explained (fun c hc => ?_) fun k => hstarted.staffed k
      (h.regular.staffed k), .awake (hroot ▸ hphase) fun a hdone => ?_⟩
    · simp [Call.isWork, hc.1]
    · exact not_done_of_not_reached h.orderly.sound hreached a ((hopens.done_iff a).mp hdone)

lemma next (h : t.Steady w) (depth : Nat) :
    (next depth : Drive σ ω (Option Tuple)).After True t fun _ t' => t'.Steady w := by
  refine after_get_bind.mpr
    ((drives_nextNode h.orderly.tracked depth t.root t ⟨rfl, h.regular⟩).mono ?_)
  rintro _ t' ⟨hledger, hregular⟩
  exact ⟨hledger ▸ h.wiring_eq, hledger ▸ h.orderly, hregular, hledger ▸ h.stage⟩

lemma stop (h : t.Steady w) (depth : Nat) :
    (stop depth : Drive σ ω Unit).After True t fun _ t' => t'.Steady w := by
  have horder : (Tree.stop depth : Drive σ ω Unit).After True t fun _ t' =>
      Advances t.ledger t'.ledger ∧ t'.ledger.Done (.supply (.node t'.root)) :=
    (advances_stop h.orderly).imp (fun _ => trivial) fun _ _ => id
  suffices hrest : (Tree.stop depth : Drive σ ω Unit).After True t fun _ t' =>
      (∀ k, t'.Staffed w k) → t'.Regular w from
    (horder.and hrest).mono fun _ _ ⟨⟨h', hdone⟩, hregular⟩ => ⟨h'.wiring_eq.trans h.wiring_eq,
      h'.orderly, hregular (staffed_of_done h'.orderly hdone), .ended hdone⟩
  refine after_get_bind.mpr ?_
  have hstop (hdone : ∀ a, ¬t.ledger.Done a) :
      (stopNode depth t.root : Drive σ ω Unit).After True t fun _ t' =>
        (∀ k, t'.Staffed w k) → t'.Regular w :=
    (stopped_stopNode depth (ready_root h.orderly.sound hdone)).mono fun _ _ hstopped =>
      h.regular.idle hstopped fun c hc => by simp [Call.isWork, hc.1]
  cases h.stage with
  | asleep hreached => exact hstop (not_done_of_not_reached h.orderly.sound hreached)
  | awake _ hdone => exact hstop hdone
  | ended hroot => exact (stopNode_refused depth hroot).mono fun _ _ heq _ => heq ▸ h.regular

lemma runs {ops : List Operation} (h : t.Steady w) (hrun : t.Runs ops t') : t'.Steady w := by
  induction hrun with
  | nil t => exact h
  | @cons t t₁ t₂ depth op ops result hop hrest ih =>
    refine ih ?_
    match op with
    | .start => exact (h.start depth).of_outcome hop
    | .stop => exact (h.stop depth).of_outcome hop
    | .next =>
      rw [operate, outcome_map, Option.map_eq_some_iff] at hop
      obtain ⟨⟨given, t'⟩, hnext, heq⟩ := hop
      cases heq
      exact (h.next depth).of_outcome hnext

end Steady

omit [Source σ] [Worker ω] in
lemma Fresh.steady (h : t.Fresh) : t.Steady t.ledger.wiring where
  wiring_eq := rfl
  orderly := h.orderly
  regular := by
    refine ⟨h.calls_eq ▸ trivial, fun k e he hphase => ?_⟩
    have hopened : t.ledger.phase? (.node k) = some .opened := by rw [phase?, he, ← hphase]; rfl
    cases h.phase?_eq hopened
  stage := .asleep h.not_reached

end Tree

/-- For every tree that is built from a plan, with any executors, and whatever is done to it: an
executor is asked to work only before it was asked to close, and only after it was opened, unless
an executor at its node or upstream of it failed to open before. -/
theorem PhysicalPlan.works_once_opened_unless_hindered {σ ω : Type} [Source σ] [Worker ω]
    {plan : PhysicalPlan} {registry : Registry σ ω} {context : Context} {clock : Nat → Nat}
    {t t' : Tree σ ω} {ops : List Operation}
    (hbuilt : plan.tree? registry context clock = some (.ok t)) (hrun : t.Runs ops t')
    {before after : List Call} {c : Call} (hcalls : t'.calls = before ++ c :: after)
    (hwork : c.isWork) :
    (∀ d ∈ before, ¬d.isStop c.executor) ∧
      ((∃ d ∈ before, d.isOpen c.executor) ∨ Hindered t.ledger.wiring before c.node) := by
  have hsteady := (fresh_of_tree? hbuilt).steady.runs hrun
  have hnewest : t'.newestCalls = after.reverse ++ c :: before.reverse := by
    rw [Tree.calls, List.reverse_eq_iff] at hcalls
    simpa using hcalls
  obtain ⟨hstopped, hopened⟩ := (hnewest ▸ hsteady.regular.disciplined).inOrder hwork
  simp only [List.mem_reverse] at hstopped hopened
  exact ⟨hstopped, hopened.imp_right fun h => h.mono fun _ => List.mem_reverse.mp⟩

/-- A scan that feeds the sink. -/
def scanned : PhysicalPlan where
  root := .node ⟨"sink", .tupleSink⟩ 1
    [.direct ⟨"scan", "sink"⟩ (.node ⟨"scan", .scanSource "rows"⟩ 1 [])]
  connectors := []

/-- Executors of which the source cannot be opened. -/
def shutSource : Registry ScriptedSource ScriptedWorker :=
  .ofList [("ScanSource", Script.factory (.source { failStart := true })),
    ("TupleSink", Script.factory (.worker {}))]

/-- The tree of the scan with these executors. -/
def scannedTree : Tree ScriptedSource ScriptedWorker :=
  match scanned.tree? shutSource noSpans fun _ => 0 with
  | some (.ok t) => t
  | _ => ⟨[], [], 0, .empty, fun _ => 0, 0, []⟩

/-- The call to open that fails. -/
def failedOpening : Call :=
  ⟨0, none, .start, some (.run (.reported "scan open failed"))⟩

/-- The source is asked for a tuple although it is not in service: all that happened to it before
is that it failed to open. -/
theorem scan_driven_unopened : ∃ t' after,
    scanned.tree? shutSource noSpans (fun _ => 0) = some (.ok scannedTree) ∧
    scannedTree.Runs [.start, .next] t' ∧
    t'.calls = [failedOpening] ++ ⟨0, none, .next, none⟩ :: after ∧
    ¬InService [failedOpening] (0, none) := by
  refine ⟨_, _, rfl, .cons (n := 9) rfl (.cons (n := 9) rfl (.nil _)), rfl, ?_⟩
  simp [InService, Call.isOpen, failedOpening]

/-- It is the failure at its own node that the call to the source comes behind. -/
theorem scan_driven_hindered : ∃ t' after,
    scanned.tree? shutSource noSpans (fun _ => 0) = some (.ok scannedTree) ∧
    scannedTree.Runs [.start, .next] t' ∧
    t'.calls = [failedOpening] ++ ⟨0, none, .next, none⟩ :: after ∧
    (∀ d ∈ [failedOpening], ¬d.isStop (0, none)) ∧
    ((∃ d ∈ [failedOpening], d.isOpen (0, none)) ∨
      Hindered scannedTree.ledger.wiring [failedOpening] 0) := by
  have hbuilt : scanned.tree? shutSource noSpans (fun _ => 0) = some (.ok scannedTree) := rfl
  have hrun : ∃ t' after, scannedTree.Runs [.start, .next] t' ∧
      t'.calls = [failedOpening] ++ ⟨0, none, .next, none⟩ :: after :=
    ⟨_, _, .cons (n := 9) rfl (.cons (n := 9) rfl (.nil _)), rfl⟩
  obtain ⟨t', after, hrun, hcalls⟩ := hrun
  exact ⟨t', after, hbuilt, hrun, hcalls,
    PhysicalPlan.works_once_opened_unless_hindered hbuilt hrun hcalls rfl⟩

end Dataflow
