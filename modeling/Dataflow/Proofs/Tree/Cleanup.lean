import Dataflow.Proofs.Tree.Account
import Dataflow.Proofs.Tree.Failure
import Dataflow.Executor.Scripted

/-!
# What was opened is closed

Whatever is done to a tree, and whichever executors fail: each executor is opened at most once, and
once the tree was closed, the executors that were opened were closed once each, and no others.
-/

namespace Dataflow

/-- What can be done to a whole tree. -/
inductive Operation where
  | start
  | next
  | stop
  deriving DecidableEq

/-- Each executor was asked to open at most once, and those that were opened were asked to close
exactly once, and no others. -/
structure Settled (calls : List Call) : Prop where
  start_le : ∀ x, calls.countP (Call.isStart x) ≤ 1
  stop_eq : ∀ x, calls.countP (Call.isStop x) = if ∃ c ∈ calls, c.isOpen x then 1 else 0

namespace Ledger

variable {l l' : Ledger}

/-- Whatever was done to a tree so far, its ledger is in order. -/
structure Orderly (l : Ledger) : Prop where
  sound : l.wiring.Sound
  tracked : ∀ k, l.Tracked k
  full : ∀ b, l.Full Done b
  beyond : ∀ k, l.nodes.length ≤ k → ∀ w, l.tally (k, w) = ⟨0, 0, 0⟩

lemma length_nodes (l : Ledger) : l.wiring.supplies.length = l.nodes.length :=
  List.length_map _

/-- The order is kept by what only touches nodes that there are. -/
lemma Orderly.keep {place : Nat} (h : l.Orderly) (hkeeps : l.Keeps (place + 1) l')
    (hhas : l.wiring.Has (.node place)) (hfull : ∀ b, l.Full Done b → l'.Full Done b) :
    l'.Orderly where
  sound := hkeeps.wiring_eq ▸ h.sound
  tracked := fun k => hkeeps.tracked k (h.tracked k)
  full := fun b => hfull b (h.full b)
  beyond := by
    intro k hk w
    have hlength : l'.nodes.length = l.nodes.length := by
      rw [← length_nodes, ← length_nodes, hkeeps.wiring_eq]
    have hplace : place < l.nodes.length := length_nodes l ▸ hhas
    rw [hkeeps.tally_eq k (by omega) w, h.beyond k (hlength ▸ hk) w]

lemma Orderly.done (h : l.Orderly) (hroot : l.Done (.supply (.node l.wiring.root))) {x : Supply}
    (hhas : l.wiring.Has x) : l.Done (.supply x) := by
  refine h.sound.induct (P := l.Done) hroot (fun y b hy hb => h.full b hb y hy) ?_ hhas
  exact fun c q n hc hall => done_joint_iff.mpr ⟨q, n, hc, hall⟩

end Ledger

namespace Tree

open Act Ledger

variable {σ ω : Type}

/-- If the sink is closed, then the executors that were opened are closed. -/
lemma settled {t : Tree σ ω} (h : t.ledger.Orderly)
    (hroot : t.ledger.Done (.supply (.node t.root))) : Settled t.calls := by
  have hcount (p : Call → Bool) : t.calls.countP p = t.newestCalls.countP p :=
    List.countP_reverse ..
  -- What the ledger says of one executor.
  have htally (k : Nat) (w : Option Nat) : (t.ledger.tally (k, w)).starts ≤ 1 ∧
      (t.ledger.tally (k, w)).opens ≤ (t.ledger.tally (k, w)).starts ∧
      (t.ledger.tally (k, w)).stops = (t.ledger.tally (k, w)).opens := by
    cases hk : t.ledger.nodes[k]? with
    | none =>
      rw [h.beyond k (List.getElem?_eq_none_iff.mp hk) w]
      exact ⟨Nat.zero_le _, le_rfl, rfl⟩
    | some e =>
      have htracked := h.tracked k e hk
      have hhas : t.ledger.wiring.Has (.node k) := by
        rw [Wiring.Has, length_nodes]
        exact (List.getElem?_eq_some_iff.mp hk).1
      have hclosed : e.phase = .closed := by
        simpa [Done, phase?, hk] using h.done hroot hhas
      refine ⟨htracked.starts_le w, htracked.opens_le w, ?_⟩
      rw [htracked.stops_eq, if_pos hclosed, htracked.opens_eq]
  constructor <;> rintro ⟨k, w⟩
  · rw [hcount]
    exact (htally k w).1
  · obtain ⟨hstarts, hopens, hstops⟩ := htally k w
    have hpos : (∃ c ∈ t.calls, c.isOpen (k, w)) ↔
        0 < t.newestCalls.countP (Call.isOpen (k, w)) := by
      rw [← hcount, List.countP_pos_iff]
    have hopen : t.newestCalls.countP (Call.isOpen (k, w)) ≤ 1 := hopens.trans hstarts
    rw [hcount, if_congr hpos rfl rfl]
    refine hstops.trans ?_
    change t.newestCalls.countP (Call.isOpen (k, w)) = _
    split_ifs <;> omega

/-! ### Trees that were not opened yet -/

section Fresh

variable {t t' : Tree σ ω}

lemma Fresh.phase?_eq (h : t.Fresh) {x : Supply} {phase : Phase}
    (hx : t.ledger.phase? x = some phase) : phase = .unopened := by
  cases x with
  | node k =>
    obtain ⟨node, hk, rfl⟩ : ∃ node, t.nodes[k]? = some node ∧ node.phase = phase := by
      simpa [phase?, ledger, Node.entry] using hx
    exact (h.nodes node (List.mem_of_getElem? hk)).phase_eq
  | endpoint c i =>
    obtain ⟨junction, hc, e, he, rfl⟩ : ∃ junction, t.junctions[c]? = some junction ∧
        ∃ e, junction.connector.endpoints[i]? = some e ∧ e.phase = phase := by
      simpa [Connector.phases] using phase?_endpoint_eq_some_iff.mp hx
    exact ((h.junctions junction (List.mem_of_getElem? hc)).endpoints e
      (List.mem_of_getElem? he)).2

lemma Fresh.not_reached (h : t.Fresh) (a : Part) : ¬t.ledger.Reached a := by
  match a with
  | .supply x =>
    rintro ⟨phase, hx, hne⟩
    exact hne (h.phase?_eq hx)
  | .joint c =>
    rintro ⟨joint, hc, hstarted⟩
    obtain ⟨junction, hjunction, rfl⟩ : ∃ junction, t.junctions[c]? = some junction ∧
        junction.entry = joint := by
      simpa [ledger] using hc
    have hfresh := (h.junctions junction (List.mem_of_getElem? hjunction)).started_eq
    rw [Junction.entry, hfresh] at hstarted
    cases hstarted

lemma Fresh.not_done (h : t.Fresh) (a : Part) : ¬t.ledger.Done a :=
  not_done_of_not_reached h.sound h.not_reached a

lemma Fresh.orderly (h : t.Fresh) : t.ledger.Orderly where
  sound := h.sound
  tracked := by
    intro k e hk
    obtain ⟨node, hnode, rfl⟩ : ∃ node, t.nodes[k]? = some node ∧ node.entry = e := by
      simpa [ledger] using hk
    obtain ⟨hphase, hcrew⟩ := h.nodes node (List.mem_of_getElem? hnode)
    have hopened : node.crew.opened = [] := by
      cases hc : node.crew with
      | source s started =>
        rw [hc] at hcrew
        rw [Crew.opened, if_neg (by simpa [Crew.Fresh] using hcrew)]
      | team team =>
        rw [hc] at hcrew
        rw [Crew.opened, hcrew.1, List.range_zero, List.map_nil]
    have htally (w : Option Nat) : t.ledger.tally (k, w) = ⟨0, 0, 0⟩ := by
      simp [ledger, tally, h.calls_eq]
    constructor <;> simp [htally, Node.entry, hopened, hphase]
  full := fun b hb => (h.not_done b hb).elim
  beyond := fun k _ w => by simp [ledger, tally, h.calls_eq]

lemma Fresh.sane (h : t.Fresh) : t.Sane := by
  intro junction hmem e he _
  have hfresh := h.junctions junction hmem
  rw [hfresh.base_eq, (hfresh.endpoints e he).1]
  exact ⟨le_rfl, Nat.zero_le _⟩

/-- The sink of a new tree is the first part to be opened, and the first one to be closed. -/
lemma Fresh.ready {M : Ledger → Part → Prop} (h : t.Fresh) (hM : ∀ a, ¬M t.ledger a) :
    Ready M (.node t.root) t.ledger :=
  ready_root h.sound hM

/-- A tree that was opened without a failure is open in all its parts. -/
lemma Fresh.opened (h : t.Fresh) (hopens : Opens [.node t.root] t.ledger (.ok ()) t'.ledger)
    {x : Supply} (hhas : t'.ledger.wiring.Has x) : t'.ledger.phase? x = some .opened := by
  have hsound : t'.ledger.wiring.Sound := hopens.wiring_eq ▸ h.sound
  have hlit : t'.ledger.Lit := hopens.lit fun c i hreached => (h.not_reached _ hreached).elim
  have hfull (b : Part) : t'.ledger.Full Reached b :=
    hopens.full rfl b fun hb => (h.not_reached b hb).elim
  have hroot : t'.ledger.Reached (.supply (.node t'.ledger.wiring.root)) := by
    rw [hopens.wiring_eq]
    exact hopens.reached rfl _ (List.mem_singleton_self _)
  obtain ⟨phase, hphase, hne⟩ : t'.ledger.Reached (.supply x) := by
    refine hsound.induct (P := t'.ledger.Reached) hroot (fun y b hy hb => hfull b hb y hy) ?_ hhas
    exact fun c q n hc hall => hlit c 0 (hall 0 (hsound.pos c q n hc))
  have hnot : t'.ledger.phase? x ≠ some .closed :=
    fun hclosed => h.not_done (.supply x) ((hopens.done_iff (.supply x)).mp hclosed)
  match phase with
  | .unopened => exact (hne rfl).elim
  | .opened => exact hphase
  | .closed => exact (hnot hphase).elim

end Fresh

/-! ### Operations one after another -/

variable [Source σ] [Worker ω]

/-- What an operation does, if it goes no deeper than a number. -/
def operate (depth : Nat) : Operation → Drive σ ω Unit
  | .start => start depth
  | .next => (fun _ => ()) <$> next depth
  | .stop => stop depth

/-- The trees that operations lead to, however deep they go, each of them done whether or not
those before it failed. -/
inductive Runs : Tree σ ω → List Operation → Tree σ ω → Prop
  | nil (t : Tree σ ω) : Runs t [] t
  | cons {t t' t'' : Tree σ ω} {n : Nat} {op : Operation} {ops : List Operation}
    {result : Result Unit} (hop : (operate n op).outcome t = some (result, t'))
    (hrest : Runs t' ops t'') : Runs t (op :: ops) t''

section Operations

variable {t t' : Tree σ ω} {depth : Nat}

/-- An operation keeps the order and never loses that the sink is closed. -/
structure Advances (l l' : Ledger) : Prop where
  orderly : l'.Orderly
  wiring_eq : l'.wiring = l.wiring
  done : l.Done (.supply (.node l.root)) → l'.Done (.supply (.node l'.root))

lemma Advances.of_eq {l l' : Ledger} (h : l.Orderly) (heq : l' = l) : Advances l l' :=
  ⟨heq ▸ h, heq ▸ rfl, heq ▸ id⟩

lemma advances_start (h : t.ledger.Orderly) :
    (start depth : Drive σ ω Unit).After (depth < t.nodes.length) t fun _ t' =>
      Advances t.ledger t'.ledger := by
  refine after_get_bind.mpr ?_
  have hhas := h.sound.root_lt
  have hlt := has_node_iff.mp hhas
  refine (after_startNode h.sound hhas).imp (fun hle => lt_of_le_of_lt hle hlt) ?_
  rintro result t' ⟨hkeeps, hopens⟩
  refine ⟨h.keep hkeeps hhas fun b hb hdone y hy => ?_, hkeeps.wiring_eq, fun hdone => ?_⟩
  · rw [hkeeps.wiring_eq] at hy
    exact (hopens.done_iff _).mpr (hb ((hopens.done_iff b).mp hdone) y hy)
  · rw [show t'.ledger.root = t.ledger.root from congrArg Wiring.root hkeeps.wiring_eq]
    exact (hopens.done_iff _).mpr hdone

lemma advances_next (h : t.ledger.Orderly) :
    (next depth : Drive σ ω (Option Tuple)).After True t fun _ t' =>
      Advances t.ledger t'.ledger :=
  after_get_bind.mpr ((quiet_nextNode depth t.root t).mono fun _ _ => .of_eq h)

lemma advances_stop (h : t.ledger.Orderly) :
    (stop depth : Drive σ ω Unit).After (depth < t.nodes.length) t fun _ t' =>
      Advances t.ledger t'.ledger ∧ t'.ledger.Done (.supply (.node t'.root)) := by
  refine after_get_bind.mpr ?_
  have hhas := h.sound.root_lt
  have hlt := has_node_iff.mp hhas
  refine (after_stopNode h.sound hhas).imp (fun hle => lt_of_le_of_lt hle hlt) ?_
  rintro result t' ⟨hkeeps, hcloses⟩
  have hdone : t'.ledger.Done (.supply (.node t'.root)) := by
    rw [show t'.root = t.root from congrArg Wiring.root hkeeps.wiring_eq]
    exact hcloses.done _ (List.mem_singleton_self _)
  exact ⟨⟨h.keep hkeeps hhas hcloses.full, hkeeps.wiring_eq, fun _ => hdone⟩, hdone⟩

/-- Whatever is done, the order is kept, and closing closes the sink. -/
lemma Runs.advances {ops : List Operation} (hrun : Runs t ops t') (h : t.ledger.Orderly) :
    Advances t.ledger t'.ledger ∧
      (.stop ∈ ops → t'.ledger.Done (.supply (.node t'.root))) := by
  induction hrun with
  | nil t => exact ⟨.of_eq h rfl, fun hmem => (List.not_mem_nil hmem).elim⟩
  | @cons t t₁ t₂ depth op ops result hop hrest ih =>
    have hstep : Advances t.ledger t₁.ledger ∧
        (op = .stop → t₁.ledger.Done (.supply (.node t₁.root))) := by
      match op with
      | .start => exact ⟨(advances_start h).of_outcome hop, nofun⟩
      | .next =>
        rw [operate, outcome_map, Option.map_eq_some_iff] at hop
        obtain ⟨⟨given, t'⟩, hnext, heq⟩ := hop
        cases heq
        exact ⟨(advances_next h).of_outcome hnext, nofun⟩
      | .stop =>
        obtain ⟨hadvances, hdone⟩ := (advances_stop h).of_outcome hop
        exact ⟨hadvances, fun _ => hdone⟩
    obtain ⟨hadvances, hdone⟩ := ih hstep.1.orderly
    refine ⟨⟨hadvances.orderly, hadvances.wiring_eq.trans hstep.1.wiring_eq,
      fun h => hadvances.done (hstep.1.done h)⟩, fun hmem => ?_⟩
    rcases List.mem_cons.mp hmem with heq | hmem
    · exact hadvances.done (hstep.2 heq.symm)
    · exact hdone hmem

end Operations

/-! ### Whole runs -/

section Complete

variable {t t' : Tree σ ω} {depth : Nat}

/-- What opens a tree and gives all its tuples. -/
def openAndDrain (depth : Nat) : Drive σ ω (List Tuple) := do
  start depth
  drain depth depth []

lemma quiet_drain (rounds : Nat) (given : List Tuple) :
    Quiet (drain depth rounds given : Drive σ ω (List Tuple)) :=
  preserves_iff_keeps.mpr fun l => (nextKeeps_ledger l).drain depth rounds given

/-- As long as a tree is open in all its parts, pulling fails only along with an executor. -/
lemma pulls_drain {l : Ledger} (hsound : l.wiring.Sound)
    (hopen : ∀ x, l.wiring.Has x → l.phase? x = some .opened) (rounds : Nat)
    (given : List Tuple) : Pulls l (drain depth rounds given : Drive σ ω (List Tuple)) := by
  induction rounds generalizing given with
  | zero => exact fun _ _ _ => after_endless.mpr trivial
  | succ rounds ih =>
    refine Pulls.bind (fun t hl hsane => after_get_bind.mpr ?_) fun x => ?_
    · have hroot : l.wiring.Has (.node t.root) := by
        rw [← hl]
        exact (hl ▸ hsound : t.ledger.wiring.Sound).root_lt
      exact pulls_nextNode depth hsound hopen hroot t hl hsane
    · match x with
      | some x => exact ih (x :: given)
      | none => exact pulls_pure _

/-- How a whole run ends: what was opened is closed, a failure of the run counts before one of the
closing, and it is counted once, under its kind. -/
structure Concluded (depth : Nat) (t : Tree σ ω) (result : Result (List Tuple)) (t' : Tree σ ω) :
    Prop where
  settled : Settled t'.calls
  error_eq : ∃ pulled stopped t₁ t₂, (openAndDrain depth).outcome t = some (pulled, t₁) ∧
    (stop depth).outcome t₁ = some (stopped, t₂) ∧
    Result.error? result = (Result.error? pulled).or (Result.error? stopped)
  failures_eq : ∀ kind, t'.metrics.failures kind = t.metrics.failures kind +
    if (Result.error? result).map Error.kind = some kind then 1 else 0

/-- What a whole run gives: what was pulled, unless the pulling or else the closing failed. -/
def conclude (pulled : Result (List Tuple)) (stopped : Result Unit) : Result (List Tuple) := do
  let given ← pulled
  stopped
  return given

omit [Source σ] [Worker ω] in
lemma error?_conclude (pulled : Result (List Tuple)) (stopped : Result Unit) :
    Result.error? (conclude pulled stopped) =
      (Result.error? pulled).or (Result.error? stopped) := by
  cases pulled <;> cases stopped <;> rfl

/-- The outcome of a whole run, in terms of that of its two halves. -/
lemma outcome_complete {result : Result (List Tuple)}
    (h : (complete depth).outcome t = some (result, t')) :
    ∃ pulled stopped t₁ t₂, (openAndDrain depth).outcome t = some (pulled, t₁) ∧
      (stop depth).outcome t₁ = some (stopped, t₂) ∧ result = conclude pulled stopped ∧
      t'.calls = t₂.calls ∧ ∀ kind, t'.metrics.failures kind = t₂.metrics.failures kind +
        if (Result.error? result).map Error.kind = some kind then 1 else 0 := by
  rw [complete, outcome_bind, outcome_attempt] at h
  change andThen _ (((openAndDrain depth).outcome t).map _) = _ at h
  rcases hpulled : (openAndDrain depth).outcome t with _ | ⟨pulled, t₁⟩
  · rw [hpulled] at h; cases h
  · simp only [hpulled, Option.map_some, andThen, outcome_bind, outcome_attempt] at h
    rcases hstopped : (stop depth).outcome t₁ with _ | ⟨stopped, t₂⟩
    · rw [hstopped] at h; cases h
    · simp only [hstopped, Option.map_some] at h
      have hcount (e : Error) (kind : String) :
          (t₂.measure (.failure e.kind)).metrics.failures kind = t₂.metrics.failures kind +
            if (some e).map Error.kind = some kind then 1 else 0 := by
        simp [measure, Metrics.record, Metrics.failures, List.countP_cons]
      refine ⟨pulled, stopped, t₁, t₂, rfl, hstopped, ?_⟩
      rcases pulled with e | given
      · cases h; exact ⟨rfl, rfl, hcount e⟩
      · rcases stopped with e | _
        · cases h; exact ⟨rfl, rfl, hcount e⟩
        · cases h; exact ⟨rfl, rfl, fun _ => rfl⟩

lemma isSome_complete (h : (openAndDrain depth : Drive σ ω (List Tuple)).After False t fun _ t' =>
    ((stop depth : Drive σ ω Unit).outcome t').isSome) :
    ((complete depth : Drive σ ω (List Tuple)).outcome t).isSome := by
  refine After.isSome (E := False) (Q := fun _ _ => True) ?_ id
  refine after_attempt_bind.mpr (h.mono fun pulled t' hstop => after_attempt_bind.mpr ?_)
  obtain ⟨⟨stopped, t''⟩, hstopped⟩ := Option.isSome_iff_exists.mp hstop
  refine (after_of_outcome hstopped).mpr ?_
  split
  · exact after_pure.mpr trivial
  · exact after_modify_bind.mpr (after_throw.mpr trivial)

/-- What opening and pulling do to a tree that was not opened before. -/
lemma Fresh.after_openAndDrain (h : t.Fresh) :
    (openAndDrain depth : Drive σ ω (List Tuple)).After True t fun result t' =>
      Explained (·.event ≠ .stop) t (Result.error? result) t' ∧
        Ready Done (.node t'.root) t'.ledger := by
  have hready := h.ready h.not_reached
  have hstart : (start depth : Drive σ ω Unit).After True t fun result t' =>
      Started t (Result.error? result) t' ∧ Opens [.node t.root] t.ledger result t'.ledger := by
    refine after_get_bind.mpr (((started_startNode depth hready).and
      (after_startNode h.sound hready.has)).mono fun _ _ h' => ⟨h'.1, h'.2.2⟩)
  -- Nothing was closed so far, and pulling closes nothing either.
  have hlater {result : Result Unit} {t' t'' : Tree σ ω}
      (hopens : Opens [.node t.root] t.ledger result t'.ledger) (heq : t''.ledger = t'.ledger) :
      Ready Done (.node t''.root) t''.ledger := by
    have hnot (a : Part) : ¬t'.ledger.Done a :=
      fun hdone => h.not_done a ((hopens.done_iff a).mp hdone)
    have hwiring : t''.ledger.wiring = t.ledger.wiring := by rw [heq, hopens.wiring_eq]
    have hroot : t''.root = t.root := congrArg Wiring.root hwiring
    refine ⟨hwiring ▸ h.sound, ?_, fun y b _ hy => ?_, ?_, fun b hb => ?_⟩
    · rw [hwiring, hroot]
      exact hready.has
    · exact (hnot _ (heq ▸ hy)).elim
    · rw [heq]
      exact hnot _
    · rw [hwiring, hroot] at hb
      exact (h.sound.not_hangs_root hb).elim
  refine hstart.bind
    (fun e t' h' => ⟨h'.1.imp (fun c hc => by rw [hc]; nofun), hlater h'.2 rfl⟩) fun _ t' h' => ?_
  obtain ⟨hstarted, hopens⟩ := h'
  have hsound : t'.ledger.wiring.Sound := hopens.wiring_eq ▸ h.sound
  refine (pulls_drain hsound (fun x => h.opened hopens) depth [] t' rfl
    (hstarted.sane h.sane)).mono fun result t'' h' => ?_
  obtain ⟨hpulled, hledger⟩ := h'
  refine ⟨Explained.trans ?_ (hpulled.imp fun _ => And.right), hlater hopens hledger⟩
  exact hstarted.imp (fun c hc => by rw [hc]; nofun)

/-- Among calls of two kinds, behind one another, those of the first kind come first. -/
lemma firstFailure_filter {new new' : List Call} (hnew : ∀ c ∈ new, c.event ≠ .stop)
    (hnew' : ∀ c ∈ new', c.event = .stop) :
    firstFailure ((new ++ new').filter (·.event ≠ .stop)) = firstFailure new ∧
      firstFailure ((new ++ new').filter (·.event = .stop)) = firstFailure new' := by
  rw [List.filter_append, List.filter_append, List.filter_eq_self.mpr (by simpa using hnew),
    List.filter_eq_nil_iff.mpr (by simpa using hnew'), List.append_nil,
    List.filter_eq_nil_iff.mpr (by simpa using hnew),
    List.filter_eq_self.mpr (by simpa using hnew'), List.nil_append]
  exact ⟨rfl, rfl⟩

/-- An action that counts no failed run. -/
abbrev Silent {α : Type} (a : Drive σ ω α) : Prop :=
  a.Preserves fun t => t.metrics.failures

omit [Source σ] [Worker ω] in
lemma failures_record {m : Metrics} {x : Measurement} (hx : ∀ kind, x ≠ .failure kind) :
    (m.record x).failures = m.failures := by
  funext kind
  cases x with
  | failure kind' => exact (hx kind' rfl).elim
  | call => simp [Metrics.record, Metrics.failures]
  | buffered => simp [Metrics.record, Metrics.failures]

section Failures

variable (failures : String → Nat)

lemma startKeeps_failures : StartKeeps fun t : Tree σ ω => t.metrics.failures = failures where
  endpoint ht _ := ht
  team ht _ _ _ := ht
  source ht _ _ _ := after_modify_bind.mpr (after_callSource.mpr ht)
  mark ht _ := ht
  worker _ _ _ _ ht := after_callWorker.mpr ht
  count ht := ht

lemma nextKeeps_failures :
    NextKeeps (fun _ => True) fun t : Tree σ ω => t.metrics.failures = failures where
  opened _ _ _ := trivial
  read ht _ := after_modify.mpr (Eq.trans (failures_record fun _ => nofun) ht)
  push ht := ht
  finish ht := ht
  source ht _ _ _ := after_callSource.mpr ht
  measure ht := Eq.trans (failures_record fun _ => nofun) ht
  turn ht := ht
  pop ht _ _ _ := ht
  deal ht := ht
  exhaust ht := ht
  tick ht := ht
  process _ ht _ _ _ := after_callWorker.mpr ht
  collect ht := ht

lemma stopKeeps_failures : StopKeeps fun t : Tree σ ω => t.metrics.failures = failures where
  endpoint ht _ := after_modify.mpr (Eq.trans (failures_record fun _ => nofun) ht)
  phase ht := ht
  source ht _ _ := after_modify_bind.mpr (after_callSource.mpr ht)
  clear ht := ht
  worker ht _ _ _ := after_callWorker.mpr ht

end Failures

lemma silent_openAndDrain : Silent (openAndDrain depth : Drive σ ω (List Tuple)) :=
  preserves_iff_keeps.mpr fun failures => ((startKeeps_failures failures).start depth).bind fun _ =>
    (nextKeeps_failures failures).drain depth depth []

lemma advances_openAndDrain (h : t.ledger.Orderly) :
    (openAndDrain depth : Drive σ ω (List Tuple)).After True t fun _ t' =>
      Advances t.ledger t'.ledger := by
  refine ((advances_start h).imp (fun _ => trivial) fun _ _ => id).bind
    (fun _ _ => id) fun _ t' h' => ?_
  exact (quiet_drain depth [] t').mono fun _ _ heq => heq ▸ h'

/-- Whatever was done to a tree before, a whole run closes what was opened. -/
lemma concluded (h : t.ledger.Orderly) {result : Result (List Tuple)}
    (hcomplete : (complete depth).outcome t = some (result, t')) :
    Concluded depth t result t' := by
  obtain ⟨pulled, stopped, t₁, t₂, hpulled, hstopped, rfl, hcalls', hcount⟩ :=
    outcome_complete hcomplete
  have horderly := ((advances_openAndDrain h).of_outcome hpulled).orderly
  obtain ⟨hadvances, hdone⟩ := (advances_stop horderly).of_outcome hstopped
  have hsettled : Settled t₂.calls := settled hadvances.orderly hdone
  have hfailures : t₂.metrics.failures = t.metrics.failures := by
    have hstop : Silent (stop depth : Drive σ ω Unit) :=
      preserves_iff_keeps.mpr fun failures => (stopKeeps_failures failures).stop depth
    exact ((hstop t₁).of_outcome hstopped).trans ((silent_openAndDrain t).of_outcome hpulled)
  refine ⟨hcalls' ▸ hsettled, ⟨pulled, stopped, t₁, t₂, hpulled, hstopped,
    error?_conclude pulled stopped⟩, fun kind => ?_⟩
  rw [hcount, hfailures]

/-- A tree that was not opened before fails in a whole run exactly if an executor fails: with the
first failure of a call to open or to work, or else with the first one of a call to close. -/
lemma Fresh.error_complete (h : t.Fresh) {result : Result (List Tuple)}
    (hcomplete : (complete depth).outcome t = some (result, t')) :
    Result.error? result = (firstFailure (t'.calls.filter (·.event ≠ .stop))).or
      (firstFailure (t'.calls.filter (·.event = .stop))) := by
  obtain ⟨pulled, stopped, t₁, t₂, hpulled, hstopped, rfl, hcalls', hcount⟩ :=
    outcome_complete hcomplete
  obtain ⟨hexplained, hready⟩ := h.after_openAndDrain.of_outcome hpulled
  have hstop : (stop depth : Drive σ ω Unit).After True t₁ fun result t' =>
      Stopped t₁ (Result.error? result) t' :=
    after_get_bind.mpr (stopped_stopNode depth hready)
  obtain ⟨new, hnew, hevents, hfailure⟩ := hexplained.newCalls
  obtain ⟨new', hnew', hevents', hfailure'⟩ := (hstop.of_outcome hstopped).newCalls
  have hcalls : t₂.calls = new ++ new' := by
    rw [hnew', hnew, calls, h.calls_eq]
    rfl
  obtain ⟨hfirst, hfirst'⟩ := firstFailure_filter hevents fun c hc => (hevents' c hc).1
  rw [hcalls', hcalls, hfirst, hfirst', hfailure, hfailure', error?_conclude]

end Complete

end Tree

/-- For every tree that is built from a plan, with any executors, and whatever is done to it:
opening and closing come to an end; once the tree was closed, the executors that were opened were
closed once each, and no others; and so it is after a whole run, which fails with the first failure
of an executor that opens or works, or else with the first failure of one that closes. -/
theorem PhysicalPlan.tree_settles {σ ω : Type} [Source σ] [Worker ω] {plan : PhysicalPlan}
    {registry : Registry σ ω} {context : Context} {clock : Nat → Nat} {t t' : Tree σ ω}
    {ops : List Operation} (hbuilt : plan.tree? registry context clock = some (.ok t))
    (hrun : t.Runs ops t') :
    (∀ depth, t.nodes.length ≤ depth →
      ((Tree.start depth).outcome t').isSome ∧ ((Tree.stop depth).outcome t').isSome) ∧
    (.stop ∈ ops → Settled t'.calls) ∧
    ∀ depth result t'', (Tree.complete depth).outcome t' = some (result, t'') →
      t'.Concluded depth result t'' ∧
      (ops = [] → Result.error? result =
        (firstFailure (t''.calls.filter (·.event ≠ .stop))).or
          (firstFailure (t''.calls.filter (·.event = .stop)))) := by
  have hfresh := fresh_of_tree? hbuilt
  obtain ⟨hadvances, hdone⟩ := hrun.advances hfresh.orderly
  refine ⟨fun depth hdepth => ?_, fun hstop => Tree.settled hadvances.orderly (hdone hstop),
    fun depth result t'' hcomplete => ⟨Tree.concluded hadvances.orderly hcomplete, fun hops => ?_⟩⟩
  · have hlength : t'.nodes.length = t.nodes.length := by
      have hwiring := congrArg (·.supplies.length) hadvances.wiring_eq
      simpa [Tree.ledger, Ledger.wiring] using hwiring
    have hnot : ¬depth < t'.nodes.length := by omega
    exact ⟨(Tree.advances_start hadvances.orderly).isSome hnot,
      (Tree.advances_stop hadvances.orderly).isSome hnot⟩
  · subst hops
    cases hrun
    exact hfresh.error_complete hcomplete

/-! ### A run with failures -/

/-- A scan that feeds both inputs of a join through a connector. -/
def selfJoin : PhysicalPlan where
  root := .node ⟨"sink", .tupleSink⟩ 1 [.direct ⟨"join", "sink"⟩
    (.node ⟨"join", .join "spans" "spans" 5⟩ 1
      [.endpoint ⟨"scan", "join"⟩ 0 0, .endpoint ⟨"scan", "join"⟩ 0 1])]
  connectors := [⟨0, .node ⟨"scan", .scanSource "rows"⟩ 1 [], 2⟩]

/-- Executors of which the source fails when it is closed, and the join when it is opened. -/
def failingExecutors : Registry ScriptedSource ScriptedWorker :=
  .ofList [("ScanSource", Script.factory (.source { failStop := true })),
    ("Join", Script.factory (.worker { failStart := some 0 })),
    ("TupleSink", Script.factory (.worker {}))]

/-- A table of spans without rows. -/
def noSpans : Context :=
  ⟨{}, ⟨[("rows", ⟨⟨[⟨"spans", .list⟩], by decide⟩, [], nofun⟩)]⟩⟩

/-- The tree of the join with these executors. -/
def selfJoinTree : Tree ScriptedSource ScriptedWorker :=
  match selfJoin.tree? failingExecutors noSpans fun _ => 0 with
  | some (.ok t) => t
  | _ => ⟨[], [], 0, .empty, fun _ => 0, 0, []⟩

/-- The join cannot be opened and the source cannot be closed, and still every executor that was
opened is closed. -/
theorem selfJoin_settles : ∃ t' t'' result,
    selfJoin.tree? failingExecutors noSpans (fun _ => 0) = some (.ok selfJoinTree) ∧
    selfJoinTree.Runs [.start, .stop] t' ∧ Settled t'.calls ∧
    (Tree.complete 9).outcome selfJoinTree = some (result, t'') ∧
    selfJoinTree.Concluded 9 result t'' := by
  have hbuilt : selfJoin.tree? failingExecutors noSpans (fun _ => 0) = some (.ok selfJoinTree) :=
    rfl
  obtain ⟨⟨started, t₁⟩, hstart⟩ := Option.isSome_iff_exists.mp
    (by decide +kernel : ((Tree.start 9).outcome selfJoinTree).isSome = true)
  obtain ⟨⟨result, t''⟩, hcomplete⟩ := Option.isSome_iff_exists.mp
    (by decide +kernel : ((Tree.complete 9).outcome selfJoinTree).isSome = true)
  have hlength : selfJoinTree.nodes.length ≤ 9 := by decide +kernel
  have hstarted : selfJoinTree.Runs [.start] t₁ := .cons (n := 9) hstart (.nil t₁)
  obtain ⟨⟨stopped, t'⟩, hstop⟩ := Option.isSome_iff_exists.mp
    ((PhysicalPlan.tree_settles hbuilt hstarted).1 9 hlength).2
  have hrun : selfJoinTree.Runs [.start, .stop] t' :=
    .cons (n := 9) hstart (.cons (n := 9) hstop (.nil t'))
  exact ⟨t', t'', result, hbuilt, hrun,
    (PhysicalPlan.tree_settles hbuilt hrun).2.1 (by decide), hcomplete,
    ((PhysicalPlan.tree_settles hbuilt (.nil selfJoinTree)).2.2 9 result t'' hcomplete).1⟩

end Dataflow
