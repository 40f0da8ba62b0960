import Dataflow.Proofs.Flow.Stream
import Dataflow.Proofs.Tree.Apart

/-!
# Histories of nodes

The history of a node with a team tells what the node does while it is asked for tuples: which
inputs it pulls and what they give, and what its workers take in and make of it. Whenever a node is
asked again and again, and does not fail, there is such a history.
-/

namespace Dataflow

/-- What a node with a team does while it is asked for a tuple. -/
inductive Moment where
  | pulled (input : Nat) (given : Option Tuple)
  /-- A worker takes in something that came from an input, and makes some tuples of it. -/
  | handed (input worker : Nat) (taken : Input) (made : List Tuple)

namespace Moment

/-- The tuples that were made. -/
def made : Moment → List Tuple
  | pulled .. => []
  | handed _ _ _ made => made

/-- The call that a worker of a node got. -/
def call? (q : Nat) : Moment → Option Call
  | pulled .. => none
  | handed _ worker taken _ => some ⟨q, some worker, .process taken, none⟩

/-- What a worker takes in, and what it makes of it. -/
def task? (k : Nat) : Moment → Option (Input × List Tuple)
  | pulled .. => none
  | handed _ worker taken made => if worker = k then some (taken, made) else none

end Moment

/-- What a worker of a node takes in one after another, each with what it makes of it. -/
def tasksOf (k : Nat) (history : List Moment) : List (Input × List Tuple) :=
  history.filterMap (Moment.task? k)

/-- A worker takes things in one after another, each at some time, and makes something of them. -/
inductive Worker.Took {ω : Type} [Worker ω] (w : ω) : List (Input × List Tuple) → ω → Prop
  | nil : Took w [] w
  | concat {tasks : List (Input × List Tuple)} {w₁ w' : ω} {now : Nat} {taken : Input}
      {made : List Tuple} (before : Took w tasks w₁)
      (processed : Worker.process now taken w₁ = (.ok made, w')) :
      Took w (tasks ++ [(taken, made)]) w'

/-- The workers of a team have done what a history says. -/
structure AllTook {ω : Type} [Worker ω] (ws : List ω) (history : List Moment) (ws' : List ω) :
    Prop where
  length_eq : ws'.length = ws.length
  took : ∀ (k : Nat) w, ws[k]? = some w →
    ∃ w', ws'[k]? = some w' ∧ Worker.Took w (tasksOf k history) w'

section AllTook

variable {ω : Type} [Worker ω] {w w' w'' : ω} {ws ws' ws'' : List ω} {history more : List Moment}
  {tasks tasks' : List (Input × List Tuple)} {i k : Nat} {taken : Input} {made : List Tuple}

lemma tasksOf_append (k : Nat) (history more : List Moment) :
    tasksOf k (history ++ more) = tasksOf k history ++ tasksOf k more :=
  List.filterMap_append

lemma Worker.Took.trans (h : Took w tasks w') (h' : Took w' tasks' w'') :
    Took w (tasks ++ tasks') w'' := by
  induction h' with
  | nil => rwa [List.append_nil]
  | concat _ hprocessed ih =>
    rw [← List.append_assoc]
    exact .concat ih hprocessed

lemma Worker.took_nil_iff : Took w [] w' ↔ w' = w := by
  constructor
  · intro h
    generalize hnone : ([] : List (Input × List Tuple)) = tasks at h
    cases h with
    | nil => rfl
    | concat => simp at hnone
  · rintro rfl
    exact .nil

lemma Worker.took_concat_iff : Took w (tasks ++ [(taken, made)]) w' ↔
    ∃ w₁ now, Took w tasks w₁ ∧ Worker.process now taken w₁ = (.ok made, w') := by
  constructor
  · intro h
    generalize hall : tasks ++ [(taken, made)] = all at h
    cases h with
    | nil => simp at hall
    | concat hbefore hprocessed =>
      obtain ⟨rfl, hlast⟩ := List.append_inj' hall rfl
      cases hlast
      exact ⟨_, _, hbefore, hprocessed⟩
  · rintro ⟨w₁, now, hbefore, hprocessed⟩
    exact hbefore.concat hprocessed

lemma AllTook.refl (ws : List ω) : AllTook ws [] ws :=
  ⟨rfl, fun _ w hw => ⟨w, hw, .nil⟩⟩

lemma AllTook.trans (h : AllTook ws history ws') (h' : AllTook ws' more ws'') :
    AllTook ws (history ++ more) ws'' where
  length_eq := h'.length_eq.trans h.length_eq
  took k w hw := by
    obtain ⟨w', hw', htook⟩ := h.took k w hw
    obtain ⟨w'', hw'', htook'⟩ := h'.took k w' hw'
    exact ⟨w'', hw'', tasksOf_append k history more ▸ htook.trans htook'⟩

lemma AllTook.pulled (h : AllTook ws history ws') (i : Nat) (given : Option Tuple) :
    AllTook ws (.pulled i given :: history) ws' :=
  ⟨h.length_eq, h.took⟩

lemma AllTook.handed {now : Nat} (hw : ws[k]? = some w)
    (hprocessed : Worker.process now taken w = (.ok made, w')) (i : Nat) :
    AllTook ws [.handed i k taken made] (ws.set k w') where
  length_eq := List.length_set
  took j v hv := by
    by_cases hkj : k = j
    · subst hkj
      rw [hw, Option.some.injEq] at hv
      subst hv
      refine ⟨w', List.getElem?_set_self (List.getElem?_eq_some_iff.mp hw).1, ?_⟩
      have htook := Worker.Took.nil.concat hprocessed
      simpa [tasksOf, Moment.task?] using htook
    · refine ⟨v, (List.getElem?_set_ne hkj).trans hv, ?_⟩
      simpa [tasksOf, Moment.task?, hkj] using Worker.Took.nil

end AllTook

namespace Team

variable {ω : Type}

/-- A team whose next tuple goes to the worker behind the one whose turn it was. -/
def passed (team : Team ω) : Team ω :=
  { team with nextWorker := (team.nextWorker + 1) % team.workers.length }

/-- A team one of whose inputs has ended. -/
def closed (team : Team ω) (i : Nat) : Team ω :=
  { team with slots := team.slots.modify i fun slot => { slot with exhausted := true } }

/-- A team with other workers, which made some tuples more. -/
def worked (team : Team ω) (workers : List ω) (made : List Tuple) : Team ω :=
  { team with workers := workers, pending := team.pending ++ made }

end Team

namespace Tree

open Act

variable {σ ω : Type} {t t' t₁ t₂ : Tree σ ω} {q k i : Nat} {team team' team'' : Team ω}
  {link : Link} {taken : Input} {made : List Tuple} {calls calls' : List Call}

/-- A node of a tree has a team. -/
def HasTeam (t : Tree σ ω) (q : Nat) (team : Team ω) : Prop :=
  ∃ node, t.nodes[q]? = some node ∧ node.crew = .team team

lemma HasTeam.unique (h : t.HasTeam q team) (h' : t.HasTeam q team') : team = team' := by
  obtain ⟨node, hnode, hcrew⟩ := h
  obtain ⟨node', hnode', hcrew'⟩ := h'
  cases hnode.symm.trans hnode'
  exact Crew.team.inj (hcrew.symm.trans hcrew')

lemma HasTeam.changeTeam (h : t.HasTeam q team) (f : Team ω → Team ω) :
    (t.changeTeam q f).HasTeam q (f team) := by
  obtain ⟨node, hnode, hcrew⟩ := h
  exact ⟨_, getElem?_changeTeam hnode hcrew, rfl⟩

lemma HasTeam.mem_suppliesOf {slot : Slot} (h : t.HasTeam q team)
    (hslot : team.slots[i]? = some slot) : slot.supply ∈ t.ledger.wiring.suppliesOf q := by
  obtain ⟨node, hnode, hcrew⟩ := h
  exact mem_suppliesOf_of_mem_slots hnode hcrew (List.mem_of_getElem? hslot)

/-- The node has some team now, its executors got some calls more, and nothing is wired
otherwise. -/
structure Becomes (q : Nat) (team : Team ω) (calls : List Call) (t t' : Tree σ ω) : Prop where
  hasTeam : t'.HasTeam q team
  callsOf_eq : t'.callsOf q = t.callsOf q ++ calls
  wiring_eq : t'.ledger.wiring = t.ledger.wiring

lemma Becomes.trans (h : Becomes q team calls t t₁) (h' : Becomes q team' calls' t₁ t') :
    Becomes q team' (calls ++ calls') t t' where
  hasTeam := h'.hasTeam
  callsOf_eq := by rw [h'.callsOf_eq, h.callsOf_eq, List.append_assoc]
  wiring_eq := h'.wiring_eq.trans h.wiring_eq

lemma Apart.becomes (h : Apart q t t') (hteam : t.HasTeam q team) : Becomes q team [] t t' := by
  obtain ⟨node, hnode, hcrew⟩ := hteam
  exact ⟨⟨node, h.node_eq.trans hnode, hcrew⟩, by rw [h.callsOf_eq, List.append_nil], h.wiring_eq⟩

lemma becomes_changeTeam {f : Team ω → Team ω} (hteam : t.HasTeam q team)
    (hf : ∀ team, (f team).slots.map Slot.supply = team.slots.map Slot.supply ∧
      (f team).workers.length = team.workers.length ∧ (f team).started = team.started) :
    Becomes q (f team) [] t (t.changeTeam q f) where
  hasTeam := hteam.changeTeam f
  callsOf_eq := (List.append_nil _).symm
  wiring_eq := congrArg Ledger.wiring (ledger_changeTeam_of_entry_eq hf)

lemma becomes_closed (hteam : t.HasTeam q team) (i : Nat) :
    Becomes q (team.closed i) [] t (t.changeTeam q (·.closed i)) :=
  becomes_changeTeam (f := (·.closed i)) hteam fun _ => ⟨map_modify_of_eq fun _ _ => rfl, rfl, rfl⟩

variable [Worker ω]

/-- A worker of a node takes something in, and makes some tuples of it. -/
structure Takes (q k : Nat) (taken : Input) (made : List Tuple) (t t' : Tree σ ω) : Prop where
  delivered : (deliver q k taken).outcome t = some (.ok (), t')
  processed : ∃ team w w', t.HasTeam q team ∧ team.workers[k]? = some w ∧
    Worker.process (t.clock t.readings) taken w = (.ok made, w')

/-- Workers of a node are told, one after another, that an input has ended. -/
inductive Tells (q input : Nat) (link : Link) :
    List Nat → Tree σ ω → List Moment → Tree σ ω → Prop
  | nil {t : Tree σ ω} : Tells q input link [] t [] t
  | cons {k : Nat} {workers : List Nat} {made : List Tuple} {history : List Moment}
      {t t₁ t' : Tree σ ω} (takes : Takes q k (.exhausted link) made t t₁)
      (rest : Tells q input link workers t₁ history t') :
      Tells q input link (k :: workers) t (.handed input k (.exhausted link) made :: history) t'

/-- A worker that takes something in gets one call, and the node keeps what it makes. -/
lemma gives_worked {w : ω} (hteam : t.HasTeam q team) (hw : team.workers[k]? = some w)
    (taken : Input) : (deliver q k taken : Drive σ ω Unit).Gives t fun _ t' => ∃ made w',
      Worker.process (t.clock t.readings) taken w = (.ok made, w') ∧
        t'.HasTeam q (team.worked (team.workers.set k w') made) ∧
        t'.callsOf q = t.callsOf q ++ [⟨q, some k, .process taken, none⟩] := by
  refine after_handed (fun hnone => ?_) fun node team' v hnode hcrew hv => after_callWorker.mpr ?_
  · obtain ⟨node, hnode, hcrew⟩ := hteam
    cases (hnone node team hnode hcrew).symm.trans hw
  obtain rfl := hteam.unique ⟨node, hnode, hcrew⟩
  cases hw.symm.trans hv
  match hmade : Worker.process (t.clock t.readings) taken w with
  | (.error e, w') => exact nofun
  | (.ok made, w') =>
    rintro _ ⟨⟩
    refine ⟨made, w', rfl, ?_, ?_⟩
    · refine HasTeam.changeTeam (?_ : HasTeam _ q { team with workers := team.workers.set k w' }) _
      exact ⟨_, getElem?_changeTeam hnode hcrew, rfl⟩
    · have hcalls := callsOf_call q t ⟨q, some k, .process taken, none⟩
      rw [if_pos rfl] at hcalls
      exact hcalls

variable [Source σ]

lemma gives_takes (hteam : t.HasTeam q team) (hk : k < team.workers.length) (taken : Input) :
    (deliver q k taken : Drive σ ω Unit).Gives t fun _ t' =>
      ∃ made w', Takes q k taken made t t' ∧
        (∀ i, AllTook team.workers [.handed i k taken made] (team.workers.set k w')) ∧
        Becomes q (team.worked (team.workers.set k w') made)
          [⟨q, some k, .process taken, none⟩] t t' := by
  have hw := List.getElem?_eq_getElem hk
  have hquiet : (deliver q k taken : Drive σ ω Unit).Keeps fun t' => t'.ledger = t.ledger :=
    preserves_iff_keeps.mp (quiet_work k taken) t.ledger
  refine gives_iff.mpr fun _ t' hdelivered => ?_
  obtain ⟨⟨made, w', hprocess, hteam', hcalls⟩, hledger⟩ :=
    gives_iff.mp ((gives_worked hteam hw taken).and_keeps hquiet rfl) _ _ hdelivered
  exact ⟨made, w', ⟨hdelivered, team, _, w', hteam, hw, hprocess⟩, .handed hw hprocess, hteam',
    hcalls, congrArg Ledger.wiring hledger⟩

lemma Takes.becomes (h : Takes q k taken made t t') (hteam : t.HasTeam q team) :
    ∃ w', (∀ i, AllTook team.workers [.handed i k taken made] (team.workers.set k w')) ∧
      Becomes q (team.worked (team.workers.set k w') made)
        [⟨q, some k, .process taken, none⟩] t t' := by
  obtain ⟨_, w, w', hteam', hw, hprocess⟩ := h.processed
  obtain rfl := hteam.unique hteam'
  obtain ⟨made', w'', htakes, hserved, hbecomes⟩ := gives_iff.mp
    (gives_takes hteam (List.getElem?_eq_some_iff.mp hw).1 taken) _ _ h.delivered
  obtain ⟨_, v, v', hteam'', hv, hprocess'⟩ := htakes.processed
  obtain rfl := hteam.unique hteam''
  cases hw.symm.trans hv
  obtain ⟨heq, -⟩ := Prod.mk.inj (hprocess'.symm.trans hprocess)
  obtain rfl := Except.ok.inj heq
  exact ⟨w'', hserved, hbecomes⟩

/-- The workers that are told take in the end of the input, one after another. -/
lemma gives_tells {workers : List Nat} (hteam : t.HasTeam q team)
    (hworkers : ∀ k ∈ workers, k < team.workers.length) :
    (workers.forM fun k => (deliver q k (.exhausted link) : Drive σ ω Unit)).Gives t fun _ t' =>
      ∃ history, Tells q i link workers t history t' := by
  induction workers generalizing t team with
  | nil => exact gives_pure.mpr ⟨[], .nil⟩
  | cons k workers ih =>
    obtain ⟨hk, hrest⟩ := List.forall_mem_cons.mp hworkers
    refine gives_bind.mpr ((gives_takes hteam hk _).mono ?_)
    rintro _ t₁ ⟨made, w', htakes, -, hbecomes⟩
    refine (ih hbecomes.hasTeam fun k hk => ?_).mono ?_
    · simpa [Team.worked] using hrest k hk
    · rintro _ t' ⟨history, htells⟩
      exact ⟨_, .cons htakes htells⟩

/-- What it does to a node to tell its workers that an input has ended. -/
lemma Tells.becomes {workers : List Nat} {history : List Moment}
    (h : Tells q i link workers t history t') (hteam : t.HasTeam q team) :
    ∃ ws, AllTook team.workers history ws ∧
      Becomes q (team.worked ws (history.flatMap Moment.made))
        (history.filterMap (Moment.call? q)) t t' := by
  induction h generalizing team with
  | nil =>
    refine ⟨team.workers, .refl _, ?_, (List.append_nil _).symm, rfl⟩
    simpa [Team.worked] using hteam
  | @cons k workers made history t t₁ t' htakes _ ih =>
    obtain ⟨w', hserved, hfirst⟩ := htakes.becomes hteam
    obtain ⟨ws, hrestTook, hrest⟩ := ih hfirst.hasTeam
    refine ⟨ws, (hserved i).trans hrestTook, ?_⟩
    have hall := hfirst.trans hrest
    simpa [Team.worked, Moment.made, Moment.call?] using hall

/-- A node is asked for a tuple. It gives one that waits, if there is one, and none if all inputs
have ended. Otherwise it pulls the input whose turn it is, lets its workers take in what the input
gives, and is asked again. -/
inductive Asked (q : Nat) : Tree σ ω → List Moment → Option Tuple → Tree σ ω → Prop
  | waiting {t : Tree σ ω} {team : Team ω} {x : Tuple} {rest : List Tuple}
      (hteam : t.HasTeam q team) (hpending : team.pending = x :: rest) :
      Asked q t [] (some x) (t.changeTeam q fun team => { team with pending := rest })
  | finished {t : Tree σ ω} {team : Team ω} (hteam : t.HasTeam q team)
      (hpending : team.pending = []) (hpick : team.pick? = none) : Asked q t [] none t
  /-- An input gives a tuple, and the worker whose turn it is takes it in. -/
  | dealt {t t₁ t₂ t' : Tree σ ω} {team : Team ω} {depth i : Nat} {slot : Slot} {x : Tuple}
      {made : List Tuple} {history : List Moment} {given : Option Tuple}
      (hteam : t.HasTeam q team) (hpending : team.pending = [])
      (hpick : team.pick? = some (i, slot))
      (hpull : (onSupply (nextNode depth) Seat.pull slot.supply).outcome
        (t.changeTeam q (·.turned i)) = some (.ok (some x), t₁))
      (htakes : Takes q team.nextWorker (.tuple x slot.link) made (t₁.changeTeam q (·.passed)) t₂)
      (again : Asked q t₂ history given t') :
      Asked q t
        (.pulled i (some x) :: .handed i team.nextWorker (.tuple x slot.link) made :: history)
        given t'
  | ended {t t₁ t₂ t' : Tree σ ω} {team : Team ω} {depth i : Nat} {slot : Slot}
      {told history : List Moment} {given : Option Tuple}
      (hteam : t.HasTeam q team) (hpending : team.pending = [])
      (hpick : team.pick? = some (i, slot))
      (hpull : (onSupply (nextNode depth) Seat.pull slot.supply).outcome
        (t.changeTeam q (·.turned i)) = some (.ok none, t₁))
      (htells : Tells q i slot.link (List.range team.workers.length)
        (t₁.changeTeam q (·.closed i)) told t₂)
      (again : Asked q t₂ history given t') :
      Asked q t (.pulled i none :: (told ++ history)) given t'

/-- Pulling an input makes it the turn of the next one, and does nothing else to the node. -/
lemma becomes_turned (hsound : t.ledger.wiring.Sound) (hteam : t.HasTeam q team) {slot : Slot}
    (hpick : team.pick? = some (i, slot)) {depth : Nat} {given : Option Tuple}
    (hpull : (onSupply (nextNode depth) Seat.pull slot.supply).outcome
      (t.changeTeam q (·.turned i)) = some (.ok given, t₁)) :
    Becomes q (team.turned i) [] t t₁ := by
  have hturned := becomes_changeTeam (f := (·.turned i)) hteam fun _ => ⟨rfl, rfl, rfl⟩
  have hmem := hteam.mem_suppliesOf (Team.pick?_eq_some hpick).1
  rw [← hturned.wiring_eq] at hsound hmem
  exact hturned.trans (((apart_pull hsound hmem depth).of_outcome hpull).becomes hturned.hasTeam)

lemma becomes_dealt (hsound : t.ledger.wiring.Sound) (hteam : t.HasTeam q team) {slot : Slot}
    (hpick : team.pick? = some (i, slot)) {depth : Nat} {x : Tuple}
    (hpull : (onSupply (nextNode depth) Seat.pull slot.supply).outcome
      (t.changeTeam q (·.turned i)) = some (.ok (some x), t₁))
    (htakes : Takes q team.nextWorker (.tuple x slot.link) made
      (t₁.changeTeam q (·.passed)) t₂) : ∃ w',
      AllTook team.workers
        [.pulled i (some x), .handed i team.nextWorker (.tuple x slot.link) made]
        (team.workers.set team.nextWorker w') ∧
      Becomes q (team.dealt i w' made)
        [⟨q, some team.nextWorker, .process (.tuple x slot.link), none⟩] t t₂ := by
  have hturned := becomes_turned hsound hteam hpick hpull
  have hpassed := hturned.trans
    (becomes_changeTeam (f := (·.passed)) hturned.hasTeam fun _ => ⟨rfl, rfl, rfl⟩)
  obtain ⟨w', hserved, hbecomes⟩ := htakes.becomes hpassed.hasTeam
  exact ⟨w', (hserved i).pulled i _, hpassed.trans hbecomes⟩

lemma becomes_ended (hsound : t.ledger.wiring.Sound) (hteam : t.HasTeam q team) {slot : Slot}
    (hpick : team.pick? = some (i, slot)) {depth : Nat} {told : List Moment}
    (hpull : (onSupply (nextNode depth) Seat.pull slot.supply).outcome
      (t.changeTeam q (·.turned i)) = some (.ok none, t₁))
    (htells : Tells q i slot.link (List.range team.workers.length)
      (t₁.changeTeam q (·.closed i)) told t₂) :
    ∃ ws, AllTook team.workers (.pulled i none :: told) ws ∧
      Becomes q (((team.turned i).closed i).worked ws (told.flatMap Moment.made))
        (told.filterMap (Moment.call? q)) t t₂ := by
  have hturned := becomes_turned hsound hteam hpick hpull
  have hclosed := hturned.trans (becomes_closed hturned.hasTeam i)
  obtain ⟨ws, hserved, hbecomes⟩ := htells.becomes hclosed.hasTeam
  exact ⟨ws, hserved.pulled i none, hclosed.trans hbecomes⟩

omit [Source σ] [Worker ω] in
lemma HasTeam.gives_bind {α : Type} {f : Option (Team ω) → Drive σ ω α}
    {want : α → Tree σ ω → Prop} (hteam : t.HasTeam q team) (h : (f (some team)).Gives t want) :
    (team? q >>= f).Gives t want := by
  obtain ⟨node, hnode, hcrew⟩ := id hteam
  refine after_team?_bind (fun hnone => (hnone node team hnode hcrew).elim) ?_
  intro node' team' hnode' hcrew'
  obtain rfl := hteam.unique ⟨node', hnode', hcrew'⟩
  exact h

/-- A node that is asked for a tuple, and gives one or none, has a history. -/
lemma gives_asked (hsound : t.ledger.wiring.Sound) (hteam : t.HasTeam q team)
    (hturn : team.nextWorker < team.workers.length) (depth : Nat) :
    (nextNode depth q : Drive σ ω _).Gives t fun given t' =>
      ∃ history, Asked q t history given t' := by
  induction depth generalizing t team with
  | zero => exact gives_endless
  | succ depth ih =>
    obtain ⟨node, hnode, hcrew⟩ := id hteam
    rw [nextNode, nextAt, Act.gives_bind, gives_get]
    simp only [hnode]
    refine Act.gives_bind.mpr (gives_lift.mpr fun _ _ => ?_)
    simp only [hcrew]
    cases hpending : team.pending with
    | cons x rest =>
      exact Act.gives_bind.mpr (gives_modify.mpr
        (gives_pure.mpr ⟨[], .waiting hteam hpending⟩))
    | nil =>
      cases hpick : team.pick? with
      | none => exact gives_pure.mpr ⟨[], .finished hteam hpending hpick⟩
      | some picked =>
        obtain ⟨i, slot⟩ := picked
        refine Act.gives_bind.mpr (Act.gives_bind.mpr (gives_modify.mpr (Act.gives_bind.mpr
          (gives_iff.mpr fun given t₁ hpull => ?_))))
        have hturned := becomes_turned hsound hteam hpick hpull
        cases given with
        | none =>
          refine hturned.hasTeam.gives_bind (Act.gives_bind.mpr (gives_modify.mpr ?_))
          have hclosed := hturned.trans (becomes_closed hturned.hasTeam i)
          refine (gives_tells (i := i) hclosed.hasTeam fun k hk => List.mem_range.mp hk).mono ?_
          rintro _ t₂ ⟨told, htells⟩
          obtain ⟨ws, hserved, hbecomes⟩ := becomes_ended hsound hteam hpick hpull htells
          refine (ih (hbecomes.wiring_eq ▸ hsound) hbecomes.hasTeam ?_).mono ?_
          · exact hserved.length_eq.symm ▸ hturn
          · rintro given t' ⟨history, hagain⟩
            exact ⟨_, .ended hteam hpending hpick hpull htells hagain⟩
        | some x =>
          refine hturned.hasTeam.gives_bind (Act.gives_bind.mpr (gives_modify.mpr ?_))
          have hpassed := hturned.trans (becomes_changeTeam (f := (·.passed)) hturned.hasTeam
            fun _ => ⟨rfl, rfl, rfl⟩)
          refine (gives_takes hpassed.hasTeam hturn _).mono ?_
          rintro _ t₂ ⟨made, -, htakes, -⟩
          obtain ⟨w', -, hbecomes⟩ := becomes_dealt hsound hteam hpick hpull htakes
          refine (ih (hbecomes.wiring_eq ▸ hsound) hbecomes.hasTeam ?_).mono ?_
          · rw [Team.dealt, List.length_set]
            exact Nat.mod_lt _ (Nat.zero_lt_of_lt hturn)
          · rintro given t' ⟨history, hagain⟩
            exact ⟨_, .dealt hteam hpending hpick hpull htakes hagain⟩

/-- A node is asked for a tuple again and again, and gives one or none each time. What happens in
between does not concern it. -/
inductive Called (q : Nat) : Tree σ ω → List (Option Tuple) → Tree σ ω → Prop
  | nil {t : Tree σ ω} : Called q t [] t
  | concat {t t₁ t₂ t' : Tree σ ω} {depth : Nat} {answers : List (Option Tuple)}
      {given : Option Tuple} (before : Called q t answers t₁) (apart : Apart q t₁ t₂)
      (hnext : (nextNode depth q).outcome t₂ = some (.ok given, t')) :
      Called q t (answers ++ [given]) t'

/-- The history of a node that is asked again and again. -/
inductive Watched (q : Nat) : Tree σ ω → List Moment → List (Option Tuple) → Tree σ ω → Prop
  | nil {t : Tree σ ω} : Watched q t [] [] t
  | concat {t t₁ t₂ t' : Tree σ ω} {history more : List Moment}
      {answers : List (Option Tuple)} {given : Option Tuple}
      (before : Watched q t history answers t₁) (apart : Apart q t₁ t₂)
      (asked : Asked q t₂ more given t') :
      Watched q t (history ++ more) (answers ++ [given]) t'

end Tree

end Dataflow
