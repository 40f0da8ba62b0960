import Dataflow.Proofs.Tree.Cleanup
import Dataflow.Proofs.Tree.Delivery
import Mathlib.Data.List.ReduceOption

/-!
# The discipline of a node

How far a team has come with its history is kept along everything that it does. So whenever a node
is asked again and again, from when its team was not fed yet, its inputs are pulled and its workers
are handed what the inputs give as they should, and the node gives what its workers make.
-/

namespace Dataflow

variable {σ ω : Type} {first team : Team ω} {history told : List Moment} {given : List Tuple}
  {i : Nat} {slot : Slot} {x : Tuple}

namespace Team

/-- A team that was not fed yet. -/
structure Unfed (team : Team ω) : Prop where
  nextSlot_eq : team.nextSlot = 0
  nextWorker_eq : team.nextWorker = 0
  pending_eq : team.pending = []
  workers_pos : 0 < team.workers.length
  live : ∀ slot ∈ team.slots, slot.exhausted = false

/-- What a team has become with a history, when some tuples were taken from it. -/
structure Reached [Worker ω] (first : Team ω) (history : List Moment) (given : List Tuple)
    (team : Team ω) : Prop where
  slots_eq : team.slots = first.slots.mapIdx fun i slot =>
    { slot with exhausted := hasEnded i history }
  served : AllTook first.workers history team.workers
  turns : Turns first.slots.length team.nextSlot (pulls history)
  turn_eq : team.nextWorker = (dealtTo history).length % first.workers.length
  deliveries : Deliveries first.slots first.workers.length history
  made_eq : given ++ team.pending = history.flatMap Moment.made

variable [Worker ω]

lemma Unfed.reached (h : first.Unfed) : Reached first [] [] first where
  slots_eq := by
    refine (List.ext_getElem? fun i => ?_)
    rw [List.getElem?_mapIdx]
    cases hslot : first.slots[i]? with
    | none => rfl
    | some slot =>
      have hlive := h.live slot (List.mem_of_getElem? hslot)
      rw [Option.map_some, show hasEnded i [] = slot.exhausted from hlive.symm]
  served := .refl _
  turns := h.nextSlot_eq ▸ .start
  turn_eq := h.nextWorker_eq.trans (Nat.zero_mod _).symm
  deliveries := .nil
  made_eq := h.pending_eq

namespace Reached

lemma workers_eq (h : Reached first history given team) :
    team.workers.length = first.workers.length :=
  h.served.length_eq

lemma live (h : Reached first history given team) (hpick : team.pick? = some (i, slot)) :
    (i, none) ∉ pulls history ∧
      ∃ slot', first.slots[i]? = some slot' ∧ slot'.link = slot.link := by
  obtain ⟨hslot, hlive⟩ := pick?_eq_some hpick
  rw [h.slots_eq, List.getElem?_mapIdx, Option.map_eq_some_iff] at hslot
  obtain ⟨slot', hslot', rfl⟩ := hslot
  exact ⟨hasEnded_eq_false_iff.mp hlive, slot', hslot', rfl⟩

lemma pull (h : Reached first history given team) (hpick : team.pick? = some (i, slot))
    (got : Option Tuple) : Turns first.slots.length ((i + 1) % team.slots.length)
      (pulls history ++ [(i, got)]) := by
  obtain ⟨hlive, slot', hslot', -⟩ := h.live hpick
  have hi := (List.getElem?_eq_some_iff.mp hslot').1
  have hlength : team.slots.length = first.slots.length := by
    rw [h.slots_eq, List.length_mapIdx]
  have hturn := h.turns.place_lt (Nat.zero_lt_of_lt hi)
  rw [hlength]
  refine h.turns.pull hi hlive (fun j hj hlivej => ?_) got
  have hother : team.slots[j]? = some { first.slots[j] with exhausted := false } := by
    rw [h.slots_eq, List.getElem?_mapIdx, List.getElem?_eq_getElem hj, Option.map_some,
      hasEnded_eq_false_iff.mpr hlivej]
  rw [← hlength] at hturn ⊢
  exact ahead_pick? hturn hpick hother rfl

lemma give {rest : List Tuple} (h : Reached first history given team)
    (hpending : team.pending = x :: rest) :
    Reached first history (given ++ [x]) { team with pending := rest } where
  slots_eq := h.slots_eq
  served := h.served
  turns := h.turns
  turn_eq := h.turn_eq
  deliveries := h.deliveries
  made_eq := by
    rw [← h.made_eq, hpending, List.append_assoc]
    rfl

/-- A tuple is dealt to the worker whose turn it is. -/
lemma dealt {w : ω} {made : List Tuple} (h : Reached first history given team)
    (hpick : team.pick? = some (i, slot))
    (hserved : AllTook team.workers
      [.pulled i (some x), .handed i team.nextWorker (.tuple x slot.link) made]
      (team.workers.set team.nextWorker w)) :
    Reached first
      (history ++ [.pulled i (some x), .handed i team.nextWorker (.tuple x slot.link) made]) given
      (team.dealt i w made) where
  slots_eq := by
    have hended (j : Nat) : hasEnded j (history ++
        [.pulled i (some x), .handed i team.nextWorker (.tuple x slot.link) made]) =
          hasEnded j history := by
      rw [hasEnded_append, hasEnded_dealt, Bool.or_false]
    simp only [hended]
    exact h.slots_eq
  served := h.served.trans hserved
  turns := by
    rw [pulls_append]
    exact h.pull hpick (some x)
  turn_eq := by
    rw [dealtTo_append, List.length_append]
    change (team.nextWorker + 1) % team.workers.length =
      ((dealtTo history).length + 1) % first.workers.length
    rw [h.turn_eq, h.workers_eq, Nat.mod_add_mod]
  deliveries := by
    obtain ⟨hlive, slot', hslot', hlink⟩ := h.live hpick
    rw [← hlink]
    exact h.deliveries.deal hslot' hlive h.turn_eq x made
  made_eq := by
    rw [List.flatMap_append, ← h.made_eq, List.append_assoc]
    simp [Team.dealt, Moment.made]

/-- An input has ended, and every worker was told. -/
lemma ended {t t' : Tree σ ω} {q : Nat} {ws : List ω}
    (h : Reached first history given team) (hpick : team.pick? = some (i, slot))
    (htells : Tree.Tells q i slot.link (List.range team.workers.length) t told t')
    (hserved : AllTook team.workers (.pulled i none :: told) ws) :
    Reached first (history ++ .pulled i none :: told) given
      (((team.turned i).closed i).worked ws (told.flatMap Moment.made)) where
  slots_eq := by
    refine List.ext_getElem? fun j => ?_
    have hended : hasEnded j (history ++ .pulled i none :: told) =
        (hasEnded j history || decide (j = i)) := by
      rw [hasEnded_append, htells.hasEnded_eq]
    change (team.slots.modify i _)[j]? = _
    rw [List.getElem?_modify, h.slots_eq, List.getElem?_mapIdx, List.getElem?_mapIdx, hended]
    cases first.slots[j]? with
    | none => rfl
    | some slot => by_cases hij : i = j <;> simp [hij, eq_comm]
  served := h.served.trans hserved
  turns := by
    rw [pulls_append, htells.pulls_ended]
    exact h.pull hpick none
  turn_eq := by
    rw [dealtTo_append, show dealtTo (.pulled i none :: told) = [] from htells.dealtTo_eq,
      List.append_nil]
    exact h.turn_eq
  deliveries := by
    obtain ⟨hlive, slot', hslot', hlink⟩ := h.live hpick
    rw [h.workers_eq, ← hlink] at htells
    exact h.deliveries.finish hslot' hlive htells
  made_eq := by
    rw [List.flatMap_append, ← h.made_eq, List.append_assoc]
    rfl

lemma all_ended (h : Reached first history given team) (hpick : team.pick? = none)
    (hi : i < first.slots.length) : (i, none) ∈ pulls history := by
  have hslot : team.slots[i]? =
      some { first.slots[i] with exhausted := hasEnded i history } := by
    rw [h.slots_eq, List.getElem?_mapIdx, List.getElem?_eq_getElem hi, Option.map_some]
  exact decide_eq_true_iff.mp (pick?_eq_none_iff.mp hpick _ (List.mem_of_getElem? hslot))

end Reached

/-- A team that has nothing left to give. -/
structure Finished (team : Team ω) : Prop where
  pending_eq : team.pending = []
  pick?_eq : team.pick? = none

end Team

namespace Tree

open Act

variable {t t' t₁ : Tree σ ω} {q : Nat} {more : List Moment} {answer : Option Tuple}
  {answers : List (Option Tuple)}

/-- No team of a tree was fed yet. -/
def Unfed (t : Tree σ ω) : Prop :=
  ∀ q team, t.HasTeam q team → team.Unfed

lemma Fresh.unfed (h : t.Fresh) : t.Unfed := by
  rintro q team ⟨node, hnode, hcrew⟩
  have hfresh := (h.nodes node (List.mem_of_getElem? hnode)).crew
  rw [hcrew] at hfresh
  obtain ⟨-, hslot, hworker, hpending, hworkers, hlive⟩ := hfresh
  exact ⟨hslot, hworker, hpending, List.length_pos_iff.mpr hworkers, hlive⟩

lemma Unfed.changeNode {f : Node σ ω → Node σ ω} (h : t.Unfed)
    (hf : ∀ node team, t.nodes[q]? = some node → (f node).crew = .team team →
      node.crew = .team team ∨ team.Unfed) : (t.changeNode q f).Unfed := by
  rintro k team ⟨node', hnode', hcrew⟩
  rw [Tree.changeNode, List.getElem?_modify, Option.map_eq_map, Option.map_eq_some_iff] at hnode'
  obtain ⟨node, hnode, rfl⟩ := hnode'
  by_cases hk : q = k
  · subst hk
    rw [if_pos rfl] at hcrew
    exact (hf node team hnode hcrew).elim (fun hsame => h q team ⟨node, hnode, hsame⟩) id
  · rw [if_neg hk] at hcrew
    exact h k team ⟨node, hnode, hcrew⟩

lemma Unfed.changeTeam {f : Team ω → Team ω} (h : t.Unfed)
    (hf : ∀ team, team.Unfed → (f team).Unfed) : (t.changeTeam q f).Unfed := by
  refine h.changeNode fun node team hnode hcrew => .inr ?_
  cases hold : node.crew with
  | source s started => simp [hold] at hcrew
  | team team₀ =>
    simp only [hold, Crew.team.injEq] at hcrew
    exact hcrew ▸ hf team₀ (h q team₀ ⟨node, hnode, hold⟩)

lemma Unfed.setPhase (h : t.Unfed) (q : Nat) (phase : Phase) :
    (t.changeNode q fun node => { node with phase := phase }).Unfed :=
  h.changeNode fun _ _ _ hcrew => .inl hcrew

lemma Unfed.called (h : t.Unfed) (calls : List Call) : { t with newestCalls := calls }.Unfed :=
  h

variable [Source σ] [Worker ω]

lemma startKeeps_unfed : StartKeeps (Unfed : Tree σ ω → Prop) where
  endpoint ht _ := ht
  team ht _ _ _ := ht.setPhase _ _
  source ht _ _ _ := by
    refine after_modify_bind.mpr (after_callSource.mpr (((ht.setPhase _ _).changeNode ?_).called _))
    intro _ _ _ hcrew
    cases hcrew
  mark ht hf := ht.changeNode fun node team _ hcrew => by
    obtain hsame | ⟨s, started, -, hmarked⟩ := hf node
    · exact .inl (hsame ▸ hcrew)
    · rw [hmarked] at hcrew
      cases hcrew
  worker _ _ _ _ ht := by
    refine after_callWorker.mpr ((ht.changeTeam fun team h => ?_).called _)
    exact { h with workers_pos := by simpa using h.workers_pos }
  count ht := ht.changeTeam fun _ h => { h with }

/-- A node that is asked for a tuple comes as far as the history says. -/
lemma Asked.reached (h : Asked q t more answer t') (hsound : t.ledger.wiring.Sound)
    (hteam : t.HasTeam q team) (hreached : first.Reached history given team) :
    ∃ team', Becomes q team' (more.filterMap (Moment.call? q)) t t' ∧
      first.Reached (history ++ more) (given ++ answer.toList) team' ∧
      (answer = none → team'.Finished) := by
  induction h generalizing history team with
  | @waiting t _ x rest hteam' hpending =>
    obtain rfl := hteam.unique hteam'
    refine ⟨_, becomes_changeTeam hteam fun _ => ⟨rfl, rfl, rfl⟩, ?_, nofun⟩
    rw [List.append_nil]
    exact hreached.give hpending
  | @finished t _ hteam' hpending hpick =>
    obtain rfl := hteam.unique hteam'
    refine ⟨team, ⟨hteam, (List.append_nil _).symm, rfl⟩, ?_, fun _ => ⟨hpending, hpick⟩⟩
    rwa [List.append_nil, Option.toList_none, List.append_nil]
  | @dealt t t₁ t₂ t' _ depth i slot x made more _ hteam' hpending hpick hpull htakes _ ih =>
    obtain rfl := hteam.unique hteam'
    obtain ⟨w', hserved, hbecomes⟩ := becomes_dealt hsound hteam hpick hpull htakes
    obtain ⟨team', hrest, hreached', hfinished⟩ := ih (hbecomes.wiring_eq ▸ hsound)
      hbecomes.hasTeam (hreached.dealt hpick hserved)
    refine ⟨team', hbecomes.trans hrest, ?_, hfinished⟩
    rwa [List.append_assoc] at hreached'
  | @ended t t₁ t₂ t' _ depth i slot told more _ hteam' hpending hpick hpull htells _ ih =>
    obtain rfl := hteam.unique hteam'
    obtain ⟨ws, hserved, hbecomes⟩ := becomes_ended hsound hteam hpick hpull htells
    obtain ⟨team', hrest, hreached', hfinished⟩ := ih (hbecomes.wiring_eq ▸ hsound)
      hbecomes.hasTeam (hreached.ended hpick htells hserved)
    refine ⟨team', ?_, ?_, hfinished⟩
    · rw [List.filterMap_cons, List.filterMap_append]
      exact hbecomes.trans hrest
    · rwa [List.append_assoc] at hreached'

/-- A node whose team has nothing left to give stays as it is when it is asked. -/
lemma Asked.of_finished (h : Asked q t more answer t') (hteam : t.HasTeam q team)
    (hfinished : team.Finished) : more = [] ∧ answer = none := by
  cases h with
  | waiting hteam' hpending =>
    obtain rfl := hteam.unique hteam'
    cases hpending.symm.trans hfinished.pending_eq
  | finished => exact ⟨rfl, rfl⟩
  | dealt hteam' _ hpick | ended hteam' _ hpick =>
    obtain rfl := hteam.unique hteam'
    cases hpick.symm.trans hfinished.pick?_eq

/-- A node that is asked again and again has a history, and comes as far as that says. -/
lemma Called.watched (h : Called q t answers t') (hsound : t.ledger.wiring.Sound)
    (hteam : t.HasTeam q first) (hunfed : first.Unfed) :
    ∃ history team', Watched q t history answers t' ∧
      Becomes q team' (history.filterMap (Moment.call? q)) t t' ∧
      first.Reached history answers.reduceOption team' ∧
      (none ∈ answers → team'.Finished) := by
  induction h with
  | nil =>
    exact ⟨[], first, .nil, ⟨hteam, (List.append_nil _).symm, rfl⟩, hunfed.reached, nofun⟩
  | @concat t₁ t₂ t' depth answers answer _ hapart hnext ih =>
    obtain ⟨history, team, hwatched, hbecomes, hreached, hfinished⟩ := ih
    have hbecomes := hbecomes.trans (hapart.becomes hbecomes.hasTeam)
    rw [List.append_nil] at hbecomes
    have hsound := hbecomes.wiring_eq ▸ hsound
    have hturn : team.nextWorker < team.workers.length := by
      rw [hreached.turn_eq, hreached.workers_eq]
      exact Nat.mod_lt _ hunfed.workers_pos
    obtain ⟨more, hasked⟩ :=
      Act.gives_iff.mp (gives_asked hsound hbecomes.hasTeam hturn depth) _ _ hnext
    obtain ⟨team', hmore, hreached', hnone⟩ := hasked.reached hsound hbecomes.hasTeam hreached
    refine ⟨history ++ more, team', hwatched.concat hapart hasked, ?_, ?_, fun hmem => ?_⟩
    · rw [List.filterMap_append]
      exact hbecomes.trans hmore
    · rw [List.reduceOption_append]
      cases answer <;> exact hreached'
    · rcases List.mem_append.mp hmem with hold | hlast
      · exact hnone (hasked.of_finished hbecomes.hasTeam (hfinished hold)).2
      · exact hnone (List.mem_singleton.mp hlast).symm

/-- A tree that gives all its tuples asks its sink until that answers none. -/
lemma Called.gives_drain {depth rounds : Nat} {given : List Tuple} (h : Called t.root t answers t₁)
    (hroot : t₁.root = t.root) :
    (drain depth rounds given : Drive σ ω (List Tuple)).Gives t₁ fun all t' => ∃ more,
      Called t.root t (answers ++ (more.map some ++ [none])) t' ∧ all = given.reverse ++ more := by
  induction rounds generalizing t₁ answers given with
  | zero => exact gives_endless
  | succ rounds ih =>
    rw [drain, next, bind_assoc, Act.gives_bind, gives_get]
    refine Act.gives_bind.mpr (gives_iff.mpr fun answer t' hnext => ?_)
    have hcalled := h.concat ⟨rfl, rfl⟩ (hroot ▸ hnext)
    have hroot' : t'.root = t.root :=
      (congrArg (·.wiring.root) ((quiet_nextNode depth t₁.root t₁).of_outcome hnext)).trans hroot
    cases answer with
    | none => exact gives_pure.mpr ⟨[], hcalled, (List.append_nil _).symm⟩
    | some x =>
      refine (ih hcalled hroot').mono ?_
      rintro all t'' ⟨more, hmore, rfl⟩
      refine ⟨x :: more, ?_, by simp⟩
      rwa [List.append_assoc] at hmore

end Tree

/-- What a node does with its inputs and workers, and what it answers, is as it should be. -/
structure Discipline (slots : List Slot) (workers : Nat) (history : List Moment)
    (answers : List (Option Tuple)) : Prop extends Deliveries slots workers history where
  once : ∀ i before given after, pulls history = before ++ (i, none) :: after →
    (i, given) ∉ after
  /-- Between two pulls of one input, each other input that had not ended is pulled once. -/
  fair : ∀ i j before given mid given' after,
    pulls history = before ++ (i, given) :: (mid ++ (i, given') :: after) →
    (∀ given, (i, given) ∉ mid) → j < slots.length → j ≠ i → (j, none) ∉ before →
    mid.countP (·.1 = j) = 1
  /-- What is given is made before, and given in the order in which it is made. -/
  given : answers.reduceOption <+: history.flatMap Moment.made
  /-- At the end all that is made is given, and all inputs have ended. -/
  complete : none ∈ answers → answers.reduceOption = history.flatMap Moment.made ∧
    ∀ i < slots.length, (i, none) ∈ pulls history

namespace Tree

variable [Source σ] [Worker ω] {t t' : Tree σ ω} {q : Nat} {answers : List (Option Tuple)}

/-- Whenever a node is asked again and again, from when its team was not fed yet, it has a history
which is as it should be, and its workers got just the calls that are told there. -/
theorem delivery_disciplined (hsound : t.ledger.wiring.Sound) (hteam : t.HasTeam q team)
    (hunfed : team.Unfed) (hcalled : Called q t answers t') :
    ∃ history, Watched q t history answers t' ∧
      t'.callsOf q = t.callsOf q ++ history.filterMap (Moment.call? q) ∧
      Discipline team.slots team.workers.length history answers := by
  obtain ⟨history, team', hwatched, hbecomes, hreached, hfinished⟩ :=
    hcalled.watched hsound hteam hunfed
  refine ⟨history, hwatched, hbecomes.callsOf_eq, { hreached.deliveries with
    once := fun _ _ _ _ => hreached.turns.not_mem_after_end
    fair := fun _ _ _ _ _ _ _ => hreached.turns.fair
    given := ⟨_, hreached.made_eq⟩
    complete := fun hnone => ?_ }⟩
  obtain ⟨hpending, hpick⟩ := hfinished hnone
  refine ⟨?_, fun i => hreached.all_ended hpick⟩
  rw [← hreached.made_eq, hpending, List.append_nil]

end Tree

/-- A join of two tables, with two workers. -/
def unevenJoin : PhysicalPlan where
  root := .node ⟨"join", .join "spans" "spans" 5⟩ 2 [
    .direct ⟨"long", "join"⟩ (.node ⟨"long", .scanSource "long"⟩ 1 []),
    .direct ⟨"short", "join"⟩ (.node ⟨"short", .scanSource "short"⟩ 1 [])]
  connectors := []

/-- Executors of which each source gives the rows of the table with its name, and each worker gives
what it takes in. -/
def ownTables : Registry ScriptedSource ScriptedWorker :=
  .ofList [("ScanSource", fun r => Script.factory (.source { table := some r.operator.id }) r),
    ("Join", Script.factory (.worker {}))]

/-- A row with a name. -/
def namedRow (name : String) : Tuple :=
  ⟨⟨[⟨"name", .string⟩, ⟨"spans", .list⟩], by decide⟩, [.string name, .list []], rfl⟩

/-- A table of three rows and one of one row. -/
def longAndShort : Context where
  config := {}
  catalog := ⟨[("long", ⟨(namedRow "").schema, ["a", "b", "c"].map namedRow, by decide⟩),
    ("short", ⟨(namedRow "").schema, ["d"].map namedRow, by decide⟩)]⟩

/-- A worker of the join takes something in. -/
def takesIn (worker : Nat) (taken : Input) : Call :=
  ⟨2, some worker, .process taken, none⟩

/-- The inputs are pulled by turns until the shorter one has ended, and the workers go on taking
turns when only the longer one is left. -/
theorem unevenJoin_disciplined : ∃ t₀ t t' team history answers,
    unevenJoin.tree? ownTables longAndShort (fun _ => 0) = some (.ok t₀) ∧
    (Tree.start 9).outcome t₀ = some (.ok (), t) ∧
    t.HasTeam 2 team ∧ team.slots.length = 2 ∧ team.workers.length = 2 ∧
    answers = ["a", "d", "b", "c"].map (some ∘ namedRow) ++ [none] ∧
    Tree.Called 2 t answers t' ∧ Tree.Watched 2 t history answers t' ∧
    Discipline team.slots team.workers.length history answers ∧
    history.filterMap (Moment.call? 2) = [
      takesIn 0 (.tuple (namedRow "a") ⟨"long", "join"⟩),
      takesIn 1 (.tuple (namedRow "d") ⟨"short", "join"⟩),
      takesIn 0 (.tuple (namedRow "b") ⟨"long", "join"⟩),
      takesIn 0 (.exhausted ⟨"short", "join"⟩), takesIn 1 (.exhausted ⟨"short", "join"⟩),
      takesIn 1 (.tuple (namedRow "c") ⟨"long", "join"⟩),
      takesIn 0 (.exhausted ⟨"long", "join"⟩), takesIn 1 (.exhausted ⟨"long", "join"⟩)] := by
  have hrun : ((unevenJoin.tree? ownTables longAndShort fun _ => 0).bind fun built =>
      built.toOption.bind fun t₀ => ((Tree.start 9).outcome t₀).bind fun opened =>
      opened.1.toOption.bind fun _ => (opened.2.nodes[2]?).bind fun node =>
      ((Tree.drain 9 9 []).outcome opened.2).bind fun drained => drained.1.toOption.map fun given =>
        (node.crew.supplies.length, node.crew.staff.length, given, opened.2.root,
          (drained.2.callsOf 2).drop (opened.2.callsOf 2).length)) =
      some (2, 2, ["a", "d", "b", "c"].map namedRow, 2, [
        takesIn 0 (.tuple (namedRow "a") ⟨"long", "join"⟩),
        takesIn 1 (.tuple (namedRow "d") ⟨"short", "join"⟩),
        takesIn 0 (.tuple (namedRow "b") ⟨"long", "join"⟩),
        takesIn 0 (.exhausted ⟨"short", "join"⟩), takesIn 1 (.exhausted ⟨"short", "join"⟩),
        takesIn 1 (.tuple (namedRow "c") ⟨"long", "join"⟩),
        takesIn 0 (.exhausted ⟨"long", "join"⟩), takesIn 1 (.exhausted ⟨"long", "join"⟩)]) := by
    decide +kernel
  simp only [Option.bind_eq_some_iff, Option.map_eq_some_iff, toOption_eq_some_iff,
    Prod.mk.injEq] at hrun
  obtain ⟨_, htree, t₀, rfl, ⟨_, t⟩, hstart, _, rfl, node, hnode, ⟨_, t'⟩, hdrain, given, rfl,
    hslots, hworkers, hgiven, hroot, hcalls⟩ := hrun
  have hfresh := PhysicalPlan.fresh_of_tree? htree
  have hunfed := (Tree.startKeeps_unfed.start 9 t₀ hfresh.unfed).of_outcome hstart
  have hadvances := (Tree.advances_start hfresh.orderly).of_outcome hstart
  have hsound : t.ledger.wiring.Sound := hadvances.wiring_eq ▸ hfresh.sound
  obtain ⟨more, hcalled, hmore⟩ :=
    Act.gives_iff.mp (Tree.Called.gives_drain .nil rfl) _ _ hdrain
  rw [hroot] at hcalled
  obtain rfl : given = more := hmore
  match hcrew : node.crew with
  | .source .. => simp [hcrew, Crew.staff] at hworkers
  | .team team =>
    have hteam : t.HasTeam 2 team := ⟨node, hnode, hcrew⟩
    rw [hcrew] at hslots hworkers
    obtain ⟨history, hwatched, hhistory, hdisciplined⟩ :=
      Tree.delivery_disciplined hsound hteam (hunfed 2 team hteam) hcalled
    refine ⟨t₀, t, t', team, history, _, htree, hstart, hteam, ?_, ?_, ?_, hcalled, hwatched,
      hdisciplined, ?_⟩
    · simpa [Crew.supplies] using hslots
    · simpa [Crew.staff] using hworkers
    · simp [hgiven]
    · rw [hhistory, List.drop_left] at hcalls
      exact hcalls

end Dataflow
