import Dataflow.Pattern.Search
import Dataflow.Proofs.Meaning.Runs
import Dataflow.Proofs.Tree.Ends
import Dataflow.Proofs.Twins.Drive

/-!
# Runs of twins

Opening, pulling and closing a node go in step in twins at every depth, and so do whole runs. Trees
that are built from one plan for two standard numbers of workers thus come to the same.
-/

namespace Dataflow

variable {engine : PatternEngine}

open Act

namespace Tree

variable {W : Nat → Option StandardWorker} {m m' : Nat → Nat}
  {t t' u u' : Tree TableScan StandardWorker} {place : Nat} {w : StandardWorker}

/-! ### Opening -/

lemma mirrors_startWorkers_lone (hplace : W place = none) (j : Join) :
    Mirrors (Twins W m m')
      (startWorkers place [(.join j, 0)] : Drive TableScan StandardWorker Unit) := by
  have hcall : Mirrors (Twins W m m')
      (callWorker place 0 (.join j) .start Worker.start : Drive TableScan StandardWorker Unit) :=
    fun t t' h => inStep_callWorker_join h hplace rfl rfl
  apply hcall.bind
  intro _
  refine Mirrors.bind ?_ fun _ => mirrors_pure _
  apply mirrors_changeTeam
  · exact fun team hteam => ⟨hteam.workers, hteam.turn⟩
  · exact fun w team team' hteam => { hteam with }

/-- However many copies of a worker are opened, nothing is seen of it. -/
lemma after_startWorkers_steady (hplace : W place = some w) (ws : List (StandardWorker × Nat))
    (hws : ∀ x ∈ ws, x.1 = w) (h : Twins W m m' t t') :
    (startWorkers place ws).After False t fun found u => found = .ok () ∧ Twins W m m' u t' := by
  induction ws generalizing t with
  | nil => exact after_pure.mpr ⟨rfl, h⟩
  | cons x ws ih =>
    obtain ⟨hx, hrest⟩ := List.forall_mem_cons.mp hws
    obtain ⟨w', i⟩ := x
    obtain rfl : w' = w := hx
    apply (after_callWorker_steady h hplace rfl).bind
    · rintro e u ⟨he, -⟩
      cases he
    · rintro _ u ⟨-, hu⟩
      apply after_modify_bind.mpr
      apply ih hrest
      apply hu.changeTeam_left hplace
      exact fun team team' hteam => { hteam with }

lemma mirrors_startAt {start : Nat → Drive TableScan StandardWorker Unit}
    (hstart : ∀ q, Mirrors (Twins W m m') (start q)) :
    Mirrors (Twins W m m') (startAt start place) := by
  intro t t' h
  have hslots (slots : List Slot) : Mirrors (Twins W m m')
      (slots.forM fun slot => onSupply start Seat.startEndpoint slot.supply) :=
    mirrors_forM slots fun slot =>
      mirrors_onSupply hstart (fun c q i => mirrors_startEndpoint (hstart q) i) slot.supply
  apply inStep_get_bind
  rcases h.cases place with ⟨hnone, hnone'⟩ |
    ⟨operator, schema, phase, crew, crew', hnode, hnode', hcrew⟩
  · rw [hnone, hnone']
    exact inStep_pure h
  · rw [hnode, hnode']
    apply inStep_lift_bind h
    intro opening _
    apply (mirrors_setPhase opening t t' h).bind
    intro _ u u' h
    generalize hw : W place = steady at hcrew
    cases hcrew with
    | source s started =>
      apply (mirrors_callSource hw u u' h).bind
      intro _ v v' h
      apply inStep_modify
      apply h.changeNode
      rintro ⟨operator, schema, phase, crew⟩ ⟨_, _, _, crew'⟩ ⟨rfl, rfl, rfl, hcrew⟩
      rw [hw] at hcrew ⊢
      cases hcrew with
      | source s started => exact ⟨rfl, rfl, rfl, .source s true⟩
      | lone hteam => exact ⟨rfl, rfl, rfl, .lone hteam⟩
    | @lone _ _ team hteam =>
      obtain ⟨j, hj⟩ := hteam.workers
      simp only [hj]
      exact ((hslots team.slots).bind fun _ => mirrors_startWorkers_lone hw j) u u' h
    | @teams w _ _ team team' hteam =>
      simp only [hteam.slots]
      apply (hslots team'.slots u u' h).bind
      intro _ v v' h
      have hcopies (n : Nat) : ∀ x ∈ (List.replicate n w).zipIdx, x.1 = w := by
        intro x hx
        exact List.eq_of_mem_replicate (List.fst_mem_of_mem_zipIdx hx)
      rw [hteam.workers, hteam.workers']
      apply inStep_of_after (after_startWorkers_steady hw _ (hcopies _) h)
      intro x hx
      apply (after_startWorkers_steady hw _ (hcopies _) hx.symm).mono
      exact fun found x' hx' => ⟨hx'.1, hx'.2.symm⟩

/-! ### Pulling -/

lemma mirrors_feed {next : Nat → Drive TableScan StandardWorker (Option Tuple)}
    (hnext : ∀ q, Mirrors (Twins W m m') (next q)) (i : Nat) (slot : Slot) :
    Mirrors (Twins W m m') (feed next place i slot) := by
  have hturn : Mirrors (Twins W m m') (modify (·.changeTeam place fun team =>
      { team with nextSlot := (i + 1) % team.slots.length })) := by
    apply mirrors_changeTeam
    · exact fun team hteam => ⟨hteam.workers, hteam.turn⟩
    · exact fun w team team' hteam => { hteam with nextSlot := by rw [hteam.slots] }
  apply hturn.bind
  intro _
  apply (mirrors_onSupply hnext (fun c q i => mirrors_pull (hnext q) i) slot.supply).bind
  intro given
  cases given with
  | some x => exact mirrors_deal x slot.link
  | none => exact mirrors_exhaust i slot.link

/-- What a team does next depends on what is pending and on the input whose turn it is. -/
lemma mirrors_pending {next : Nat → Drive TableScan StandardWorker (Option Tuple)}
    (hnext : ∀ q, Mirrors (Twins W m m') (next q)) (pending : List Tuple)
    (picked : Option (Nat × Slot)) :
    Mirrors (Twins W m m') (match pending with
      | x :: rest => do
        modify (·.changeTeam place fun team => { team with pending := rest })
        return some x
      | [] =>
        match picked with
        | none => return none
        | some (index, slot) => do
          feed next place index slot
          next place) := by
  cases pending with
  | cons x rest =>
    refine Mirrors.bind ?_ fun _ => mirrors_pure _
    apply mirrors_changeTeam
    · exact fun team hteam => ⟨hteam.workers, hteam.turn⟩
    · exact fun w team team' hteam => { hteam with pending := rfl }
  | nil =>
    cases picked with
    | none => exact mirrors_pure _
    | some found => exact (mirrors_feed hnext found.1 found.2).bind fun _ => hnext place

lemma mirrors_nextAt {next : Nat → Drive TableScan StandardWorker (Option Tuple)}
    (hnext : ∀ q, Mirrors (Twins W m m') (next q)) :
    Mirrors (Twins W m m') (nextAt next place) := by
  intro t t' h
  apply inStep_get_bind
  rcases h.cases place with ⟨hnone, hnone'⟩ |
    ⟨operator, schema, phase, crew, crew', hnode, hnode', hcrew⟩
  · rw [hnone, hnone']
    exact inStep_pure h
  · rw [hnode, hnode']
    apply inStep_lift_bind h
    intro _ _
    generalize hw : W place = steady at hcrew
    cases hcrew with
    | source s started =>
      apply (mirrors_callSource hw t t' h).bind
      intro given u u' h
      apply inStep_modify_bind
      exact inStep_pure (h.congr rfl rfl rfl rfl rfl rfl)
    | @lone _ _ team hteam => exact mirrors_pending hnext team.pending team.pick? t t' h
    | @teams w _ _ team team' hteam =>
      have hpick : team.pick? = team'.pick? := by
        simp only [Team.pick?, hteam.slots, hteam.nextSlot]
      simp only [hteam.pending, hpick]
      exact mirrors_pending hnext team'.pending team'.pick? t t' h

/-! ### Closing -/

/-- Two lists of attempts go in step if they begin with the same ones and their ends do. -/
lemma inStep_tryAll_append (as : List (Drive TableScan StandardWorker Unit))
    (has : ∀ a ∈ as, Mirrors (Twins W m m') a) {bs bs' : List (Drive TableScan StandardWorker Unit)}
    (hbs : ∀ u u', Twins W m m' u u' → InStep (Twins W m m') (tryAll bs) (tryAll bs') u u')
    (h : Twins W m m' t t') :
    InStep (Twins W m m') (tryAll (as ++ bs)) (tryAll (as ++ bs')) t t' := by
  induction as generalizing t t' with
  | nil => exact hbs t t' h
  | cons a as ih =>
    obtain ⟨ha, has⟩ := List.forall_mem_cons.mp has
    apply (ha.attempt t t' h).bind
    intro first u u' h
    apply (ih has h).attempt.bind
    intro others v v' h
    exact ((mirrors_lift first).bind fun _ => mirrors_lift others) v v' h

lemma mirrors_tryAll (as : List (Drive TableScan StandardWorker Unit))
    (has : ∀ a ∈ as, Mirrors (Twins W m m') a) : Mirrors (Twins W m m') (tryAll as) := by
  intro t t' h
  have hempty (u u' : Tree TableScan StandardWorker) (h : Twins W m m' u u') :
      InStep (Twins W m m') (tryAll []) (tryAll []) u u' := inStep_pure h
  simpa using inStep_tryAll_append as has hempty h

lemma after_stopWorker_steady (hplace : W place = some w) (i : Nat) (h : Twins W m m' t t') :
    (stopWorker place i).After False t fun found u => found = .ok () ∧ Twins W m m' u t' := by
  apply after_team?_bind
  · exact fun _ => after_pure.mpr ⟨rfl, h⟩
  · intro node team hnode hteam
    match hworker : team.workers[i]? with
    | none =>
      simp only [hworker]
      exact after_pure.mpr ⟨rfl, h⟩
    | some w' =>
      obtain ⟨⟨f, hw⟩, hcopies⟩ := h.copies hplace hnode hteam
      obtain rfl : w' = w := hcopies w' (List.mem_of_getElem? hworker)
      simp only [hworker]
      exact after_callWorker_steady h hplace hw.stop

lemma mirrors_stopWorker_lone (hplace : W place = none) (i : Nat) :
    Mirrors (Twins W m m') (stopWorker place i : Drive TableScan StandardWorker Unit) := by
  intro t t' h
  apply inStep_team?_bind h
  · exact inStep_pure h
  · intro team _ hteam
    obtain ⟨j, hj⟩ := hteam.workers
    simp only [hj]
    match i with
    | 0 => exact inStep_callWorker_join h hplace rfl rfl
    | i + 1 => exact inStep_pure h
  · intro w team team' hw
    rw [hplace] at hw
    cases hw

/-- However many copies of a worker are closed, nothing is seen of it. -/
lemma after_tryAll_stopWorker (hplace : W place = some w) (workers : List Nat)
    (h : Twins W m m' t t') :
    (tryAll (workers.map (stopWorker place))).After False t fun found u =>
      found = .ok () ∧ Twins W m m' u t' := by
  induction workers generalizing t with
  | nil => exact after_pure.mpr ⟨rfl, h⟩
  | cons i workers ih =>
    apply after_attempt_bind.mpr
    apply (after_stopWorker_steady hplace i h).mono
    rintro _ u ⟨rfl, hu⟩
    apply after_attempt_bind.mpr
    apply (ih hu).mono
    rintro _ v ⟨rfl, hv⟩
    exact ⟨rfl, hv⟩

lemma mirrors_stopAt {stop : Nat → Drive TableScan StandardWorker Unit}
    (hstop : ∀ q, Mirrors (Twins W m m') (stop q)) :
    Mirrors (Twins W m m') (stopAt stop place) := by
  intro t t' h
  have hslots (slots : List Slot) : ∀ a ∈ slots.map fun slot =>
      onSupply stop Seat.stopEndpoint slot.supply, Mirrors (Twins W m m') a := by
    intro a ha
    obtain ⟨slot, -, rfl⟩ := List.mem_map.mp ha
    exact mirrors_onSupply hstop (fun c q i => mirrors_stopEndpoint (hstop q) i) slot.supply
  have hclear : Mirrors (Twins W m m')
      (modify (·.changeTeam place fun team => { team with pending := [] })) := by
    apply mirrors_changeTeam
    · exact fun team hteam => ⟨hteam.workers, hteam.turn⟩
    · exact fun w team team' hteam => { hteam with pending := rfl }
  apply inStep_get_bind
  rcases h.cases place with ⟨hnone, hnone'⟩ |
    ⟨operator, schema, phase, crew, crew', hnode, hnode', hcrew⟩
  · rw [hnone, hnone']
    exact inStep_pure h
  · rw [hnode, hnode']
    apply inStep_lift_bind h
    intro wasOpen _
    apply (mirrors_setPhase .closed t t' h).bind
    intro _ u u' h
    generalize hw : W place = steady at hcrew
    cases hcrew with
    | source s started =>
      simp only
      split_ifs
      · exact mirrors_callSource hw u u' h
      · exact inStep_pure h
    | @lone _ _ team hteam =>
      apply (hclear u u' h).bind
      intro _ v v' h
      apply mirrors_tryAll _ ?_ v v' h
      intro a ha
      rcases List.mem_append.mp ha with ha | ha
      · exact hslots team.slots a ha
      · split_ifs at ha
        · obtain ⟨i, -, rfl⟩ := List.mem_map.mp ha
          exact mirrors_stopWorker_lone hw i
        · exact (List.not_mem_nil ha).elim
    | @teams w _ _ team team' hteam =>
      simp only [hteam.slots]
      apply (hclear u u' h).bind
      intro _ v v' h
      apply inStep_tryAll_append _ (hslots team'.slots) ?_ h
      intro x x' h
      split_ifs
      · apply inStep_of_after (after_tryAll_stopWorker hw _ h)
        intro y hy
        apply (after_tryAll_stopWorker hw _ hy.symm).mono
        exact fun found y' hy' => ⟨hy'.1, hy'.2.symm⟩
      · exact inStep_pure h

/-! ### Whole runs -/

lemma mirrors_startNode (depth place : Nat) :
    Mirrors (Twins W m m') (startNode depth place : Drive TableScan StandardWorker Unit) := by
  induction depth generalizing place with
  | zero => exact mirrors_endless
  | succ depth ih => exact mirrors_startAt ih

lemma mirrors_nextNode (depth place : Nat) :
    Mirrors (Twins W m m')
      (nextNode depth place : Drive TableScan StandardWorker (Option Tuple)) := by
  induction depth generalizing place with
  | zero => exact mirrors_endless
  | succ depth ih => exact mirrors_nextAt ih

lemma mirrors_stopNode (depth place : Nat) :
    Mirrors (Twins W m m') (stopNode depth place : Drive TableScan StandardWorker Unit) := by
  induction depth generalizing place with
  | zero => exact mirrors_endless
  | succ depth ih => exact mirrors_stopAt ih

lemma mirrors_root {α : Type} {onNode : Nat → Drive TableScan StandardWorker α}
    (hnode : ∀ q, Mirrors (Twins W m m') (onNode q)) :
    Mirrors (Twins W m m') (do onNode (← get).root) := by
  intro t t' h
  apply inStep_get_bind
  rw [h.root]
  exact hnode t'.root t t' h

lemma mirrors_drain (depth rounds : Nat) (given : List Tuple) :
    Mirrors (Twins W m m')
      (drain depth rounds given : Drive TableScan StandardWorker (List Tuple)) := by
  induction rounds generalizing given with
  | zero => exact mirrors_endless
  | succ rounds ih =>
    have hnext : Mirrors (Twins W m m')
        (next depth : Drive TableScan StandardWorker (Option Tuple)) :=
      mirrors_root (mirrors_nextNode depth)
    apply hnext.bind
    intro found
    cases found with
    | some x => exact ih (x :: given)
    | none => exact mirrors_pure _

/-- A whole run goes in step. -/
theorem mirrors_complete (depth : Nat) :
    Mirrors (Twins W m m')
      (complete depth : Drive TableScan StandardWorker (List Tuple)) := by
  have hstart : Mirrors (Twins W m m') (start depth : Drive TableScan StandardWorker Unit) :=
    mirrors_root (mirrors_startNode depth)
  have hstop : Mirrors (Twins W m m') (stop depth : Drive TableScan StandardWorker Unit) :=
    mirrors_root (mirrors_stopNode depth)
  refine (hstart.bind fun _ => mirrors_drain depth depth []).attempt.bind fun drained => ?_
  refine hstop.attempt.bind fun stopped => ?_
  split
  · exact mirrors_pure _
  · refine Mirrors.bind ?_ fun _ => mirrors_throw _
    exact mirrors_modify fun _ _ h => h.congr rfl rfl rfl rfl rfl rfl

end Tree

/-! ### Trees of one plan -/

namespace Tree

/-- Building was refused for the same reason, or twins were built. -/
def BuiltAlike : Result (Tree TableScan StandardWorker) → Result (Tree TableScan StandardWorker) →
    Prop
  | .error e, .error e' => e = e'
  | .ok t, .ok t' => ∃ W m m', Twins W m m' t t'
  | _, _ => False

lemma Twins.schema_eq (h : Twins W m m' t t') :
    t.sink?.map Node.schema = t'.sink?.map Node.schema := by
  unfold sink?
  rw [← h.root]
  rcases h.cases t.root with ⟨hnone, hnone'⟩ | ⟨_, _, _, _, _, hnode, hnode', -⟩
  · rw [hnone, hnone']
  · rw [hnode, hnode']
    rfl

/-- The sizes of all teams, and the workers of those that may differ, can be told from a tree that
is built. -/
lemma exists_twins {s s' : Scaffold TableScan StandardWorker} (h : s.Twins s')
    (root : Nat) (junctions : List Junction) (clock clock' : Nat → Nat) :
    ∃ W m m', Twins W m m'
      { nodes := s.nodes, junctions, root, metrics := .empty, clock }
      { nodes := s'.nodes, junctions, root, metrics := .empty, clock := clock' } := by
  have hnodes (place : Nat) : ∃ steady size size',
      Option.Rel (Node.Twins steady size size') s.nodes[place]? s'.nodes[place]? := by
    have hnodes := h.nodes
    generalize s.nodes = nodes at hnodes ⊢
    generalize s'.nodes = nodes' at hnodes ⊢
    induction hnodes generalizing place with
    | nil => exact ⟨none, 0, 0, .none⟩
    | cons hnode _ ih =>
      cases place with
      | zero =>
        obtain ⟨steady, size, size', hnode⟩ := hnode
        exact ⟨steady, size, size', .some hnode⟩
      | succ place => exact ih place
  choose W m m' hW using hnodes
  exact ⟨W, m, m', hW, rfl, rfl⟩

end Tree

lemma PhysicalPlan.tree?_staff (engine : PatternEngine) {p : PhysicalPlan}
    (hkinds : ∀ m ∈ p.nodes, m.operator.kind.countsWords = false) (standard standard' : Nat)
    (config config' : Config) (catalog : Catalog) (clock clock' : Nat → Nat) :
    Option.Rel Tree.BuiltAlike
      ((p.staff standard).tree? (.standard engine) ⟨config, catalog⟩ clock)
      ((p.staff standard').tree? (.standard engine) ⟨config', catalog⟩ clock') := by
  have hstart : Scaffold.Twins
      ⟨[], (p.staff standard).connectors.map fun _ => none⟩
      ⟨[], (p.staff standard').connectors.map fun _ => none⟩ := by
    refine ⟨.nil, ?_⟩
    simp [PhysicalPlan.staff]
  have hbuild : InStep Scaffold.Twins
      (Scaffold.buildPlan (.standard engine) ⟨config, catalog⟩ (p.staff standard))
      (Scaffold.buildPlan (.standard engine) ⟨config', catalog⟩ (p.staff standard')) _ _ :=
    Scaffold.inStep_buildPlan hkinds hstart
  unfold InStep at hbuild
  rw [tree?, tree?]
  simp only [Option.bind_eq_bind]
  revert hbuild
  cases (Scaffold.buildPlan (.standard engine) ⟨config, catalog⟩
      (p.staff standard)).outcome _ <;>
    cases (Scaffold.buildPlan (.standard engine) ⟨config', catalog⟩
      (p.staff standard')).outcome _ <;>
    intro hbuild <;> cases hbuild
  · exact .none
  · rename_i x y hxy
    obtain ⟨result, s⟩ := x
    obtain ⟨result', s'⟩ := y
    obtain ⟨rfl, htwins⟩ := hxy
    cases result with
    | error e => exact .some rfl
    | ok built => exact .some (Tree.exists_twins htwins built.1 built.2 clock clock')

/-- With the same engine for patterns, neither planning nor building nor a run depends on the
standard number of workers, if no operator counts words: what is refused for one number is refused
for the other one for the same reason, and runs of both trees give the same tuples in the same
order, or fail in the same way. -/
theorem ValidPlan.workers_keep_outcomes (engine : PatternEngine) (v : ValidPlan)
    (hkinds : ∀ operator ∈ v.plan.operators, operator.kind.countsWords = false)
    (workers workers' : Nat) (config config' : Config) (catalog : Catalog)
    (clock clock' : Nat → Nat) :
    match v.physical workers, v.physical workers' with
    | .error e, .error e' => e = e'
    | .ok physical, .ok physical' =>
      match physical.tree? (.standard engine) ⟨config, catalog⟩ clock,
        physical'.tree? (.standard engine) ⟨config', catalog⟩ clock' with
      | some (.error e), some (.error e') => e = e'
      | some (.ok t), some (.ok t') =>
        t.sink?.map Node.schema = t'.sink?.map Node.schema ∧
          ∀ depth, ((Tree.complete depth).outcome t).map Prod.fst =
            ((Tree.complete depth).outcome t').map Prod.fst
      | _, _ => False
    | _, _ => False := by
  have hworkers := v.physical_eq_map_staff workers 0
  have hworkers' := v.physical_eq_map_staff workers' 0
  match hphysical : v.physical 0 with
  | .error e =>
    rw [hphysical] at hworkers hworkers'
    rw [hworkers, hworkers']
    rfl
  | .ok p =>
    rw [hphysical] at hworkers hworkers'
    simp only [hworkers, hworkers', Result.map_ok]
    have hnodes : ∀ m ∈ p.nodes, m.operator.kind.countsWords = false := by
      intro m hm
      apply hkinds
      have hperm := (realizes_of_physical hphysical).nodes_perm
      exact hperm.mem_iff.mp (List.mem_map_of_mem hm)
    have hgrounded := (realizes_of_physical hworkers).grounded (Plan.holds_of_valid v .acyclic)
    have hsome : ((p.staff workers).tree? (.standard engine) ⟨config, catalog⟩ clock).isSome :=
      hgrounded.isSome_tree?
    have halike :=
      PhysicalPlan.tree?_staff engine hnodes workers workers' config config' catalog clock clock'
    generalize (p.staff workers).tree? (.standard engine) ⟨config, catalog⟩ clock = built
      at hsome halike ⊢
    generalize (p.staff workers').tree? (.standard engine) ⟨config', catalog⟩ clock' = built'
      at halike ⊢
    cases halike with
    | none => cases hsome
    | @some built built' halike =>
      match built, built' with
      | .error e, .error e' => exact halike
      | .ok t, .ok t' =>
        obtain ⟨W, m, m', htwins⟩ := halike
        exact ⟨htwins.schema_eq, fun depth => (Tree.mirrors_complete depth t t' htwins).outcome_eq⟩

/-- The texts with two words near each other are found alike with no worker asked for and with
three. -/
theorem nearWords_same_for_three_workers : ∃ physical physical' t t' given,
    nearWordsPlan.physical 0 = .ok physical ∧ nearWordsPlan.physical 3 = .ok physical' ∧
    physical.tree? (.standard Pattern.engine) twoTexts (fun _ => 0) = some (.ok t) ∧
    physical'.tree? (.standard Pattern.engine) twoTexts id = some (.ok t') ∧
    given.map Tuple.fields = [[.integer 1, .text "to be", .list [⟨"text", 0, 2, "to", "to"⟩],
      .list [⟨"text", 3, 5, "be", "be"⟩]]] ∧
    ((Tree.complete 30).outcome t).map Prod.fst = some (.ok given) ∧
    ((Tree.complete 30).outcome t').map Prod.fst = some (.ok given) := by
  have hrun : ((nearWordsPlan.physical 0).toOption.bind fun physical =>
      (physical.tree? (.standard Pattern.engine) twoTexts fun _ => 0).bind fun built =>
        built.toOption.bind fun t => ((Tree.complete 30).outcome t).bind fun run =>
          run.1.toOption.map (List.map Tuple.fields)) = some [[.integer 1, .text "to be",
            .list [⟨"text", 0, 2, "to", "to"⟩], .list [⟨"text", 3, 5, "be", "be"⟩]]] := by
    decide +kernel
  simp only [Option.bind_eq_some_iff, Option.map_eq_some_iff, toOption_eq_some_iff] at hrun
  obtain ⟨physical, hphysical, _, htree, t, rfl, ⟨_, _⟩, hcomplete, given, rfl, hfields⟩ := hrun
  have hkinds : ∀ operator ∈ nearWordsPlan.plan.operators, operator.kind.countsWords = false := by
    decide
  -- Nothing more is to be evaluated.
  generalize nearWordsPlan = v at hphysical hkinds ⊢
  have hsame :=
    v.workers_keep_outcomes Pattern.engine hkinds 0 3 {} {} twoTexts.catalog (fun _ => 0) id
  have hcontext : (⟨{}, twoTexts.catalog⟩ : Context) = twoTexts := rfl
  rw [hcontext] at hsame
  rw [hphysical] at hsame
  match hphysical' : v.physical 3 with
  | .error e =>
    rw [hphysical'] at hsame
    exact hsame.elim
  | .ok physical' =>
    rw [hphysical'] at hsame
    simp only [htree] at hsame
    match htree' : physical'.tree? (.standard Pattern.engine) twoTexts id with
    | none =>
      rw [htree'] at hsame
      exact hsame.elim
    | some (.error e) =>
      rw [htree'] at hsame
      exact hsame.elim
    | some (.ok t') =>
      rw [htree'] at hsame
      have hgiven : ((Tree.complete 30).outcome t).map Prod.fst = some (.ok given) := by
        rw [hcomplete]
        rfl
      exact ⟨physical, physical', t, t', given, hphysical, rfl, htree, htree', hfields,
        hgiven, (hsame.2 30).symm.trans hgiven⟩

end Dataflow
