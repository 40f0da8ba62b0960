import Dataflow.Proofs.Tree.Pull
import Dataflow.Proofs.Twins.Build

/-!
# Driving twins

Twins go in step: whatever is done to both of them succeeds or fails in both, with the same outcome,
and leaves twins behind. Where a node has one worker, both do the same. Where a team looks at tuples
one by one, a tuple is dealt to different workers, but these are copies of each other; that all
workers of a team are opened, told of an end and closed changes nothing, however many there are.
-/

namespace Dataflow

namespace Tree

open Act

/-- Trees that are the same apart from the number of workers. The size of a team and its worker
stay what they are. -/
structure Twins (W : Nat → Option StandardWorker) (m m' : Nat → Nat)
    (t t' : Tree TableScan StandardWorker) : Prop where
  nodes : ∀ place, Option.Rel (Node.Twins (W place) (m place) (m' place)) t.nodes[place]?
    t'.nodes[place]?
  junctions : t.junctions = t'.junctions
  root : t.root = t'.root

variable {W : Nat → Option StandardWorker} {m m' : Nat → Nat}
  {t t' u u' : Tree TableScan StandardWorker} {place : Nat} {α β : Type}

lemma changeTeam_id (t : Tree TableScan StandardWorker) (place : Nat) :
    t.changeTeam place id = t := by
  calc t.changeTeam place id
    _ = t.changeNode place id := by
      apply congrArg (t.changeNode place)
      funext node
      obtain ⟨operator, schema, phase, crew⟩ := node
      cases crew <;> rfl
    _ = t := by rw [Tree.changeNode, List.modify_id]

namespace Twins

lemma congr (h : Twins W m m' t t') (hnodes : u.nodes = t.nodes)
    (hjunctions : u.junctions = t.junctions) (hroot : u.root = t.root)
    (hnodes' : u'.nodes = t'.nodes) (hjunctions' : u'.junctions = t'.junctions)
    (hroot' : u'.root = t'.root) : Twins W m m' u u' where
  nodes place := by
    rw [hnodes, hnodes']
    exact h.nodes place
  junctions := by rw [hjunctions, hjunctions', h.junctions]
  root := by rw [hroot, hroot', h.root]

/-- A place is left empty in both trees, or its nodes only differ in their crews. -/
lemma cases (h : Twins W m m' t t') (place : Nat) :
    (t.nodes[place]? = none ∧ t'.nodes[place]? = none) ∨
      ∃ operator schema phase crew crew', t.nodes[place]? = some ⟨operator, schema, phase, crew⟩ ∧
        t'.nodes[place]? = some ⟨operator, schema, phase, crew'⟩ ∧
        Crew.Twins (W place) (m place) (m' place) crew crew' := by
  have hnodes := h.nodes place
  revert hnodes
  cases t.nodes[place]? <;> cases t'.nodes[place]? <;> intro hnodes <;> cases hnodes
  · exact .inl ⟨rfl, rfl⟩
  · rename_i node node' hnodes
    obtain ⟨operator, schema, phase, crew⟩ := node
    obtain ⟨_, _, _, crew'⟩ := node'
    obtain ⟨rfl, rfl, rfl, hcrew⟩ := hnodes
    exact .inr ⟨_, _, _, _, _, rfl, rfl, hcrew⟩

/-- The workers of a team that may differ in size are copies of one. -/
lemma copies (h : Twins W m m' t t') {w : StandardWorker} (hplace : W place = some w)
    {node : Node TableScan StandardWorker} {team : Team StandardWorker}
    (hnode : t.nodes[place]? = some node) (hteam : node.crew = .team team) :
    (∃ f, w.Applies f) ∧ ∀ w' ∈ team.workers, w' = w := by
  rcases h.cases place with ⟨hnone, -⟩ | ⟨_, _, _, crew, crew', hnode', -, hcrew⟩
  · rw [hnone] at hnode
    cases hnode
  · rw [hnode', Option.some.injEq] at hnode
    obtain rfl : crew = .team team := hteam ▸ hnode ▸ rfl
    rw [hplace] at hcrew
    cases hcrew with
    | teams htwins =>
      refine ⟨htwins.applies, fun w' hw' => ?_⟩
      rw [htwins.workers] at hw'
      exact List.eq_of_mem_replicate hw'

lemma changeNode (h : Twins W m m' t t') {f g : Node TableScan StandardWorker → _}
    (hfg : ∀ a b, Node.Twins (W place) (m place) (m' place) a b →
      Node.Twins (W place) (m place) (m' place) (f a) (g b)) :
    Twins W m m' (t.changeNode place f) (t'.changeNode place g) where
  nodes q := by
    simp only [Tree.changeNode, List.getElem?_modify]
    by_cases hq : place = q
    · subst hq
      rcases h.cases place with ⟨hnone, hnone'⟩ | ⟨_, _, _, _, _, hnode, hnode', hcrew⟩
      · rw [hnone, hnone']
        exact .none
      · simp only [hnode, hnode', if_true]
        exact .some (hfg _ _ ⟨rfl, rfl, rfl, hcrew⟩)
    · simpa [hq] using h.nodes q
  junctions := h.junctions
  root := h.root

lemma changeTeam (h : Twins W m m' t t') {f g : Team StandardWorker → Team StandardWorker}
    (hlone : W place = none → ∀ team, team.IsLone → (f team).IsLone ∧ f team = g team)
    (hteams : ∀ w team team', W place = some w → team.Twins w (m place) (m' place) team' →
      (f team).Twins w (m place) (m' place) (g team')) :
    Twins W m m' (t.changeTeam place f) (t'.changeTeam place g) := by
  apply h.changeNode
  rintro ⟨operator, schema, phase, crew⟩ ⟨_, _, _, crew'⟩ ⟨rfl, rfl, rfl, hcrew⟩
  dsimp only at hcrew
  generalize hw : W place = steady at hcrew
  cases hcrew with
  | source s started => exact ⟨rfl, rfl, rfl, .source s started⟩
  | lone hteam =>
    obtain ⟨hf, heq⟩ := hlone hw _ hteam
    refine ⟨rfl, rfl, rfl, ?_⟩
    simp only [← heq]
    exact .lone hf
  | teams hteam => exact ⟨rfl, rfl, rfl, .teams (hteams _ _ _ hw hteam)⟩

/-- The team of one tree alone may change if it stays the twin of the other one. -/
lemma changeTeam_left (h : Twins W m m' t t') {w : StandardWorker} (hplace : W place = some w)
    {f : Team StandardWorker → Team StandardWorker}
    (hf : ∀ team team', team.Twins w (m place) (m' place) team' →
      (f team).Twins w (m place) (m' place) team') :
    Twins W m m' (t.changeTeam place f) t' := by
  rw [← changeTeam_id t' place]
  apply h.changeTeam
  · intro hnone
    rw [hplace] at hnone
    cases hnone
  · intro w' team team' hw' hteam
    obtain rfl : w = w' := Option.some.inj (hplace.symm.trans hw')
    exact hf team team' hteam

lemma symm (h : Twins W m m' t t') : Twins W m' m t' t where
  nodes place := by
    rcases h.cases place with ⟨hnone, hnone'⟩ | ⟨_, _, _, _, _, hnode, hnode', hcrew⟩
    · rw [hnone, hnone']
      exact .none
    · rw [hnode, hnode']
      exact .some ⟨rfl, rfl, rfl, hcrew.symm⟩
  junctions := h.junctions.symm
  root := h.root.symm

end Twins

section Calls

variable {event : Event}

lemma mirrors_setPhase (phase : Phase) : Mirrors (Twins W m m') (setPhase place phase) := by
  apply mirrors_modify
  intro t t' h
  apply h.changeNode
  exact fun a b hnodes => { hnodes with phase := rfl }

/-- The same is done to the source of a node in both trees. -/
lemma mirrors_callSource (hplace : W place = none) {s : TableScan} {started : Bool}
    {f : TableScan → Result α × TableScan} :
    Mirrors (Twins W m m') (callSource place s started event f) := by
  intro t t' h
  apply inStep_modify_bind
  apply inStep_lift
  have hchange : Twins W m m'
      (t.changeNode place fun node => { node with crew := .source (f s).2 started })
      (t'.changeNode place fun node => { node with crew := .source (f s).2 started }) := by
    apply h.changeNode
    intro a b hnodes
    rw [hplace]
    exact ⟨hnodes.operator, hnodes.schema, hnodes.phase, .source (f s).2 started⟩
  exact hchange.congr rfl rfl rfl rfl rfl rfl

/-- The same is done to the only worker of a node in both trees. -/
lemma inStep_callWorker_join (h : Twins W m m' t t') (hplace : W place = none) {j : Join}
    {result : Result α} {i : Nat} {w : StandardWorker}
    {f g : StandardWorker → Result α × StandardWorker} (hf : f w = (result, .join j))
    (hg : g w = (result, .join j)) :
    InStep (Twins W m m') (callWorker place i w event f) (callWorker place i w event g) t t' := by
  unfold callWorker
  rw [hf, hg]
  apply inStep_modify_bind
  apply inStep_lift
  have hchange : Twins W m m'
      (t.changeTeam place fun team => { team with workers := team.workers.set i (.join j) })
      (t'.changeTeam place fun team => { team with workers := team.workers.set i (.join j) }) := by
    apply h.changeTeam
    · intro _ team hteam
      obtain ⟨j', hj'⟩ := hteam.workers
      refine ⟨⟨?_, hteam.turn⟩, rfl⟩
      rw [hj']
      cases i with
      | zero => exact ⟨j, rfl⟩
      | succ i => exact ⟨j', rfl⟩
    · intro w' _ _ hw'
      rw [hplace] at hw'
      cases hw'
  exact hchange.congr rfl rfl rfl rfl rfl rfl

/-- Nothing is seen of a call that a copy of a worker gets and that leaves it as it is. -/
lemma after_callWorker_steady (h : Twins W m m' t t') {w : StandardWorker}
    (hplace : W place = some w) {result : Result α} {i : Nat}
    {f : StandardWorker → Result α × StandardWorker} (hf : f w = (result, w)) :
    (callWorker place i w event f).After False t fun found u =>
      found = result ∧ Twins W m m' u t' := by
  rw [after_callWorker, hf]
  have hchange : Twins W m m'
      (t.changeTeam place fun team => { team with workers := team.workers.set i w }) t' := by
    apply h.changeTeam_left hplace
    intro team team' hteam
    refine { hteam with workers := ?_ }
    simp [hteam.workers]
  exact ⟨rfl, hchange.congr rfl rfl rfl rfl rfl rfl⟩

end Calls

lemma inStep_now_bind (h : Twins W m m' t t') {f g : Nat → Drive TableScan StandardWorker α}
    (hnext : ∀ time time' u u', Twins W m m' u u' →
      InStep (Twins W m m') (f time) (g time') u u') :
    InStep (Twins W m m') (now >>= f) (now >>= g) t t' := by
  unfold InStep
  rw [outcome_bind, outcome_bind]
  exact hnext _ _ _ _ (h.congr rfl rfl rfl rfl rfl rfl)

lemma mirrors_keep (given : List Tuple) (measurement : Measurement) :
    Mirrors (Twins W m m') (modify fun t => (t.changeTeam place fun team =>
      { team with pending := team.pending ++ given }).measure measurement) := by
  apply mirrors_modify
  intro t t' h
  have hchange : Twins W m m'
      (t.changeTeam place fun team => { team with pending := team.pending ++ given })
      (t'.changeTeam place fun team => { team with pending := team.pending ++ given }) := by
    apply h.changeTeam
    · exact fun _ team hteam => ⟨⟨hteam.workers, hteam.turn⟩, rfl⟩
    · exact fun _ _ _ _ hteam => { hteam with pending := by rw [hteam.pending] }
  exact hchange.congr rfl rfl rfl rfl rfl rfl

lemma mirrors_deliver_lone (hplace : W place = none) (i : Nat) (input : Input) :
    Mirrors (Twins W m m') (deliver place i input : Drive TableScan StandardWorker Unit) := by
  intro t t' h
  apply inStep_get_bind
  rcases h.cases place with ⟨hnone, hnone'⟩ |
    ⟨operator, schema, phase, crew, crew', hnode, hnode', hcrew⟩
  · rw [hnone, hnone']
    exact inStep_pure h
  · rw [hnode, hnode']
    rw [hplace] at hcrew
    cases hcrew with
    | source s started => exact inStep_pure h
    | lone hteam =>
      obtain ⟨j, hj⟩ := hteam.workers
      simp only [hj]
      match i with
      | 0 =>
        apply inStep_now_bind h
        intro time time' u u' h
        apply (inStep_callWorker_join h hplace rfl rfl).bind
        intro given v v' h
        exact mirrors_keep given _ _ _ h
      | i + 1 => exact inStep_pure h

/-- A tuple is dealt to copies of one worker, which give the same. -/
lemma inStep_deliver_tuple (h : Twins W m m' t t') {w : StandardWorker} (hplace : W place = some w)
    {i i' : Nat} (hi : i < m place) (hi' : i' < m' place) (x : Tuple) (link : Link) :
    InStep (Twins W m m') (deliver place i (.tuple x link)) (deliver place i' (.tuple x link))
      t t' := by
  apply inStep_get_bind
  rcases h.cases place with ⟨hnone, hnone'⟩ |
    ⟨operator, schema, phase, crew, crew', hnode, hnode', hcrew⟩
  · rw [hnone, hnone']
    exact inStep_pure h
  · rw [hnode, hnode']
    rw [hplace] at hcrew
    cases hcrew with
    | teams hteam =>
      obtain ⟨f, hw⟩ := hteam.applies
      have hworker := List.getElem?_replicate_of_lt (a := w) hi
      have hworker' := List.getElem?_replicate_of_lt (a := w) hi'
      simp only [hteam.workers, hteam.workers', hworker, hworker']
      apply inStep_now_bind h
      intro time time' u u' h
      have hcall : InStep (Twins W m m')
          (callWorker place i w (.process (.tuple x link)) (Worker.process time (.tuple x link)))
          (callWorker place i' w (.process (.tuple x link)) (Worker.process time' (.tuple x link)))
          u u' := by
        apply inStep_of_after (after_callWorker_steady h hplace (hw.tuple time x link))
        intro v hv
        apply (after_callWorker_steady hv.symm hplace (hw.tuple time' x link)).mono
        exact fun found v' hv' => ⟨hv'.1, hv'.2.symm⟩
      apply hcall.bind
      intro given v v' h
      exact mirrors_keep given _ _ _ h

/-- That a copy of a worker is told of an end is not seen. -/
lemma after_deliver_exhausted (h : Twins W m m' t t') {w : StandardWorker}
    (hplace : W place = some w) (i : Nat) (link : Link) :
    (deliver place i (.exhausted link)).After False t fun found u =>
      found = .ok () ∧ Twins W m m' u t' := by
  apply after_handed
  · exact fun _ => ⟨rfl, h⟩
  intro node team w' hnode hcrew hworker
  obtain ⟨⟨f, hw⟩, hcopies⟩ := h.copies hplace hnode hcrew
  obtain rfl : w' = w := hcopies w' (List.mem_of_getElem? hworker)
  have hnow : Twins W m m' { t with readings := t.readings + 1 } t' :=
    h.congr rfl rfl rfl rfl rfl rfl
  apply (after_callWorker_steady hnow hplace (hw.exhausted _ link)).mono
  rintro _ u ⟨rfl, hu⟩
  have hkeep : Twins W m m'
      (u.changeTeam place fun team => { team with pending := team.pending ++ [] }) t' := by
    apply hu.changeTeam_left hplace
    intro team team' hteam
    exact { hteam with pending := (List.append_nil _).trans hteam.pending }
  exact ⟨rfl, hkeep.congr rfl rfl rfl rfl rfl rfl⟩

/-- A node has no team in both trees, or has teams that are twins. -/
lemma inStep_team?_bind (h : Twins W m m' t t')
    {f g : Option (Team StandardWorker) → Drive TableScan StandardWorker α}
    (hnone : InStep (Twins W m m') (f none) (g none) t t')
    (hlone : ∀ team, W place = none → team.IsLone →
      InStep (Twins W m m') (f (some team)) (g (some team)) t t')
    (hteams : ∀ w team team', W place = some w → team.Twins w (m place) (m' place) team' →
      InStep (Twins W m m') (f (some team)) (g (some team')) t t') :
    InStep (Twins W m m') (team? place >>= f) (team? place >>= g) t t' := by
  unfold InStep
  rw [outcome_bind, outcome_bind, team?, outcome_bind, outcome_bind, outcome_get, outcome_get,
    andThen, andThen]
  rcases h.cases place with ⟨hno, hno'⟩ | ⟨_, _, _, crew, crew', hnode, hnode', hcrew⟩
  · rw [hno, hno']
    exact hnone
  · rw [hnode, hnode']
    generalize hw : W place = steady at hcrew
    cases hcrew with
    | source s started => exact hnone
    | lone hteam => exact hlone _ hw hteam
    | teams hteam => exact hteams _ _ _ hw hteam

lemma mirrors_changeTeam {f : Team StandardWorker → Team StandardWorker}
    (hlone : ∀ team, team.IsLone → (f team).IsLone)
    (hteams : ∀ w team team', team.Twins w (m place) (m' place) team' →
      (f team).Twins w (m place) (m' place) (f team')) :
    Mirrors (Twins W m m') (modify (·.changeTeam place f)) := by
  apply mirrors_modify
  intro t t' h
  apply h.changeTeam
  · exact fun _ team hteam => ⟨hlone team hteam, rfl⟩
  · exact fun w team team' _ hteam => hteams w team team' hteam

lemma mirrors_turn :
    Mirrors (Twins W m m') (modify (·.changeTeam place fun team =>
      { team with nextWorker := (team.nextWorker + 1) % team.workers.length })) := by
  apply mirrors_changeTeam
  · intro team hteam
    obtain ⟨j, hj⟩ := hteam.workers
    refine ⟨hteam.workers, ?_⟩
    simp [hj, Nat.mod_one]
  · intro w team team' hteam
    refine { hteam with turn := ?_, turn' := ?_ }
    · simp only [hteam.workers, List.length_replicate]
      exact Nat.mod_lt _ hteam.turn.pos
    · simp only [hteam.workers', List.length_replicate]
      exact Nat.mod_lt _ hteam.turn'.pos

/-- A tuple is dealt to the worker whose turn it is in each of the trees. -/
lemma mirrors_deal (x : Tuple) (link : Link) :
    Mirrors (Twins W m m') (deal place x link : Drive TableScan StandardWorker Unit) := by
  intro t t' h
  apply inStep_team?_bind h
  · exact inStep_pure h
  · intro team hplace hteam
    exact (mirrors_turn.bind fun _ => mirrors_deliver_lone hplace _ _) t t' h
  · intro w team team' hplace hteam
    apply (mirrors_turn t t' h).bind
    intro _ u u' h
    exact inStep_deliver_tuple h hplace hteam.turn hteam.turn' x link

/-- All workers of a team are told of an end, however many there are. -/
lemma after_forM_exhausted {w : StandardWorker} (hplace : W place = some w) (link : Link)
    (workers : List Nat) (h : Twins W m m' t t') :
    (workers.forM fun i => deliver place i (.exhausted link)).After False t fun found u =>
      found = .ok () ∧ Twins W m m' u t' := by
  apply After.forM (I := fun _ u => Twins W m m' u t') h
  · intro i _ u _ hu
    apply (after_deliver_exhausted hu hplace i link).mono
    rintro found v ⟨rfl, hv⟩
    exact hv
  · exact fun u hu => ⟨rfl, hu⟩

lemma mirrors_exhaust (i : Nat) (link : Link) :
    Mirrors (Twins W m m') (exhaust place i link : Drive TableScan StandardWorker Unit) := by
  have hend : Mirrors (Twins W m m') (modify (·.changeTeam place fun team => { team with
      slots := team.slots.modify i fun slot => { slot with exhausted := true } })) := by
    apply mirrors_changeTeam
    · exact fun team hteam => ⟨hteam.workers, hteam.turn⟩
    · exact fun w team team' hteam => { hteam with slots := by rw [hteam.slots] }
  intro t t' h
  apply inStep_team?_bind h
  · exact inStep_pure h
  · intro team hplace hteam
    exact (hend.bind fun _ => mirrors_forM _ fun j => mirrors_deliver_lone hplace j _) t t' h
  · intro w team team' hplace hteam
    apply (hend t t' h).bind
    intro _ u u' h
    apply inStep_of_after (after_forM_exhausted hplace link _ h)
    intro v hv
    apply (after_forM_exhausted hplace link _ hv.symm).mono
    exact fun found v' hv' => ⟨hv'.1, hv'.2.symm⟩

section Supplies

variable {c : ConnectorId}

lemma Twins.read_eq (h : Twins W m m' t t') (c : ConnectorId) :
    (seat c).read t = (seat c).read t' := by
  simp only [seat, h.junctions]

lemma Twins.write (h : Twins W m m' t t') (c : ConnectorId) (con : Connector) :
    Twins W m m' ((seat c).write con t) ((seat c).write con t') where
  nodes := h.nodes
  junctions := by simp only [seat, h.junctions]
  root := h.root

lemma mirrors_settle (con : Connector) : Mirrors (Twins W m m') ((seat c).settle con) :=
  mirrors_modify fun _ _ h => (h.write c con).congr rfl rfl rfl rfl rfl rfl

lemma mirrors_startEndpoint {start : Drive TableScan StandardWorker Unit}
    (hstart : Mirrors (Twins W m m') start) (i : Nat) :
    Mirrors (Twins W m m') ((seat c).startEndpoint start i) := by
  intro t t' h
  apply inStep_get_bind
  rw [h.read_eq]
  apply inStep_lift_bind h
  intro opened _
  apply inStep_modify_bind
  split_ifs
  · exact hstart _ _ (h.write c opened)
  · exact inStep_pure (h.write c opened)

lemma mirrors_deliver_endpoint (i : Nat) :
    Mirrors (Twins W m m')
      ((seat c).deliver i : Drive TableScan StandardWorker (Option Tuple)) := by
  intro t t' h
  apply inStep_get_bind
  rw [h.read_eq]
  apply inStep_lift_bind h
  intro given _
  exact ((mirrors_settle given.2).bind fun _ => mirrors_pure _) t t' h

lemma mirrors_pull {next : Drive TableScan StandardWorker (Option Tuple)}
    (hnext : Mirrors (Twins W m m') next) (i : Nat) :
    Mirrors (Twins W m m') ((seat c).pull next i) := by
  intro t t' h
  apply inStep_get_bind
  rw [h.read_eq]
  apply inStep_lift_bind h
  intro _ _
  split_ifs
  · exact mirrors_deliver_endpoint i t t' h
  · exact inStep_pure h
  · apply (hnext t t' h).bind
    intro given u u' h
    cases given with
    | some x =>
      apply inStep_modify_bind
      rw [h.read_eq]
      exact mirrors_deliver_endpoint i _ _ (h.write c _)
    | none =>
      apply inStep_modify_bind
      rw [h.read_eq]
      exact inStep_pure (h.write c _)

lemma mirrors_stopEndpoint {stop : Drive TableScan StandardWorker Unit}
    (hstop : Mirrors (Twins W m m') stop) (i : Nat) :
    Mirrors (Twins W m m') ((seat c).stopEndpoint stop i) := by
  intro t t' h
  apply inStep_get_bind
  rw [h.read_eq]
  apply inStep_lift_bind h
  intro con _
  apply (mirrors_settle con t t' h).bind
  intro _ u u' h
  split_ifs
  · exact hstop u u' h
  · exact inStep_pure h

/-- What is done to supplies goes in step if what is done to nodes and to endpoints does. -/
lemma mirrors_onSupply {onNode : Nat → Drive TableScan StandardWorker α}
    {onEndpoint : Seat (Tree TableScan StandardWorker) → Drive TableScan StandardWorker α → Nat →
      Drive TableScan StandardWorker α}
    (hnode : ∀ q, Mirrors (Twins W m m') (onNode q))
    (hendpoint : ∀ c q i, Mirrors (Twins W m m') (onEndpoint (seat c) (onNode q) i))
    (supply : Supply) : Mirrors (Twins W m m') (onSupply onNode onEndpoint supply) := by
  intro t t' h
  cases supply with
  | node q => exact hnode q t t' h
  | endpoint c i =>
    apply inStep_get_bind
    rw [h.junctions]
    exact hendpoint c _ i t t' h

end Supplies

end Tree

end Dataflow
