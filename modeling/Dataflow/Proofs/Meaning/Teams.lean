import Dataflow.Proofs.Executor.Crews
import Dataflow.Proofs.Executor.Join

/-!
# What teams of standard workers give

A team that looks at tuples one by one gives what its workers make of them, in order, whichever
worker a tuple is dealt to. A team that joins gives all pairs in some order.
-/

namespace Dataflow

/-- What is made of the tuples of a stream, one by one, up to the first failure. -/
def Stream.through (f : Tuple → Result (List Tuple)) (failure : Option Error) :
    List Tuple → Stream
  | [] => ⟨[], failure⟩
  | x :: xs =>
    match f x with
    | .ok given => (through f failure xs).after given
    | .error e => ⟨[], some e⟩

/-- A team that looks at tuples one by one gives what its workers make of them. -/
theorem Team.yields_through {w : StandardWorker} {f : Tuple → Result (List Tuple)}
    (hw : w.Applies f) {n : Nat} {slot : Slot} (hleft : slot.exhausted = false) (s : Stream)
    (team : Team StandardWorker) (hslots : team.slots = [slot])
    (hworkers : team.workers = List.replicate n w) (hn : team.nextWorker < n)
    (hpending : team.pending = []) :
    team.Yields [s] (.through f s.failure s.tuples) := by
  obtain ⟨tuples, failure⟩ := s
  induction tuples generalizing team with
  | nil =>
    have hpick := pick?_singleton hslots hleft
    match failure with
    | some e => exact .broken hpending hpick rfl rfl
    | none =>
      have hmade : List.Forall₂ (fun v new =>
          Worker.Makes v (.exhausted slot.link) (.ok new.1) new.2) team.workers
          (List.replicate n ([], w)) := by
        rw [hworkers, List.forall₂_iff_get]
        refine ⟨by simp, fun i hi hi' now => ?_⟩
        simpa using hw.exhausted now slot.link
      refine .exhausted hpending hpick rfl rfl hmade (.finish ?_ ?_)
      · simp [ended, hpending]
      · simp [pick?_eq_none_iff, ended, hslots]
  | cons x tuples ih =>
    have hpick := pick?_singleton hslots hleft
    have hworker : team.workers[team.nextWorker]? = some w := by
      rw [hworkers, List.getElem?_replicate, if_pos hn]
    rw [Stream.through]
    match hx : f x with
    | .error e =>
      exact .refused hpending hpick rfl rfl hworker fun now => (hw.tuple now x slot.link).trans
        (by rw [hx])
    | .ok given =>
      have hmakes : Worker.Makes w (.tuple x slot.link) (.ok given) w := fun now =>
        (hw.tuple now x slot.link).trans (by rw [hx])
      refine .tuple hpending hpick rfl rfl hworker hmakes ?_
      have hset : team.workers.set team.nextWorker w = team.workers := set_eq_self hworker
      have hrest := ih { team.dealt 0 w given with pending := [] } hslots
        (by rw [← hworkers]; exact hset)
        (by simpa [dealt, hworkers] using Nat.mod_lt _ (Nat.zero_lt_of_lt hn)) rfl
      have hpending' : (team.dealt 0 w given).pending = given := by simp [dealt, hpending]
      have hyields := Yields.of_pending hrest
      rwa [hpending'] at hyields

/-- A team that joins has taken in some inputs, and its two inputs still give two streams. -/
structure Team.Joins (s : Joining) (output : Schema) (x y : Supply) (before : List Input)
    (ins outs : Stream) (team : Team StandardWorker) : Prop where
  recalls : ∃ j, team.workers = [.join j] ∧ j.Recalls s output before
  nextWorker_eq : team.nextWorker = 0
  pending_eq : team.pending = []
  slots_eq : team.slots = [⟨s.innerLink, x, .exhausted s.innerLink ∈ before⟩,
    ⟨s.outerLink, y, .exhausted s.outerLink ∈ before⟩]
  inner_done : .exhausted s.innerLink ∈ before → ins = .done
  outer_done : .exhausted s.outerLink ∈ before → outs = .done
  schema_inner : ∀ t ∈ ins.tuples, t.schema = s.inner
  schema_outer : ∀ t ∈ outs.tuples, t.schema = s.outer

/-- What a team that joins gives: all pairs of the tuples that arrive, except those that came out
before, unless an input fails. -/
structure Joining.Gives (s : Joining) (output : Schema) (before : List Input)
    (ins outs out : Stream) : Prop where
  schema_eq : ∀ x ∈ out.tuples, x.schema = output
  failure_iff : out.failure = none ↔ ins.failure = none ∧ outs.failure = none
  perm : out.failure = none →
    (s.pairs (arrived s.innerLink before) (arrived s.outerLink before) ++
      out.tuples.map Tuple.fields).Perm
      (s.pairs (arrived s.innerLink before ++ ins.tuples)
        (arrived s.outerLink before ++ outs.tuples))

namespace Joining

variable {s : Joining} {output : Schema} {x y : Supply} {before : List Input}
  {ins outs ins' outs' out : Stream} {team : Team StandardWorker}

/-- An input that is taken in adds what it completes. -/
lemma Gives.after (input : Input) {given : List Tuple} (hne : s.innerLink ≠ s.outerLink)
    (hlink : input.link = s.innerLink ∨ input.link = s.outerLink)
    (hgiven : given.map Tuple.fields = s.completes before input)
    (hschema : ∀ x ∈ given, x.schema = output)
    (hinner : ins = ins'.after (arrived s.innerLink [input]))
    (houter : outs = outs'.after (arrived s.outerLink [input]))
    (h : s.Gives output (before ++ [input]) ins' outs' out) :
    s.Gives output before ins outs (out.after given) where
  schema_eq := List.forall_mem_append.mpr ⟨hschema, h.schema_eq⟩
  failure_iff := by
    rw [hinner, houter]
    exact h.failure_iff
  perm := by
    intro hnone
    have hall := h.perm hnone
    simp only [arrived_append, List.append_assoc, ← Stream.tuples_after] at hall
    rw [← hinner, ← houter, ← arrived_append, ← arrived_append] at hall
    rw [Stream.tuples_after, List.map_append, hgiven, ← List.append_assoc]
    exact ((pairs_concat hne before input hlink).symm.append_right _).trans hall

end Joining

namespace Team.Joins

variable {s : Joining} {output : Schema} {x y : Supply} {before : List Input}
  {ins outs : Stream} {team : Team StandardWorker}

/-- What is left to be done. -/
def left (s : Joining) (before : List Input) (ins outs : Stream) : Nat :=
  ins.tuples.length + outs.tuples.length +
    (if .exhausted s.innerLink ∈ before then 0 else 1) +
    if .exhausted s.outerLink ∈ before then 0 else 1

lemma left_tuple_lt (hne : s.innerLink ≠ s.outerLink) {t : Tuple} {link : Link}
    (hlink : link = s.innerLink ∨ link = s.outerLink) {ins' outs' : Stream}
    (hinner : ins = ins'.after (arrived s.innerLink [.tuple t link]))
    (houter : outs = outs'.after (arrived s.outerLink [.tuple t link])) :
    left s (before ++ [.tuple t link]) ins' outs' < left s before ins outs := by
  have hone : (arrived s.innerLink [.tuple t link]).length +
      (arrived s.outerLink [.tuple t link]).length = 1 := by
    rcases hlink with rfl | rfl
    · simp [arrived_tuple, hne]
    · simp [arrived_tuple, hne.symm]
  simp only [left, hinner, houter, Stream.tuples_after, List.length_append, List.mem_append,
    List.mem_singleton, reduceCtorEq, or_false]
  omega

lemma exists_makes (h : team.Joins s output x y before ins outs) (hne : s.innerLink ≠ s.outerLink)
    (input : Input) (hinput : s.Expects before input) :
    ∃ j given j', team.workers = [.join j] ∧
      Worker.Makes (StandardWorker.join j) input (.ok given) (.join j') ∧
      given.map Tuple.fields = s.completes before input ∧ (∀ x ∈ given, x.schema = output) ∧
      j'.Recalls s output (before ++ [input]) := by
  obtain ⟨j, hworkers, hrecalls⟩ := h.recalls
  obtain ⟨given, j', hprocess, hmap, hschema, hnext⟩ := hrecalls.exists_process hne hinput
  refine ⟨j, given, j', hworkers, fun now => ?_, hmap, hschema, hnext⟩
  change (Worker.process now input j).map id StandardWorker.join = _
  rw [hprocess]
  rfl

/-- A team gives something that is right from some inputs on. -/
def Settles (s : Joining) (output : Schema) (before : List Input) (ins outs : Stream)
    (team : Team StandardWorker) : Prop :=
  ∃ out, team.Yields [ins, outs] out ∧ s.Gives output before ins outs out

/-- A tuple arrives at a team that joins: one input is rid of it, the other is as it was. -/
lemma settles_tuple (h : team.Joins s output x y before ins outs) (hne : s.innerLink ≠ s.outerLink)
    {i : Nat} {slot : Slot} (hpick : team.pick? = some (i, slot)) {in' : Stream}
    (hin : [ins, outs][i]? = some in') {t : Tuple} (hhead : in'.head = .ok (some t))
    (hexpects : s.Expects before (.tuple t slot.link)) {ins' outs' : Stream}
    (htail : [ins, outs].set i in'.tail = [ins', outs'])
    (hinner : ins = ins'.after (arrived s.innerLink [.tuple t slot.link]))
    (houter : outs = outs'.after (arrived s.outerLink [.tuple t slot.link]))
    (hrest : ∀ team : Team StandardWorker,
      team.Joins s output x y (before ++ [.tuple t slot.link]) ins' outs' →
      Settles s output (before ++ [.tuple t slot.link]) ins' outs' team) :
    Settles s output before ins outs team := by
  obtain ⟨j, given, j', hworkers, hmakes, hmap, hschema, hnext⟩ := h.exists_makes hne _ hexpects
  have hworker : team.workers[team.nextWorker]? = some (.join j) := by
    rw [hworkers, h.nextWorker_eq]
    rfl
  obtain ⟨out, hyields, hgives⟩ := hrest { team.dealt i (.join j') given with pending := [] }
    { recalls := ⟨j', by simp [Team.dealt, hworkers, h.nextWorker_eq], hnext⟩
      nextWorker_eq := by simp [Team.dealt, hworkers, Nat.mod_one]
      pending_eq := rfl
      slots_eq := by simp [Team.dealt, h.slots_eq]
      inner_done := fun hmem => (Stream.done_eq_after_iff.mp
        ((h.inner_done (by simpa using hmem)).symm.trans hinner)).2
      outer_done := fun hmem => (Stream.done_eq_after_iff.mp
        ((h.outer_done (by simpa using hmem)).symm.trans houter)).2
      schema_inner := fun u hu => h.schema_inner u (hinner ▸ List.mem_append_right _ hu)
      schema_outer := fun u hu => h.schema_outer u (houter ▸ List.mem_append_right _ hu) }
  have hall := Yields.of_pending hyields
  have hpending : (team.dealt i (.join j') given).pending = given := by
    simp [Team.dealt, h.pending_eq]
  rw [hpending, ← htail] at hall
  exact ⟨out.after given, .tuple h.pending_eq hpick hin hhead hworker hmakes hall,
    hgives.after _ hne hexpects.link_eq hmap hschema hinner houter⟩

/-- An input of a team that joins has ended. -/
lemma settles_end (h : team.Joins s output x y before ins outs) (hne : s.innerLink ≠ s.outerLink)
    {i : Nat} {slot : Slot} (hslot : slot.link = s.innerLink ∨ slot.link = s.outerLink)
    (hpick : team.pick? = some (i, slot)) {in' : Stream}
    (hin : [ins, outs][i]? = some in') (hhead : in'.head = .ok none)
    (hrest : ∀ team : Team StandardWorker,
      team.Joins s output x y (before ++ [.exhausted slot.link]) ins outs →
      Settles s output (before ++ [.exhausted slot.link]) ins outs team)
    (hslots : team.slots.modify i (fun slot => { slot with exhausted := true }) =
      [⟨s.innerLink, x, .exhausted s.innerLink ∈ before ++ [.exhausted slot.link]⟩,
        ⟨s.outerLink, y, .exhausted s.outerLink ∈ before ++ [.exhausted slot.link]⟩])
    (hinner : slot.link = s.innerLink → ins = .done)
    (houter : slot.link = s.outerLink → outs = .done) :
    Settles s output before ins outs team := by
  obtain ⟨j, given, j', hworkers, hmakes, hmap, hschema, hnext⟩ :=
    h.exists_makes hne (.exhausted slot.link) hslot
  have hgiven : given = [] := List.map_eq_nil_iff.mp hmap
  subst hgiven
  obtain ⟨out, hyields, hgives⟩ := hrest (team.ended i [([], .join j')])
    { recalls := ⟨j', rfl, hnext⟩
      nextWorker_eq := h.nextWorker_eq
      pending_eq := by simp [Team.ended, h.pending_eq]
      slots_eq := hslots
      inner_done := by
        rw [List.mem_append, List.mem_singleton, Input.exhausted.injEq]
        rintro (hold | hnew)
        · exact h.inner_done hold
        · exact hinner hnew.symm
      outer_done := by
        rw [List.mem_append, List.mem_singleton, Input.exhausted.injEq]
        rintro (hold | hnew)
        · exact h.outer_done hold
        · exact houter hnew.symm
      schema_inner := h.schema_inner
      schema_outer := h.schema_outer }
  refine ⟨out, .exhausted h.pending_eq hpick hin hhead ?_ hyields, ?_⟩
  · rw [hworkers]
    exact .cons hmakes .nil
  · rw [← Stream.after_nil out]
    exact hgives.after (.exhausted slot.link) hne hslot hmap hschema rfl rfl

lemma settles_broken (h : team.Joins s output x y before ins outs) {i : Nat} {slot : Slot}
    (hpick : team.pick? = some (i, slot)) {in' : Stream} (hin : [ins, outs][i]? = some in')
    {e : Error} (hhead : in'.head = .error e) : Settles s output before ins outs team := by
  refine ⟨⟨[], some e⟩, .broken h.pending_eq hpick hin hhead, nofun, ?_, nofun⟩
  have hfailure : in'.failure = some e := by rw [Stream.head_eq_error_iff.mp hhead]
  refine ⟨nofun, fun ⟨hinner, houter⟩ => ?_⟩
  match i with
  | 0 =>
    cases hin
    rw [hinner] at hfailure
    cases hfailure
  | 1 =>
    cases hin
    rw [houter] at hfailure
    cases hfailure

lemma settles_finish (h : team.Joins s output x y before ins outs) (hpick : team.pick? = none) :
    Settles s output before ins outs team := by
  have hall := Team.pick?_eq_none_iff.mp hpick
  rw [h.slots_eq] at hall
  obtain ⟨hinner, houter⟩ : _ ∧ _ := by simpa using hall
  obtain rfl := h.inner_done hinner
  obtain rfl := h.outer_done houter
  exact ⟨.done, .finish h.pending_eq hpick, nofun, by simp [Stream.done],
    fun _ => by simp [Stream.done]⟩

/-- A team that joins gives all pairs, whichever way its inputs are taken in turn. -/
theorem settles (h : team.Joins s output x y before ins outs) (hne : s.innerLink ≠ s.outerLink) :
    Settles s output before ins outs team := by
  -- Whatever is taken in, a tuple or the end of a side, leaves less to be done.
  generalize hn : left s before ins outs = n
  induction n using Nat.strong_induction_on generalizing before ins outs team with
  | _ n ih =>
    match hpick : team.pick? with
    | none => exact h.settles_finish hpick
    | some (i, slot) =>
      obtain ⟨hslot, hleft⟩ := Team.pick?_eq_some hpick
      rw [h.slots_eq] at hslot
      match i with
      | 0 =>
        cases hslot
        have hends : .exhausted s.innerLink ∉ before := by simpa using hleft
        rw [decide_eq_false hends] at hpick
        match hhead : ins.head with
        | .error e => exact h.settles_broken hpick rfl hhead
        | .ok none =>
          refine h.settles_end hne (.inl rfl) hpick rfl hhead (fun team h' => ih _ ?_ h' rfl) ?_
            (fun _ => Stream.head_eq_ok_none_iff.mp hhead) fun heq => (hne heq).elim
          · rw [← hn]
            simp [left, hends, hne.symm]
          · simp [h.slots_eq, hne.symm]
        | .ok (some t) =>
          have hins := Stream.head_eq_ok_some_iff.mp hhead
          have ht : t.schema = s.inner := h.schema_inner t (by rw [hins]; exact List.mem_cons_self)
          have hinner : ins = ins.tail.after (arrived s.innerLink [.tuple t s.innerLink]) := by
            rwa [arrived_tuple, if_pos rfl]
          have houter : outs = outs.after (arrived s.outerLink [.tuple t s.innerLink]) := by
            rw [arrived_tuple, if_neg hne, Stream.after_nil]
          exact h.settles_tuple hne hpick rfl hhead ⟨.inl ⟨rfl, ht⟩, hends⟩ rfl hinner houter
            fun team h' => ih _ (hn ▸ left_tuple_lt hne (.inl rfl) hinner houter) h' rfl
      | 1 =>
        cases hslot
        have hends : .exhausted s.outerLink ∉ before := by simpa using hleft
        rw [decide_eq_false hends] at hpick
        match hhead : outs.head with
        | .error e => exact h.settles_broken hpick rfl hhead
        | .ok none =>
          refine h.settles_end hne (.inr rfl) hpick rfl hhead (fun team h' => ih _ ?_ h' rfl) ?_
            (fun heq => (hne heq.symm).elim) fun _ => Stream.head_eq_ok_none_iff.mp hhead
          · rw [← hn]
            simp [left, hends, hne]
          · simp [h.slots_eq, hne]
        | .ok (some t) =>
          have houts := Stream.head_eq_ok_some_iff.mp hhead
          have ht : t.schema = s.outer := h.schema_outer t (by rw [houts]; exact List.mem_cons_self)
          have hinner : ins = ins.after (arrived s.innerLink [.tuple t s.outerLink]) := by
            rw [arrived_tuple, if_neg hne.symm, Stream.after_nil]
          have houter : outs = outs.tail.after (arrived s.outerLink [.tuple t s.outerLink]) := by
            rwa [arrived_tuple, if_pos rfl]
          exact h.settles_tuple hne hpick rfl hhead ⟨.inr ⟨rfl, ht⟩, hends⟩ rfl hinner houter
            fun team h' => ih _ (hn ▸ left_tuple_lt hne (.inr rfl) hinner houter) h' rfl

end Team.Joins

end Dataflow
