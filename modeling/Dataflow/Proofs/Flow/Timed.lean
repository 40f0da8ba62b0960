import Dataflow.Proofs.Flow.Node

/-!
# Workers that look at the clock

What a worker gives may depend on the times at which it takes something in, and these cannot be
forecast. But if a worker promises something whatever the times are, its node keeps the promise:
pulled again and again, it comes to its end, and all that it gave is as promised. What happens above
the node in the meantime does not matter.
-/

namespace Dataflow

/-- At whatever times a worker takes in some tuples and then the end of its input, it never fails,
and all that it gives has a property. -/
def Worker.Promises {ω : Type} [Worker ω] (link : Link) :
    List Tuple → (List Tuple → Prop) → ω → Prop
  | [], P, v => ∀ time, ∃ given v', Worker.process time (.exhausted link) v = (.ok given, v') ∧
      P given
  | x :: xs, P, v => ∀ time, ∃ given v',
      Worker.process time (.tuple x link) v = (.ok given, v') ∧
        Promises link xs (fun rest => P (given ++ rest)) v'

lemma Worker.Promises.imp {ω : Type} [Worker ω] {link : Link} {tuples : List Tuple}
    {P P' : List Tuple → Prop} {v : ω} (h : Worker.Promises link tuples P v)
    (himp : ∀ given, P given → P' given) : Worker.Promises link tuples P' v := by
  induction tuples generalizing P P' v with
  | nil =>
    intro time
    obtain ⟨given, v', hmade, hall⟩ := h time
    exact ⟨given, v', hmade, himp given hall⟩
  | cons x tuples ih =>
    intro time
    obtain ⟨given, v', hmade, hrest⟩ := h time
    exact ⟨given, v', hmade, ih hrest fun rest => himp (given ++ rest)⟩

/-- A worker gives tuples as they come. -/
structure Worker.PassesOn {ω : Type} [Worker ω] (v : ω) : Prop where
  tuple : ∀ x link, Worker.Makes v (.tuple x link) (.ok [x]) v
  exhausted : ∀ link, Worker.Makes v (.exhausted link) (.ok []) v

namespace Tree

open Act

variable {σ ω : Type} [Worker ω] {t t' t'' : Tree σ ω} {q i : Nat} {node : Node σ ω}
  {team : Team ω} {v : ω}

variable [Source σ] {w : Wiring} {n : Nat} {R : Forecast} {ins : List Stream} {slot : Slot}
  {s : Stream} {P : List Tuple → Prop}

omit [Source σ] [Worker ω] in
/-- Parts up to a level are as they were. -/
structure SameUpTo (w : Wiring) (n : Nat) (t t' : Tree σ ω) : Prop where
  wiring : t'.ledger.wiring = t.ledger.wiring
  untouched : ∀ a, w.level a ≤ n → t.Untouched t' a

/-- A node that is pulled again and again comes to its end, whatever happens above it in the
meantime, and all that it gives has a property. -/
inductive Serves (w : Wiring) (q : Nat) : (List Tuple → Prop) → Tree σ ω → Prop
  | last {P : List Tuple → Prop} {t t' : Tree σ ω} {depth : Nat}
    (hpull : (nextNode depth q).outcome t = some (.ok none, t'))
    (habove : ∀ a, w.level (.supply (.node q)) < w.level a → t.Untouched t' a) (hall : P []) :
    Serves w q P t
  | more {P : List Tuple → Prop} {t t' : Tree σ ω} {depth : Nat} {x : Tuple}
    (hpull : (nextNode depth q).outcome t = some (.ok (some x), t'))
    (habove : ∀ a, w.level (.supply (.node q)) < w.level a → t.Untouched t' a)
    (hrest : ∀ t'', SameUpTo w (w.level (.supply (.node q))) t' t'' →
      Serves w q (fun rest => P (x :: rest)) t'') : Serves w q P t

namespace Poised

lemma congr (h : Poised w R q node team ins t)
    (hsame : SameUpTo w (w.level (.supply (.node q))) t t') : Poised w R q node team ins t' where
  wiring := hsame.wiring.trans h.wiring
  phase := h.phase
  here := Eq.trans (hsame.untouched (.supply (.node q)) le_rfl) h.here
  ins_eq := h.ins_eq
  flows := fun a hne ha =>
    (h.flows a hne ha).congr (hsame.untouched a ha) (fun _ _ => rfl) fun _ _ => rfl

/-- Tuples that wait to be taken are served first. -/
lemma serves_of_pending (h : Poised w R q node team ins t)
    (hrest : ∀ t', Poised w R q node { team with pending := [] } ins t' →
      Serves w q (fun rest => P (team.pending ++ rest)) t') : Serves w q P t := by
  obtain ⟨slots, workers, started, nextSlot, nextWorker, waiting⟩ := team
  induction waiting generalizing P t with
  | nil => exact hrest t h
  | cons x rest ih =>
    have hrecrewed := recrewed_changeTeam h.here rfl fun team => { team with pending := rest }
    have hpull : (nextNode 1 q : Drive σ ω _).After False t fun result t' =>
        result = .ok (some x) ∧
          t' = t.changeTeam q fun team => { team with pending := rest } := by
      refine after_get_bind.mpr ?_
      simp only [h.here, h.phase]
      exact after_lift_bind.mpr ⟨nofun, fun _ _ => after_modify_bind.mpr
        (after_pure.mpr ⟨rfl, rfl⟩)⟩
    obtain ⟨_, _, houtcome, rfl, rfl⟩ := hpull.exists
    refine .more houtcome (fun a ha => hrecrewed.untouched ?_) fun t'' hsame => ?_
    · rintro rfl
      exact lt_irrefl _ ha
    · obtain ⟨hpoised, -⟩ := h.recrewed hrecrewed rfl (by
        rw [ledger_changeTeam_of_entry_eq (f := fun team => { team with pending := rest })
          fun _ => ⟨rfl, rfl, rfl⟩, h.wiring])
      exact ih (hpoised.congr hsame) hrest

lemma serves_of_finish (h : Poised w R q node team ins t) (hpending : team.pending = [])
    (hpick : team.pick? = none) (hall : P []) : Serves w q P t := by
  have hpull : (nextNode 1 q : Drive σ ω _).After False t fun result t' =>
      result = .ok none ∧ t' = t := by
    refine after_get_bind.mpr ?_
    simp only [h.here, h.phase, hpending, hpick]
    exact after_lift_bind.mpr ⟨nofun, fun _ _ => after_pure.mpr ⟨rfl, rfl⟩⟩
  obtain ⟨_, _, houtcome, rfl, rfl⟩ := hpull.exists
  exact .last houtcome (fun _ _ => .refl) hall

/-- A node that is fed serves what it serves then. -/
lemma serves_of_fed {depth : Nat} (h : Poised w R q node team ins t) (hpending : team.pending = [])
    (hpick : team.pick? = some (i, slot))
    (hfeed : (feed (nextNode depth) q i slot).After False t fun outcome t' => outcome = .ok () ∧
      (∀ a, w.level (.supply (.node q)) < w.level a → t.Untouched t' a) ∧ Serves w q P t') :
    Serves w q P t := by
  obtain ⟨_, t', houtcome, rfl, habove, hserves⟩ := hfeed.exists
  have hpull {depth' : Nat} {result : Result (Option Tuple)} {t'' : Tree σ ω}
      (hnext : (nextNode depth' q).outcome t' = some (result, t'')) :
      (nextNode (max depth depth' + 1) q).outcome t = some (result, t'') := by
    have hfed : (feed (nextNode (max depth depth')) q i slot).After False t
        fun outcome t₁ => outcome = .ok () ∧ t' = t₁ :=
      (refines_feed (refines_nextNode (le_max_left ..)) i slot).after
        ((after_of_outcome houtcome).mpr ⟨rfl, rfl⟩)
    have hall : (nextNode (max depth depth' + 1) q).After False t
        fun result' t₂ => result = result' ∧ t'' = t₂ := by
      refine after_nextAt_feed h hpending hpick (hfed.bind (fun _ _ he => nomatch he.1) ?_)
      rintro _ _ ⟨-, rfl⟩
      exact (refines_nextNode (le_max_right ..) q).after
        ((after_of_outcome hnext).mpr ⟨rfl, rfl⟩)
    obtain ⟨_, _, houtcome', rfl, rfl⟩ := hall.exists
    exact houtcome'
  cases hserves with
  | last hlast habove' hall =>
    exact .last (hpull hlast) (fun a ha => (habove a ha).trans (habove' a ha)) hall
  | more hmore habove' hrest =>
    exact .more (hpull hmore) (fun a ha => (habove a ha).trans (habove' a ha)) hrest

/-- A node with one input that does not fail, and with one worker that looks at the clock, serves
what the worker promises. -/
theorem serves {tuples : List Tuple} (hsound : w.Sound)
    (h : Poised w R q node team [⟨tuples, none⟩] t) (hslots : team.slots = [slot])
    (hleft : slot.exhausted = false) (hworkers : team.workers = [v])
    (hturn : team.nextWorker = 0)
    (hpromises : Worker.Promises slot.link tuples (fun rest => P (team.pending ++ rest)) v) :
    Serves w q P t := by
  induction tuples generalizing R team v P t with
  | nil =>
    refine h.serves_of_pending fun t h => ?_
    have hpick : ({ team with pending := [] } : Team ω).pick? = some (0, slot) :=
      Team.pick?_singleton hslots hleft
    obtain ⟨depth, hdepth⟩ := h.exists_answers hsound hpick
    refine h.serves_of_fed rfl hpick ((h.after_feed_end hsound (Team.pick?_eq_some hpick).1 rfl
      (quiet_nextNode depth) hdepth rfl fun v' hv time => ?_).mono ?_)
    · obtain rfl : v' = v := by simpa [hworkers] using hv
      obtain ⟨given, v'', hmade, -⟩ := hpromises time
      exact ⟨given, v'', hmade⟩
    rintro outcome t' ⟨made, hall, houtcome, R', hpoised, hshifts⟩
    obtain ⟨⟨given, v'⟩, ⟨time, hmay⟩, rfl⟩ : ∃ new,
        Worker.MayMake (.exhausted slot.link) v new ∧ made = [new] := by
      simpa [hworkers, List.forall₂_cons_left_iff] using hall
    obtain ⟨given', v'', hmade, hall⟩ := hpromises time
    rw [hmay, Prod.mk.injEq, Except.ok.injEq] at hmade
    obtain ⟨rfl, rfl⟩ := hmade
    refine ⟨houtcome, hshifts.untouched, hpoised.serves_of_pending fun t'' h' => ?_⟩
    refine h'.serves_of_finish rfl ?_ (by simpa [Team.ended] using hall)
    rw [Team.pick?_eq_none_iff]
    simp [Team.ended, hslots]
  | cons x tuples ih =>
    refine h.serves_of_pending fun t h => ?_
    have hpick : ({ team with pending := [] } : Team ω).pick? = some (0, slot) :=
      Team.pick?_singleton hslots hleft
    obtain ⟨depth, hdepth⟩ := h.exists_answers hsound hpick
    refine h.serves_of_fed rfl hpick ((h.after_feed_tuple hsound (Team.pick?_eq_some hpick).1 rfl
      (quiet_nextNode depth) hdepth rfl (v := v) (by simp [hworkers, hturn])).mono ?_)
    rintro outcome t' ⟨time, hfed⟩
    obtain ⟨given, v', hmade, hall⟩ := hpromises time
    rw [hmade] at hfed
    obtain ⟨houtcome, R', hpoised, hshifts⟩ := hfed
    refine ⟨houtcome, hshifts.untouched, ih hpoised (v := v') ?_ ?_ ?_ ?_⟩
    · simp [Team.dealt, hslots]
    · simp [Team.dealt, hworkers, hturn]
    · simp [Team.dealt, hworkers, hturn]
    · simpa [Team.dealt] using hall

end Poised

/-- The root is a node with one worker, which passes on what another node gives. -/
structure Relays (w : Wiring) (q : Nat) (t : Tree σ ω) : Prop where
  wiring : t.ledger.wiring = w
  lt : q < w.root
  passes : ∃ (node : Node σ ω) (link : Link) (v : ω) (started : Nat),
    t.nodes[w.root]? = some { node with
      crew := .team { slots := [⟨link, .node q, false⟩], workers := [v], started } } ∧
    node.phase = .opened ∧ Worker.PassesOn v

omit [Source σ] [Worker ω] in
lemma changeTeam_eq_self {f : Team ω → Team ω} (hq : t.nodes[q]? = some node)
    (hcrew : node.crew = .team team) (hf : f team = team) : t.changeTeam q f = t := by
  obtain ⟨operator, schema, phase, crew⟩ := node
  obtain rfl : crew = .team team := hcrew
  have hnodes : (t.changeTeam q f).nodes = t.nodes := by
    apply List.ext_getElem?
    intro k
    rw [changeTeam, changeNode, List.getElem?_modify]
    by_cases hk : q = k
    · subst hk
      simp [hq, hf]
    · simp [hk]
  exact congrArg (fun nodes => { t with nodes := nodes }) hnodes

namespace Relays

variable {depth : Nat} {x : Tuple} {given : List Tuple}

omit [Source σ] in
lemma untouched (h : t.Relays w q) (habove : ∀ a, w.level (.supply (.node q)) < w.level a →
    t.Untouched t' a) : t'.nodes[w.root]? = t.nodes[w.root]? :=
  habove (.supply (.node w.root)) (Nat.mul_lt_mul_of_pos_left h.lt Nat.two_pos)

/-- The root gives what the node gives. -/
lemma after_next_some (h : t.Relays w q)
    (hpull : (nextNode depth q).outcome t = some (.ok (some x), t'))
    (habove : ∀ a, w.level (.supply (.node q)) < w.level a → t.Untouched t' a) :
    (nextNode (depth + 2) w.root).After False t fun result t'' =>
      result = .ok (some x) ∧ t''.Relays w q ∧
        SameUpTo w (w.level (.supply (.node q))) t' t'' := by
  obtain ⟨node, link, v, started, hroot, hphase, hpasses⟩ := h.passes
  have hroot' := (h.untouched habove).trans hroot
  have hledger : t'.ledger = t.ledger :=
    (quiet_nextNode depth q t).of_outcome hpull
  have hpull' : (nextNode (depth + 1) q).After False t fun result t₁ =>
      result = .ok (some x) ∧ t' = t₁ :=
    (refines_nextNode (Nat.le_succ depth) q).after ((after_of_outcome hpull).mpr ⟨rfl, rfl⟩)
  refine after_get_bind.mpr ?_
  simp only [hroot, hphase]
  refine after_lift_bind.mpr ⟨nofun, fun _ _ => ?_⟩
  refine After.bind (Q := fun outcome t₁ => outcome = .ok () ∧ t₁.ledger = t.ledger ∧
    Recrewed w.root node
      { slots := [⟨link, .node q, false⟩], workers := [v], started, pending := [x] } t' t₁)
    (after_modify_bind.mpr ?_) (fun _ _ h => nomatch h.1) fun _ t₁ h₁ => ?_
  · rw [changeTeam_eq_self hroot rfl (by simp)]
    refine hpull'.bind (fun _ _ h => nomatch h.1) ?_
    rintro _ _ ⟨hgiven, rfl⟩
    cases hgiven
    refine ((after_deal hroot' rfl rfl).and (quiet_deal x link t')).mono ?_
    rintro outcome t₁ ⟨⟨time, hdealt⟩, hledger'⟩
    rw [hpasses.tuple x link time] at hdealt
    exact ⟨hdealt.1, hledger'.trans hledger, by simpa using hdealt.2.here, hdealt.2.elsewhere,
      hdealt.2.junctions⟩
  · obtain ⟨-, hledger', hrecrewed⟩ := h₁
    have hlast := recrewed_changeTeam hrecrewed.here rfl fun team => { team with pending := [] }
    have hledger'' : (t₁.changeTeam w.root fun team => { team with pending := [] }).ledger =
        t.ledger := by
      rw [ledger_changeTeam_of_entry_eq (f := fun team => { team with pending := [] })
        fun _ => ⟨rfl, rfl, rfl⟩, hledger']
    refine after_get_bind.mpr ?_
    simp only [hrecrewed.here, hphase]
    refine after_lift_bind.mpr ⟨nofun, fun _ _ => after_modify_bind.mpr (after_pure.mpr ?_)⟩
    refine ⟨rfl, ⟨by rw [hledger'', h.wiring], h.lt, node, link, v, started, hlast.here, hphase,
      hpasses⟩, by rw [hledger'', hledger], fun a ha => ?_⟩
    have hne : a ≠ .supply (.node w.root) := by
      rintro rfl
      exact absurd (Nat.mul_lt_mul_of_pos_left h.lt Nat.two_pos) (not_lt.mpr ha)
    exact (hrecrewed.untouched hne).trans (hlast.untouched hne)

/-- The root comes to the end when the node does. -/
lemma after_next_none (h : t.Relays w q)
    (hpull : (nextNode depth q).outcome t = some (.ok none, t'))
    (habove : ∀ a, w.level (.supply (.node q)) < w.level a → t.Untouched t' a) :
    (nextNode (depth + 2) w.root).After False t fun result _ => result = .ok none := by
  obtain ⟨node, link, v, started, hroot, hphase, hpasses⟩ := h.passes
  have hroot' := (h.untouched habove).trans hroot
  have hpull' : (nextNode (depth + 1) q).After False t fun result t₁ =>
      result = .ok none ∧ t' = t₁ :=
    (refines_nextNode (Nat.le_succ depth) q).after ((after_of_outcome hpull).mpr ⟨rfl, rfl⟩)
  refine after_get_bind.mpr ?_
  simp only [hroot, hphase]
  refine after_lift_bind.mpr ⟨nofun, fun _ _ => ?_⟩
  refine After.bind (Q := fun outcome t₁ => outcome = .ok () ∧ t₁.nodes[w.root]? = some
    { node with crew := .team { slots := [⟨link, .node q, true⟩], workers := [v], started } })
    (after_modify_bind.mpr ?_) (fun _ _ h => nomatch h.1) fun _ t₁ h₁ => ?_
  · rw [changeTeam_eq_self hroot rfl (by simp)]
    refine hpull'.bind (fun _ _ h => nomatch h.1) ?_
    rintro _ _ ⟨hgiven, rfl⟩
    cases hgiven
    have hended : List.Forall₂ (fun v new => Worker.Makes v (.exhausted link) (.ok new.1) new.2)
        [v] [([], v)] := .cons (hpasses.exhausted link) .nil
    refine (after_exhaust hroot' rfl fun v' hv time => ?_).mono ?_
    · rw [List.mem_singleton.mp hv]
      exact ⟨[], v, hpasses.exhausted link time⟩
    · rintro outcome t₁ ⟨houtcome, made, hmade, hrecrewed⟩
      rw [forall₂_unique hmade hended fun _ _ _ hmay hmakes => hmakes.eq_of_mayMake hmay]
        at hrecrewed
      exact ⟨houtcome, hrecrewed.here⟩
  · refine after_get_bind.mpr ?_
    simp only [h₁.2, hphase]
    exact after_lift_bind.mpr ⟨nofun, fun _ _ => after_pure.mpr rfl⟩

/-- What a node serves is what a root that passes it on gives, if it is pulled to the end. -/
theorem exists_drain (h : t.Relays w q) (hserves : Serves w q P t) (given : List Tuple) :
    ∃ depth, (drain depth depth given).After False t fun result _ =>
      ∃ rest, P rest ∧ result = .ok (given.reverse ++ rest) := by
  have hroot (t : Tree σ ω) (h : t.Relays w q) : t.root = w.root := by
    rw [← h.wiring]
    rfl
  induction hserves generalizing given with
  | @last P t t' depth hpull habove hall =>
    have hlast := h.after_next_none hpull habove
    rw [← hroot t h] at hlast
    refine exists_drain_of_last (hlast.mono fun _ _ hnone => ?_)
    exact .inl ⟨hnone, [], hall, by rw [List.append_nil]⟩
  | @more P t t' depth x hpull habove hrest ih =>
    obtain ⟨_, t₁, houtcome, rfl, h₁, hsame⟩ := (h.after_next_some hpull habove).exists
    obtain ⟨depth', hdepth'⟩ := ih t₁ hsame h₁ (x :: given)
    rw [← hroot t h] at houtcome
    refine exists_drain_of_more houtcome (hdepth'.mono ?_)
    rintro _ _ ⟨rest, hall, rfl⟩
    exact ⟨x :: rest, hall, by simp⟩

end Relays

end Tree

end Dataflow
