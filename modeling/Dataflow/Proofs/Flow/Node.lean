import Dataflow.Proofs.Flow.Endpoint
import Dataflow.Proofs.Flow.Team
import Dataflow.Proofs.Tree.Depth

/-!
# Nodes give what was forecast

A node that is pulled gives the head of its forecast, if only the pulling may go deep enough, and
leaves everything below it in order. For a team this follows along the way in which its stream
came about, for a whole tree by induction on the places of the nodes.
-/

namespace Dataflow

namespace Tree

open Act

variable {σ ω : Type} [Source σ] [Worker ω] {w : Wiring} {R R' : Forecast} {t t' : Tree σ ω}
  {q : Nat} {node : Node σ ω} {team team' : Team ω} {ins ins' : List Stream} {i : Nat}
  {slot : Slot} {s out : Stream}

/-! ### A team that is about to be pulled -/

/-- The team of a node is about to be pulled: its inputs go on as forecast, and everything else up
to its level is in order. -/
structure Poised (w : Wiring) (R : Forecast) (q : Nat) (node : Node σ ω) (team : Team ω)
    (ins : List Stream) (t : Tree σ ω) : Prop where
  wiring : t.ledger.wiring = w
  phase : node.phase = .opened
  here : t.nodes[q]? = some { node with crew := .team team }
  ins_eq : (team.slots.map fun slot => R slot.supply) = ins
  flows : ∀ a, a ≠ .supply (.node q) → w.level a ≤ w.level (.supply (.node q)) → t.Flows R a

omit [Source σ] [Worker ω] in
lemma Recrewed.untouched {a : Part} (h : Recrewed q node team t t') (hne : a ≠ .supply (.node q)) :
    t.Untouched t' a := by
  match a with
  | .supply (.node k) => exact h.elsewhere k fun heq => hne (heq ▸ rfl)
  | .supply (.endpoint ..) => trivial
  | .joint c => rw [Untouched, h.junctions]

namespace Poised

lemma suppliesOf_eq (h : Poised w R q node team ins t) :
    w.suppliesOf q = team.slots.map Slot.supply := by
  rw [← h.wiring]
  exact suppliesOf_team h.here rfl

lemma hangs (h : Poised w R q node team ins t) (hslot : team.slots[i]? = some slot) :
    w.Hangs slot.supply (.supply (.node q)) := by
  refine .slot ?_
  rw [h.suppliesOf_eq]
  exact List.mem_map_of_mem (List.mem_of_getElem? hslot)

lemma flows_all (h : Poised w R q node team ins t) (hyields : team.Yields ins (R (.node q))) :
    ∀ a, w.level a ≤ w.level (.supply (.node q)) → t.Flows R a := by
  intro a ha
  by_cases hhere : a = .supply (.node q)
  · subst hhere
    intro node' hnode
    rw [h.here, Option.some.injEq] at hnode
    subst hnode
    refine ⟨h.phase, ?_⟩
    simp only [Crew.Flows, h.ins_eq]
    exact hyields
  · exact h.flows a hhere ha

lemma recrewed (h : Poised w R q node team ins t)
    (hrecrewed : Recrewed q { node with crew := .team team } team' t t')
    (hslots : team'.slots.map Slot.supply = team.slots.map Slot.supply)
    (hw : t'.ledger.wiring = w) :
    Poised w R q node team' ins t' ∧ Shifts w (w.level (.supply (.node q))) R t R t' := by
  refine ⟨⟨hw, h.phase, hrecrewed.here, ?_, fun a hne ha => ?_⟩, fun a ha => ?_, fun _ _ => rfl⟩
  · have hins := congrArg (List.map R) hslots
    rw [List.map_map, List.map_map] at hins
    exact hins.trans h.ins_eq
  · exact (h.flows a hne ha).congr (hrecrewed.untouched hne) (fun _ _ => rfl) fun _ _ => rfl
  · refine hrecrewed.untouched ?_
    rintro rfl
    exact lt_irrefl _ ha

/-- One input has given its head, and the others are as they were. -/
lemma ins_served (h : Poised w R q node team ins t) (hsound : w.Sound)
    (hslot : team.slots[i]? = some slot) (hserved : Served w R slot.supply t R' t') :
    (team.slots.map fun slot => R' slot.supply) = ins.set i (R slot.supply).tail := by
  have hnodup := hsound.nodup_suppliesOf q
  rw [h.suppliesOf_eq] at hnodup
  rw [← h.ins_eq]
  refine List.ext_getElem? fun j => ?_
  rw [List.getElem?_set, List.length_map, List.getElem?_map, List.getElem?_map]
  by_cases hij : i = j
  · subst hij
    rw [hslot, if_pos rfl, if_pos (List.getElem?_eq_some_iff.mp hslot).1, Option.map_some,
      hserved.tail_eq]
  · rw [if_neg hij]
    match hother : team.slots[j]? with
    | none => rfl
    | some other =>
      rw [Option.map_some, Option.map_some, hserved.kept]
      · intro heq
        refine hij ((List.getElem?_inj ?_ hnodup).mp ?_)
        · rw [List.length_map]
          exact (List.getElem?_eq_some_iff.mp hslot).1
        · rw [List.getElem?_map, List.getElem?_map, hslot, hother, Option.map_some,
            Option.map_some, heq]
      · intro a ha
        rw [hsound.hangs_unique ha (h.hangs hother)]
        exact hsound.level_lt (h.hangs hslot)

lemma served (h : Poised w R q node team ins t) (hsound : w.Sound)
    (hslot : team.slots[i]? = some slot) (hserved : Served w R slot.supply t R' t')
    (hw : t'.ledger.wiring = w) :
    Poised w R' q node team (ins.set i (R slot.supply).tail) t' ∧
      Shifts w (w.level (.supply (.node q))) R t R' t' := by
  have hhangs := h.hangs hslot
  have hlt := hsound.level_lt hhangs
  refine ⟨⟨hw, h.phase, ?_, h.ins_served hsound hslot hserved, fun a hne ha => ?_⟩,
    hserved.shifts hsound hhangs le_rfl⟩
  · exact Eq.trans (hserved.untouched (.supply (.node q)) hlt) h.here
  · by_cases hle : w.level a ≤ w.level (.supply slot.supply)
    · exact hserved.flows a hle
    · refine hserved.flows_above hsound h.wiring (not_le.mp hle) (fun ha' => hne ?_)
        (h.flows a hne ha)
      exact hsound.hangs_unique ha' hhangs

/-! ### Feeding the team -/

variable {next : Nat → Drive σ ω (Option Tuple)}

lemma after_pull (h : Poised w R q node team ins t) (hsound : w.Sound)
    (hslot : team.slots[i]? = some slot) (hin : ins[i]? = some s) (hquiet : ∀ q, Quiet (next q))
    (hpull : (onSupply next Seat.pull slot.supply).After False t (Answers w R slot.supply t)) :
    (onSupply next Seat.pull slot.supply).After False t fun result t' =>
      result = s.head ∧ ∀ given, result = .ok given → ∃ R',
        Poised w R' q node team (ins.set i s.tail) t' ∧
          Shifts w (w.level (.supply (.node q))) R t R' t' := by
  obtain rfl : R slot.supply = s := by
    rw [← h.ins_eq, List.getElem?_map, hslot, Option.map_some, Option.some.injEq] at hin
    exact hin
  refine (hpull.and (quiet_onSupply hquiet _ t)).mono fun result t' hresult => ?_
  obtain ⟨⟨hhead, hgives⟩, hledger⟩ := hresult
  refine ⟨hhead, fun given hgiven => ?_⟩
  obtain ⟨R', hserved⟩ := hgives given hgiven
  exact ⟨R', h.served hsound hslot hserved (by rw [hledger, h.wiring])⟩

lemma turned (h : Poised w R q node team ins t) (i : Nat) :
    Poised w R q node (team.turned i) ins (t.changeTeam q (Team.turned · i)) ∧
      Shifts w (w.level (.supply (.node q))) R t R (t.changeTeam q (Team.turned · i)) := by
  refine h.recrewed (recrewed_changeTeam h.here rfl (Team.turned · i)) rfl ?_
  rw [ledger_changeTeam_of_entry_eq (f := (Team.turned · i)) fun _ => ⟨rfl, rfl, rfl⟩, h.wiring]

/-- A team is fed with the head of the stream of one input. -/
lemma after_feed {goal : Result Unit → Tree σ ω → Prop} (h : Poised w R q node team ins t)
    (hsound : w.Sound) (hslot : team.slots[i]? = some slot) (hin : ins[i]? = some s)
    (hquiet : ∀ q, Quiet (next q))
    (hpull : (onSupply next Seat.pull slot.supply).After False (t.changeTeam q (Team.turned · i))
      (Answers w R slot.supply (t.changeTeam q (Team.turned · i))))
    (herror : ∀ e t', s.head = .error e → goal (.error e) t')
    (hsome : ∀ x R' t', s.head = .ok (some x) →
      Poised w R' q node (team.turned i) (ins.set i s.tail) t' →
      Shifts w (w.level (.supply (.node q))) R t R' t' →
      (deal q x slot.link : Drive σ ω Unit).After False t' goal)
    (hnone : ∀ R' t', s.head = .ok none →
      Poised w R' q node (team.turned i) (ins.set i s.tail) t' →
      Shifts w (w.level (.supply (.node q))) R t R' t' →
      (exhaust q i slot.link : Drive σ ω Unit).After False t' goal) :
    (feed next q i slot).After False t goal := by
  obtain ⟨hturned, hshifts⟩ := h.turned i
  refine after_modify_bind.mpr ((hturned.after_pull hsound hslot hin hquiet hpull).bind ?_ ?_)
  · intro e t' hresult
    exact herror e t' hresult.1.symm
  · intro given t' hresult
    obtain ⟨hhead, hgives⟩ := hresult
    obtain ⟨R', hpoised, hshifts'⟩ := hgives given rfl
    match given with
    | some x => exact hsome x R' t' hhead.symm hpoised (hshifts.trans hshifts')
    | none => exact hnone R' t' hhead.symm hpoised (hshifts.trans hshifts')

end Poised

/-- The team of a node has taken in what one of its inputs gave. -/
def Fed (w : Wiring) (R : Forecast) (q : Nat) (node : Node σ ω) (team : Team ω) (ins : List Stream)
    (t : Tree σ ω) (result : Result Unit) (t' : Tree σ ω) : Prop :=
  result = .ok () ∧ ∃ R', Poised w R' q node team ins t' ∧
    Shifts w (w.level (.supply (.node q))) R t R' t'

namespace Poised

variable {next : Nat → Drive σ ω (Option Tuple)} {x : Tuple} {v : ω}

/-- The worker whose turn it is takes in a tuple at some time. -/
lemma after_feed_tuple (h : Poised w R q node team ins t) (hsound : w.Sound)
    (hslot : team.slots[i]? = some slot) (hin : ins[i]? = some s) (hquiet : ∀ q, Quiet (next q))
    (hpull : (onSupply next Seat.pull slot.supply).After False (t.changeTeam q (Team.turned · i))
      (Answers w R slot.supply (t.changeTeam q (Team.turned · i))))
    (hhead : s.head = .ok (some x)) (hworker : team.workers[team.nextWorker]? = some v) :
    (feed next q i slot).After False t fun outcome t' => ∃ time,
      match Worker.process time (.tuple x slot.link) v with
      | (.ok given, v') => Fed w R q node (team.dealt i v' given) (ins.set i s.tail) t outcome t'
      | (.error e, _) => outcome = .error e := by
  refine h.after_feed hsound hslot hin hquiet hpull (fun e t' he => ?_) (fun y R' t' hy hp hs => ?_)
    fun R' t' hy => ?_
  · rw [hhead] at he
    cases he
  · rw [hhead] at hy
    cases hy
    refine ((after_deal hp.here rfl hworker).and (quiet_deal _ _ t')).mono ?_
    rintro outcome t'' ⟨⟨time, hdealt⟩, hledger⟩
    refine ⟨time, ?_⟩
    match hmade : Worker.process time (.tuple x slot.link) v with
    | (.error e, v') =>
      rw [hmade] at hdealt
      exact hdealt
    | (.ok given, v') =>
      rw [hmade] at hdealt
      obtain ⟨houtcome, hrecrewed⟩ := hdealt
      obtain ⟨hp', hs'⟩ := hp.recrewed hrecrewed rfl (by rw [hledger, hp.wiring])
      exact ⟨houtcome, R', hp', hs.trans hs'⟩
  · rw [hhead] at hy
    cases hy

/-- All workers take in the end of an input at some time. -/
lemma after_feed_end (h : Poised w R q node team ins t) (hsound : w.Sound)
    (hslot : team.slots[i]? = some slot) (hin : ins[i]? = some s) (hquiet : ∀ q, Quiet (next q))
    (hpull : (onSupply next Seat.pull slot.supply).After False (t.changeTeam q (Team.turned · i))
      (Answers w R slot.supply (t.changeTeam q (Team.turned · i))))
    (hhead : s.head = .ok none) (hworks : ∀ v ∈ team.workers, ∀ time, ∃ given v',
      Worker.process time (.exhausted slot.link) v = (.ok given, v')) :
    (feed next q i slot).After False t fun outcome t' => ∃ made,
      List.Forall₂ (Worker.MayMake (.exhausted slot.link)) team.workers made ∧
        Fed w R q node (team.ended i made) ins t outcome t' := by
  refine h.after_feed hsound hslot hin hquiet hpull (fun e t' he => ?_) (fun y R' t' hy => ?_)
    fun R' t' _ hp hs => ?_
  · rw [hhead] at he
    cases he
  · rw [hhead] at hy
    cases hy
  · have hins : ins.set i s.tail = ins := by
      rw [Stream.head_eq_ok_none_iff.mp hhead] at hin ⊢
      exact set_eq_self hin
    rw [hins] at hp
    refine ((after_exhaust (i := i) hp.here rfl hworks).and (quiet_exhaust i _ t')).mono ?_
    rintro outcome t'' ⟨⟨houtcome, made, hmade, hrecrewed⟩, hledger⟩
    obtain ⟨hp', hs'⟩ := hp.recrewed hrecrewed (map_modify_of_eq fun _ _ => rfl)
      (by rw [hledger, hp.wiring])
    exact ⟨made, hmade, houtcome, R', hp', hs.trans hs'⟩

lemma after_feed_error {e : Error} (h : Poised w R q node team ins t) (hsound : w.Sound)
    (hslot : team.slots[i]? = some slot) (hin : ins[i]? = some s) (hquiet : ∀ q, Quiet (next q))
    (hpull : (onSupply next Seat.pull slot.supply).After False (t.changeTeam q (Team.turned · i))
      (Answers w R slot.supply (t.changeTeam q (Team.turned · i))))
    (hhead : s.head = .error e) :
    (feed next q i slot).After False t fun outcome _ => outcome = .error e := by
  refine h.after_feed hsound hslot hin hquiet hpull (fun e' t' he => ?_) (fun y R' t' hy => ?_)
    fun R' t' hy => ?_
  · rw [hhead] at he
    cases he
    rfl
  · rw [hhead] at hy
    cases hy
  · rw [hhead] at hy
    cases hy

end Poised

/-! ### Pulling the node -/

variable {x : Tuple} {rest : List Tuple} {next : Nat → Drive σ ω (Option Tuple)}

lemma after_nextAt_feed {post : Result (Option Tuple) → Tree σ ω → Prop}
    (h : Poised w R q node team ins t) (hpending : team.pending = [])
    (hpick : team.pick? = some (i, slot))
    (hfeed : (do feed next q i slot; next q).After False t post) :
    (nextAt next q).After False t post := by
  refine after_get_bind.mpr ?_
  simp only [h.here, h.phase, hpending, hpick]
  exact after_lift_bind.mpr ⟨nofun, fun _ _ => hfeed⟩

/-- A node gives a tuple that waits to be taken. -/
lemma answers_pending (hsound : w.Sound) (h : Poised w R q node team ins t)
    (hpending : team.pending = x :: rest) (hout : R (.node q) = out.after [x])
    (hrest : ({ team with pending := rest } : Team ω).Yields ins out) :
    (nextAt next q).After False t (Answers w R (.node q) t) := by
  refine after_get_bind.mpr ?_
  simp only [h.here, h.phase, hpending]
  refine after_lift_bind.mpr ⟨nofun, fun _ _ => after_modify_bind.mpr (after_pure.mpr ?_)⟩
  have hrecrewed := recrewed_changeTeam h.here rfl fun team => { team with pending := rest }
  refine ⟨by rw [hout]; rfl, fun _ _ => ⟨_, .of_home hsound h.wiring h.flows
    (fun a ha => hrecrewed.untouched ha) fun node' hnode => ?_⟩⟩
  rw [hrecrewed.here, Option.some.injEq] at hnode
  subst hnode
  refine ⟨h.phase, ?_⟩
  have hins : (team.slots.map fun slot =>
      Function.update R (.node q) (R (.node q)).tail slot.supply) = ins := by
    rw [← h.ins_eq]
    refine List.map_congr_left fun slot hslot => Function.update_of_ne (fun heq => ?_) ..
    obtain ⟨j, hj⟩ := List.mem_iff_getElem?.mp hslot
    have hlt := hsound.level_lt (h.hangs hj)
    rw [heq] at hlt
    exact lt_irrefl _ hlt
  simp only [Crew.Flows, hins, Function.update_self]
  rw [hout]
  exact hrest

lemma answers_finish (h : Poised w R q node team ins t) (hpending : team.pending = [])
    (hpick : team.pick? = none) (hout : R (.node q) = .done) :
    (nextAt next q).After False t (Answers w R (.node q) t) := by
  refine after_get_bind.mpr ?_
  simp only [h.here, h.phase, hpending, hpick]
  refine after_lift_bind.mpr ⟨nofun, fun _ _ => after_pure.mpr ⟨by rw [hout]; rfl, fun _ _ => ?_⟩⟩
  refine ⟨R, by rw [hout]; rfl, h.flows_all ?_, fun _ _ => .refl, fun _ _ _ => rfl⟩
  rw [hout]
  exact .finish hpending hpick

lemma answers_error {e : Error} (h : Poised w R q node team ins t) (hpending : team.pending = [])
    (hpick : team.pick? = some (i, slot)) (hout : R (.node q) = ⟨[], some e⟩)
    (hfeed : (feed next q i slot).After False t fun outcome _ => outcome = .error e) :
    (nextAt next q).After False t (Answers w R (.node q) t) := by
  refine after_nextAt_feed h hpending hpick (hfeed.bind (fun e' _ he => ?_) fun _ _ he => ?_)
  · cases he
    exact ⟨by rw [hout]; rfl, nofun⟩
  · cases he

/-- A node that is fed goes on as its team does then. -/
lemma exists_answers_of_fed {depth : Nat} (hsound : w.Sound) (h : Poised w R q node team ins t)
    (hpending : team.pending = []) (hpick : team.pick? = some (i, slot))
    (hfeed : (feed (nextNode depth) q i slot).After False t (Fed w R q node team' ins' t))
    (hnext : ∀ R' t', Poised w R' q node team' ins' t' → R' (.node q) = R (.node q) →
      ∃ depth, (nextNode depth q).After False t' (Answers w R' (.node q) t')) :
    ∃ depth, (nextNode depth q).After False t (Answers w R (.node q) t) := by
  obtain ⟨result, t', houtcome, rfl, R', hpoised, hshifts⟩ := hfeed.exists
  have hkept := hshifts.kept (.node q) fun a ha => hsound.level_lt ha
  obtain ⟨depth', hdepth'⟩ := hnext R' t' hpoised hkept
  refine ⟨max depth depth' + 1, after_nextAt_feed h hpending hpick ?_⟩
  have hfed : (feed (nextNode (max depth depth')) q i slot).After False t
      fun result t'' => result = .ok () ∧ t' = t'' :=
    (refines_feed (refines_nextNode (le_max_left ..)) i slot).after
      ((after_of_outcome houtcome).mpr ⟨rfl, rfl⟩)
  refine hfed.bind (fun _ _ he => ?_) fun _ t'' he => ?_
  · cases he.1
  · obtain ⟨-, rfl⟩ := he
    refine ((refines_nextNode (le_max_right depth depth') q).after hdepth').mono fun _ _ hans => ?_
    exact hans.of_shifts hshifts hsound

/-- The input whose turn it is gives what was forecast, if everything that feeds the node does. -/
lemma Poised.exists_pull (h : Poised w R q node team ins t) (hsound : w.Sound)
    (hpull : ∀ x ∈ w.suppliesOf q, ∀ t' : Tree σ ω, t'.ledger.wiring = w →
      (∀ a, w.level a ≤ w.level (.supply x) → t'.Flows R a) → ∃ depth,
        (onSupply (nextNode depth) Seat.pull x).After False t' (Answers w R x t'))
    (hpick : team.pick? = some (i, slot)) : ∃ depth,
      (onSupply (nextNode depth) Seat.pull slot.supply).After False
        (t.changeTeam q (Team.turned · i))
        (Answers w R slot.supply (t.changeTeam q (Team.turned · i))) := by
  have hhangs := h.hangs (Team.pick?_eq_some hpick).1
  have hlt := hsound.level_lt hhangs
  obtain ⟨hturned, -⟩ := h.turned i
  refine hpull _ (Wiring.hangs_node_iff.mp hhangs) _ hturned.wiring fun a ha => ?_
  refine hturned.flows a ?_ (ha.trans hlt.le)
  rintro rfl
  exact absurd hlt (not_lt.mpr ha)

/-- A node gives what its team does, if what feeds it gives what was forecast. -/
theorem exists_answers_of_yields (hsound : w.Sound)
    (hpull : ∀ x ∈ w.suppliesOf q, ∀ (R : Forecast) (t : Tree σ ω), t.ledger.wiring = w →
      (∀ a, w.level a ≤ w.level (.supply x) → t.Flows R a) → ∃ depth,
        (onSupply (nextNode depth) Seat.pull x).After False t (Answers w R x t))
    (hyields : team.Yields ins out) (h : Poised w R q node team ins t)
    (hout : R (.node q) = out) :
    ∃ depth, (nextNode depth q).After False t (Answers w R (.node q) t) := by
  have hsupply {team : Team ω} {ins : List Stream} {R : Forecast} {t : Tree σ ω} {i : Nat}
      {slot : Slot} (h : Poised w R q node team ins t) (hpick : team.pick? = some (i, slot)) :=
    h.exists_pull hsound (fun x hx => hpull x hx R) hpick
  have hquiet (depth q : Nat) : Quiet (nextNode depth q : Drive σ ω _) := quiet_nextNode depth q
  -- The induction is on how the stream of the team comes about: each way is one way to pull it.
  induction hyields generalizing R t with
  | pending hpending hrest => exact ⟨1, answers_pending hsound h hpending hout hrest⟩
  | finish hpending hpick => exact ⟨1, answers_finish h hpending hpick hout⟩
  | tuple hpending hpick hin hhead hworker hmakes hrest ih =>
    obtain ⟨depth, hdepth⟩ := hsupply h hpick
    refine exists_answers_of_fed hsound h hpending hpick ((h.after_feed_tuple hsound
      (Team.pick?_eq_some hpick).1 hin (hquiet depth) hdepth hhead hworker).mono ?_)
      fun R' t' hpoised hkept => ih hpoised (hkept.trans hout)
    rintro _ _ ⟨time, hfed⟩
    rwa [hmakes time] at hfed
  | refused hpending hpick hin hhead hworker hmakes =>
    obtain ⟨depth, hdepth⟩ := hsupply h hpick
    refine ⟨depth + 1, answers_error h hpending hpick hout ((h.after_feed_tuple hsound
      (Team.pick?_eq_some hpick).1 hin (hquiet depth) hdepth hhead hworker).mono ?_)⟩
    rintro _ _ ⟨time, hfailed⟩
    rwa [hmakes time] at hfailed
  | exhausted hpending hpick hin hhead hmakes hrest ih =>
    obtain ⟨depth, hdepth⟩ := hsupply h hpick
    refine exists_answers_of_fed hsound h hpending hpick ((h.after_feed_end hsound
      (Team.pick?_eq_some hpick).1 hin (hquiet depth) hdepth hhead fun v hv time => ?_).mono ?_)
      fun R' t' hpoised hkept => ih hpoised (hkept.trans hout)
    · obtain ⟨k, hk, rfl⟩ := List.getElem_of_mem hv
      exact ⟨_, _, hmakes.get hk (hmakes.length_eq ▸ hk) time⟩
    · rintro _ _ ⟨made, hmade, hfed⟩
      rwa [forall₂_unique hmade hmakes fun _ _ _ hmay hmakes => hmakes.eq_of_mayMake hmay] at hfed
  | broken hpending hpick hin hhead =>
    obtain ⟨depth, hdepth⟩ := hsupply h hpick
    exact ⟨depth + 1, answers_error h hpending hpick hout (h.after_feed_error hsound
      (Team.pick?_eq_some hpick).1 hin (hquiet depth) hdepth hhead)⟩

/-- A source gives what was forecast. -/
lemma answers_source {src : σ} {started : Bool} (hsound : w.Sound) (hw : t.ledger.wiring = w)
    (hq : t.nodes[q]? = some node) (hphase : node.phase = .opened)
    (hcrew : node.crew = .source src started) (hyields : Source.Yields src (R (.node q)))
    (hflows : ∀ a, a ≠ .supply (.node q) → w.level a ≤ w.level (.supply (.node q)) → t.Flows R a) :
    (nextAt next q).After False t (Answers w R (.node q) t) := by
  obtain ⟨src', hnext, hrest⟩ := hyields.next_eq
  refine after_get_bind.mpr ?_
  simp only [hq, hphase, hcrew]
  refine after_lift_bind.mpr ⟨nofun, fun _ _ => ?_⟩
  refine After.bind (Q := fun result t' => result = (R (.node q)).head ∧
    t'.nodes = t.nodes.modify q (fun node => { node with crew := .source src' started }) ∧
      t'.junctions = t.junctions)
    (after_callSource.mpr ?_) (fun e t' he => ?_) fun given t' he => ?_
  · rw [hnext]
    exact ⟨rfl, rfl, rfl⟩
  · exact ⟨he.1, nofun⟩
  · obtain ⟨hhead, hnodes, hjunctions⟩ := he
    refine after_modify_bind.mpr (after_pure.mpr ⟨hhead, fun _ _ => ⟨_, .of_home hsound hw hflows
      (fun a ha => ?_) fun node' hnode => ?_⟩⟩)
    · match a with
      | .supply (.node k) =>
        change t'.nodes[k]? = t.nodes[k]?
        have hne : q ≠ k := fun heq => ha (heq ▸ rfl)
        simp [hnodes, hne]
      | .supply (.endpoint ..) => trivial
      | .joint c => exact congrArg (·[c]?) hjunctions
    · change t'.nodes[q]? = _ at hnode
      simp only [hnodes, List.getElem?_modify, hq, if_true, Option.map_eq_map, Option.map_some,
        Option.some.injEq] at hnode
      subst hnode
      refine ⟨hphase, ?_⟩
      rw [Function.update_self]
      exact hrest given hhead.symm

/-! ### Whole trees -/

/-- What feeds a node gives what was forecast if the nodes behind it do. -/
lemma exists_answers_of_below (hsound : w.Sound) {x : Supply} (hx : x ∈ w.suppliesOf q)
    (hw : t.ledger.wiring = w) (hflows : ∀ a, w.level a ≤ w.level (.supply x) → t.Flows R a)
    (hbelow : ∀ p < q, w.Has (.node p) →
      (∀ a, w.level a ≤ w.level (.supply (.node p)) → t.Flows R a) →
      ∃ depth, (nextNode depth p).After False t (Answers w R (.node p) t)) :
    ∃ depth, (onSupply (nextNode depth) Seat.pull x).After False t (Answers w R x t) := by
  have hplaced := hsound.below q x hx
  have hhas := hsound.has_of_hangs (.slot hx)
  match x with
  | .node p => exact hbelow p hplaced hhas hflows
  | .endpoint c i =>
    obtain ⟨p, n, hjoint, hi, hlt⟩ := hplaced
    have hhas' : w.Has (.node p) := hsound.has_of_hangs (.producer hjoint)
    have hlevel : w.level (.supply (.node p)) ≤ w.level (.joint c) :=
      (hsound.level_lt (.producer hjoint)).le
    obtain ⟨depth, hdepth⟩ := hbelow p hlt hhas' fun a ha => hflows a (ha.trans hlevel)
    obtain ⟨junction, hc, hproducer, -⟩ := exists_junction_of_wiring hw hjoint
    refine ⟨depth, after_get_bind.mpr ?_⟩
    simp only [hc, Option.map_some, Option.getD_some, hproducer]
    exact answers_pull hsound hw hjoint hi hflows (quiet_nextNode depth p) hdepth

/-- Every node gives what was forecast. -/
theorem exists_answers_nextNode (hsound : w.Sound) (q : Nat) (R : Forecast) (t : Tree σ ω)
    (hw : t.ledger.wiring = w) (hhas : w.Has (.node q))
    (hflows : ∀ a, w.level a ≤ w.level (.supply (.node q)) → t.Flows R a) :
    ∃ depth, (nextNode depth q).After False t (Answers w R (.node q) t) := by
  induction q using Nat.strong_induction_on generalizing R t with
  | _ q ih =>
    obtain ⟨node, hq⟩ := exists_node_of_has (hw ▸ hhas)
    obtain ⟨hphase, hcrew⟩ := hflows (.supply (.node q)) le_rfl node hq
    cases hc : node.crew with
    | source src started =>
      rw [hc] at hcrew
      exact ⟨1, answers_source hsound hw hq hphase hc hcrew fun a _ => hflows a⟩
    | team team =>
      rw [hc] at hcrew
      have hpoised : Poised w R q node team (team.slots.map fun slot => R slot.supply) t := by
        refine ⟨hw, hphase, ?_, rfl, fun a _ => hflows a⟩
        rw [hq, ← hc]
      refine exists_answers_of_yields hsound (fun x hx R t hw hflows => ?_) hcrew hpoised rfl
      exact exists_answers_of_below hsound hx hw hflows fun p hp hhas => ih p hp R t hw hhas

lemma Poised.exists_answers (h : Poised w R q node team ins t) (hsound : w.Sound)
    (hpick : team.pick? = some (i, slot)) : ∃ depth,
      (onSupply (nextNode depth) Seat.pull slot.supply).After False
        (t.changeTeam q (Team.turned · i))
        (Answers w R slot.supply (t.changeTeam q (Team.turned · i))) :=
  h.exists_pull hsound (fun _ hx t' hw hflows => exists_answers_of_below hsound hx hw hflows
    fun p _ hhas => exists_answers_nextNode hsound p R t' hw hhas) hpick

/-! ### Whole runs -/

lemma exists_drain_of_last {depth : Nat} {given : List Tuple} {goal : Result (List Tuple) → Prop}
    (hlast : (nextNode depth t.root).After False t fun result _ =>
      (result = .ok none ∧ goal (.ok given.reverse)) ∨
        ∃ e, result = .error e ∧ goal (.error e)) :
    ∃ depth, (drain depth depth given).After False t fun result _ => goal result := by
  have hnext := (refines_nextNode (Nat.le_succ depth) t.root).after hlast
  refine ⟨depth + 1, (after_get_bind.mpr hnext).bind (fun e t' h => ?_) fun x t' h => ?_⟩
  · rcases h with ⟨hok, -⟩ | ⟨e', he, hgoal⟩
    · cases hok
    · cases he
      exact hgoal
  · rcases h with ⟨hnone, hgoal⟩ | ⟨e', he, -⟩
    · cases hnone
      exact after_pure.mpr hgoal
    · cases he

/-- A run that gives a tuple goes on like one that begins behind it. -/
lemma exists_drain_of_more {depth depth' : Nat} {given : List Tuple}
    {goal : Result (List Tuple) → Tree σ ω → Prop}
    (hfirst : (nextNode depth t.root).outcome t = some (.ok (some x), t'))
    (hrest : (drain depth' depth' (x :: given)).After False t' goal) :
    ∃ depth, (drain depth depth given).After False t goal := by
  have hle : depth ≤ max depth depth' + 1 := (le_max_left ..).trans (Nat.le_succ _)
  have hle' : depth' ≤ max depth depth' + 1 := (le_max_right ..).trans (Nat.le_succ _)
  have hnext : (next (max depth depth' + 1)).After False t fun result t'' =>
      result = .ok (some x) ∧ t' = t'' :=
    after_get_bind.mpr ((refines_nextNode hle t.root).after
      ((after_of_outcome hfirst).mpr ⟨rfl, rfl⟩))
  refine ⟨max depth depth' + 1, hnext.bind (fun _ _ h => nomatch h.1) ?_⟩
  rintro _ _ ⟨hgiven, rfl⟩
  cases hgiven
  exact (refines_drain hle' (le_max_right ..) (x :: given)).after hrest

/-- Pulled again and again, the sink gives its whole forecast. -/
theorem exists_drain (hsound : w.Sound) (hw : t.ledger.wiring = w)
    (hflows : ∀ a, w.level a ≤ w.level (.supply (.node w.root)) → t.Flows R a)
    (given : List Tuple) :
    ∃ depth, (drain depth depth given).After False t fun result _ =>
      result = ((R (.node w.root)).after given.reverse).all := by
  generalize hout : R (.node w.root) = out
  obtain ⟨tuples, failure⟩ := out
  have hroot (t : Tree σ ω) (hw : t.ledger.wiring = w) : t.root = w.root := by rw [← hw]; rfl
  -- Every pull takes one tuple off the forecast, so the induction is on those that are left.
  induction tuples generalizing R t given with
  | nil =>
    obtain ⟨depth, hdepth⟩ := exists_answers_nextNode hsound _ R t hw hsound.root_lt hflows
    rw [← hroot t hw] at hdepth hout
    refine exists_drain_of_last (hdepth.mono fun result t' h => ?_)
    have hhead := h.1
    rw [hout] at hhead
    match failure with
    | none => exact .inl ⟨hhead, by simp [Stream.all, Stream.after]⟩
    | some e => exact .inr ⟨e, hhead, rfl⟩
  | cons x tuples ih =>
    obtain ⟨depth, hdepth⟩ := exists_answers_nextNode hsound _ R t hw hsound.root_lt hflows
    obtain ⟨result, t', houtcome, ⟨hhead, hgives⟩, hledger⟩ :=
      (hdepth.and (quiet_nextNode depth w.root t)).exists
    rw [hout] at hhead
    subst hhead
    obtain ⟨R', hserved⟩ := hgives _ rfl
    obtain ⟨depth', hdepth'⟩ := ih (by rw [hledger, hw]) hserved.flows (x :: given)
      (by rw [hserved.tail_eq, hout]; rfl)
    rw [← hroot t hw] at houtcome
    refine exists_drain_of_more houtcome (hdepth'.mono fun result _ h => ?_)
    rw [h, List.reverse_cons, Stream.after_append]
    rfl

end Tree

end Dataflow
