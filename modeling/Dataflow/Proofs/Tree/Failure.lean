import Dataflow.Proofs.Tree.Close
import Dataflow.Proofs.Tree.Staffed

/-!
# Failures come from executors

As long as a tree is opened once, pulled while it is open and closed once, nothing is ever refused:
an operation fails exactly if an executor did, with the error of the first one that failed.
-/

namespace Dataflow

namespace Tree

open Act Ledger

variable {σ ω : Type}

section Pull

variable {t : Tree σ ω} {place : Nat} {α β : Type} {l : Ledger}

/-- Only calls to work were made. -/
abbrev Pulled (t : Tree σ ω) (failure : Option Error) (t' : Tree σ ω) : Prop :=
  Explained (fun c => c.event ≠ .start ∧ c.event ≠ .stop) t failure t'

/-- An action that works on trees with a given ledger fails only along with an executor. -/
def Pulls (l : Ledger) (a : Drive σ ω α) : Prop :=
  ∀ t, t.ledger = l → t.Sane → a.After True t fun result t' =>
    Pulled t (Result.error? result) t' ∧ t'.ledger = l

lemma Pulls.of_quiet {a : Drive σ ω α} (hquiet : Quiet a)
    (h : ∀ t, a.After True t fun result t' => Pulled t (Result.error? result) t') : Pulls l a :=
  fun t hl _ => ((h t).and (hquiet t)).mono fun _ _ h => ⟨h.1, h.2.trans hl⟩

lemma pulls_pure (x : α) : Pulls l (pure x : Drive σ ω α) :=
  fun _ hl _ => after_pure.mpr ⟨.refl, hl⟩

lemma Pulls.bind {a : Drive σ ω α} {f : α → Drive σ ω β} (h : Pulls l a)
    (hf : ∀ x, Pulls l (f x)) : Pulls l (a >>= f) := by
  intro t hl hsane
  refine (h t hl hsane).bind (fun _ _ => id) fun x t' ⟨hpulled, hl'⟩ => ?_
  exact (hf x t' hl' (hpulled.sane hsane)).mono fun _ _ h' => ⟨hpulled.trans h'.1, h'.2⟩

lemma pulls_forM {ι : Type} {f : ι → Drive σ ω PUnit} (xs : List ι) (hf : ∀ x, Pulls l (f x)) :
    Pulls l (xs.forM f) := by
  induction xs with
  | nil => exact pulls_pure _
  | cons x xs ih => exact (hf x).bind fun _ => ih

lemma pulls_changeTeam {f : Team ω → Team ω}
    (h : ∀ team, (f team).slots.map Slot.supply = team.slots.map Slot.supply ∧
      (f team).workers.length = team.workers.length ∧ (f team).started = team.started) :
    Pulls l (modify (·.changeTeam place f) : Drive σ ω PUnit) :=
  .of_quiet (quiet_changeTeam h) fun _ => after_modify.mpr (.of_eq rfl rfl)

lemma pulls_team? (place : Nat) : Pulls l (team? place : Drive σ ω (Option (Team ω))) := by
  refine .of_quiet (quiet_team? place) fun t => after_get_bind.mpr ?_
  split <;> exact after_pure.mpr .refl

lemma pulls_work [Source σ] [Worker ω] (i : Nat) (input : Input) :
    Pulls l (deliver place i input : Drive σ ω Unit) := by
  refine .of_quiet (quiet_work i input) fun t => after_handed (fun _ => .refl) ?_
  intro node team w _ _ _
  have hclock : Pulled t none { t with readings := t.readings + 1 } := .of_eq rfl rfl
  have hcall : (callWorker place i w (.process input) (Worker.process (t.clock t.readings) input) :
      Drive σ ω (List Tuple)).After True { t with readings := t.readings + 1 } fun result t' =>
        Pulled t (Result.error? result) t' :=
    after_callWorker.mpr (hclock.trans (.of_call (c := ⟨place, some i, .process input,
      Result.error? (Worker.process (t.clock t.readings) input w).1⟩) rfl ⟨nofun, nofun⟩ rfl))
  refine hcall.mono fun result t' h => ?_
  cases result with
  | ok given => exact h.trans (.of_eq rfl rfl)
  | error e => exact h

lemma pulls_deal [Source σ] [Worker ω] (x : Tuple) (link : Link) :
    Pulls l (deal place x link : Drive σ ω Unit) := by
  refine (pulls_team? place).bind fun found => ?_
  match found with
  | none => exact pulls_pure _
  | some team =>
    refine Pulls.bind (pulls_changeTeam ?_) fun _ => pulls_work _ _
    exact fun _ => ⟨rfl, rfl, rfl⟩

lemma pulls_exhaust [Source σ] [Worker ω] (i : Nat) (link : Link) :
    Pulls l (exhaust place i link : Drive σ ω Unit) := by
  refine (pulls_team? place).bind fun found => ?_
  match found with
  | none => exact pulls_pure _
  | some team =>
    refine Pulls.bind (pulls_changeTeam ?_) fun _ => pulls_forM _ fun w => pulls_work w _
    refine fun team => ⟨?_, rfl, rfl⟩
    exact map_modify_of_eq fun _ _ => rfl

/-- An endpoint takes what its connector was given beyond it. -/
lemma pulled_deliver {c : ConnectorId} {i : Nat} {e : Endpoint} (hsane : t.Sane)
    (he : ((seat c).read t).endpoints[i]? = some e) (hlive : e.isLive)
    (hlt : e.position < ((seat c).read t).reach) :
    ((seat c).deliver i : Drive σ ω (Option Tuple)).After True t fun result t' =>
      Pulled t (Result.error? result) t' := by
  obtain ⟨junction, hc, hjunction⟩ := exists_junction he
  have hread : ((seat c).read t).Sane := hjunction ▸ hsane junction (List.mem_of_getElem? hc)
  obtain ⟨x, hcon, -, hsane'⟩ := hread.read he hlive hlt
  refine after_get_bind.mpr (after_lift_bind.mpr ⟨fun _ h => ?_, fun given h => ?_⟩)
  · rw [hcon] at h
    cases h
  · rw [hcon] at h
    cases h
    refine after_modify_bind.mpr (after_pure.mpr ?_)
    exact Explained.trans (.of_write fun _ => hsane'.evict) (.of_eq rfl rfl)

lemma pulls_pull [Source σ] [Worker ω] {next : Drive σ ω (Option Tuple)} {c : ConnectorId} {i : Nat}
    (hopen : l.phase? (.endpoint c i) = some .opened) (hquiet : Quiet next)
    (hnext : Pulls l next) : Pulls l ((seat c).pull next i) := by
  -- The endpoint is there and open in every tree with this ledger.
  have hendpoint (t : Tree σ ω) (hl : t.ledger = l) :
      ∃ e, ((seat c).read t).endpoints[i]? = some e ∧ e.phase = .opened := by
    rw [← hl] at hopen
    obtain ⟨junction, hc, hphase⟩ := phase?_endpoint_eq_some_iff.mp hopen
    simpa [seat, hc, Connector.phases] using hphase
  intro t hl hsane
  refine ((?_ : ((seat c).pull next i).After True t fun result t' =>
    Pulled t (Result.error? result) t').and (quiet_pull c i hquiet t)).mono
      fun _ _ h => ⟨h.1, h.2.trans hl⟩
  refine Seat.after_pull (fun hnot => ?_) fun e he hphase => ?_
  · obtain ⟨e, he, hphase⟩ := hendpoint t hl
    rw [Connector.endpoint_eq he] at hnot
    exact (hnot hphase).elim
  have hlive : e.isLive := by simp [Endpoint.isLive, hphase]
  split_ifs with hlt
  · exact pulled_deliver hsane he hlive hlt
  · exact .refl
  · refine (hnext t hl hsane).mono ?_
    rintro (e' | given) t' ⟨hpulled, hl'⟩
    · exact hpulled
    have hsane' := hpulled.sane hsane
    cases given with
    | none => exact hpulled.trans (.of_write fun h => h)
    | some x =>
      obtain ⟨e', he', hphase'⟩ := hendpoint t' hl'
      have hlive' : e'.isLive := by simp [Endpoint.isLive, hphase']
      obtain ⟨junction, hc, hjunction⟩ := exists_junction he'
      obtain ⟨-, hreach⟩ := hsane' junction (List.mem_of_getElem? hc) e' (by
        rw [hjunction]
        exact List.mem_of_getElem? he') hlive'
      have hwrite : Pulled t' none ((seat c).write (((seat c).read t').push x) t') :=
        .of_write fun h => h.push x
      have hread := @read_write _ _ t' c (((seat c).read t').push x) _ hc
      refine (pulled_deliver (hwrite.sane hsane') (e := e') ?_ hlive' ?_).mono
        fun _ _ h => (hpulled.trans hwrite).trans h
      · rw [hread]
        exact he'
      · rw [hread, Connector.reach_push, ← hjunction]
        exact Nat.lt_succ_of_le hreach

section Nodes

variable [Source σ] [Worker ω] {next : Nat → Drive σ ω (Option Tuple)}
  (hquiet : ∀ q, Quiet (next q))
  (hnext : ∀ q, l.wiring.Has (.node q) → Pulls l (next q))

include hquiet hnext

lemma pulls_onSupply {x : Supply} (hsound : l.wiring.Sound) (hhas : l.wiring.Has x)
    (hopen : l.phase? x = some .opened) : Pulls l (onSupply next Seat.pull x) := by
  match x with
  | .node q => exact hnext q hhas
  | .endpoint c i =>
    obtain ⟨q, n, hjoint, -⟩ := hhas
    intro t hl
    refine fun hsane => after_get_bind.mpr ?_
    rw [producer_eq (hl ▸ hjoint)]
    have hproducer := hsound.has_of_hangs (.producer hjoint)
    exact pulls_pull hopen (hquiet q) (hnext q hproducer) t hl hsane

lemma pulls_feed {place i : Nat} {slot : Slot} (hsound : l.wiring.Sound)
    (hhas : l.wiring.Has slot.supply) (hopen : l.phase? slot.supply = some .opened) :
    Pulls l (feed next place i slot) := by
  refine Pulls.bind (pulls_changeTeam ?_) fun _ =>
    (pulls_onSupply hquiet hnext hsound hhas hopen).bind fun given => ?_
  · exact fun _ => ⟨rfl, rfl, rfl⟩
  · match given with
    | some x => exact pulls_deal x _
    | none => exact pulls_exhaust i _

lemma pulls_nextAt (hsound : l.wiring.Sound)
    (hopen : ∀ x, l.wiring.Has x → l.phase? x = some .opened)
    (hhas : l.wiring.Has (.node place)) : Pulls l (nextAt next place) := by
  intro t hl hsane
  obtain ⟨node, hnode⟩ := exists_node_of_has (hl ▸ hhas)
  have hphase : node.phase = .opened := by
    have hplace := hopen _ hhas
    rw [← hl, phase?_node hnode, Option.some.injEq] at hplace
    exact hplace
  refine ((?_ : (nextAt next place).After True t fun result t' =>
    Pulled t (Result.error? result) t').and (quiet_nextAt hquiet t)).mono
      fun _ _ h => ⟨h.1, h.2.trans hl⟩
  refine after_get_bind.mpr ?_
  rw [hnode]
  refine after_lift_bind.mpr ⟨fun _ h => ?_, fun _ _ => ?_⟩
  · rw [hphase] at h
    cases h
  split
  · next s started hcrew =>
    have hcall : (callSource place s started .next Source.next :
        Drive σ ω (Option Tuple)).After True t fun result t' =>
          Pulled t (Result.error? result) t' :=
      after_callSource.mpr (.of_call
        (c := ⟨place, none, .next, Result.error? (Source.next s).1⟩) rfl (by simp) rfl)
    refine hcall.bind (fun _ _ => id) fun given t' h => ?_
    refine after_modify_bind.mpr (after_pure.mpr (h.trans ?_))
    exact .of_eq rfl rfl
  · next team hcrew =>
    split
    · exact after_modify_bind.mpr (after_pure.mpr (.of_eq rfl rfl))
    · split
      · exact after_pure.mpr .refl
      · next i slot hpick =>
        have hslot : slot.supply ∈ l.wiring.suppliesOf place :=
          hl ▸ mem_suppliesOf_of_mem_slots hnode hcrew
            (List.mem_of_getElem? (Team.pick?_eq_some hpick).1)
        have hslotHas := hsound.has_of_hangs (.slot hslot)
        exact (Pulls.bind (pulls_feed hquiet hnext hsound hslotHas (hopen _ hslotHas))
          (fun _ => hnext place hhas) t hl hsane).mono fun _ _ h => h.1

end Nodes

/-- Pulling a tree that is open is never refused. -/
theorem pulls_nextNode [Source σ] [Worker ω] (depth : Nat) (hsound : l.wiring.Sound)
    (hopen : ∀ x, l.wiring.Has x → l.phase? x = some .opened)
    (hhas : l.wiring.Has (.node place)) :
    Pulls l (nextNode depth place : Drive σ ω (Option Tuple)) := by
  induction depth generalizing place with
  | zero => exact fun _ _ _ => after_endless.mpr trivial
  | succ depth ih => exact pulls_nextAt (quiet_nextNode depth) (fun _ => ih) hsound hopen hhas

end Pull

section Stop

variable [Source σ] [Worker ω] {t : Tree σ ω} {place : Nat}

/-- A call to close, which an executor of the given types answered. -/
def IsStop (σ ω : Type) [Source σ] [Worker ω] (c : Call) : Prop :=
  c.event = .stop ∧ ((∃ s : σ, c.failure = Result.error? (Source.stop s).1) ∨
    ∃ w : ω, c.failure = Result.error? (Worker.stop w).1)

/-- Only calls to close were made. -/
abbrev Stopped (t : Tree σ ω) (failure : Option Error) (t' : Tree σ ω) : Prop :=
  Explained (IsStop σ ω) t failure t'

lemma stopped_tryAll_cons {a : Drive σ ω Unit} {rest : List (Drive σ ω Unit)}
    {M : Tree σ ω → Prop} (h : a.After True t fun result t' =>
      Stopped t (Result.error? result) t' ∧ M t')
    (hrest : ∀ t', M t' → (tryAll rest).After True t' fun result t'' =>
      Stopped t' (Result.error? result) t'') :
    (tryAll (a :: rest)).After True t fun result t' => Stopped t (Result.error? result) t' := by
  refine after_tryAll_cons h fun first t' ⟨hfirst, hmid⟩ => (hrest t' hmid).mono ?_
  intro others t'' hothers
  have hor := hfirst.or hothers
  match first with
  | .ok _ => exact hor
  | .error _ => exact hor

lemma stopped_stopWorkers (is : List Nat) :
    (tryAll (is.map (stopWorker place)) : Drive σ ω Unit).After True t fun result t' =>
      Stopped t (Result.error? result) t' := by
  induction is generalizing t with
  | nil => exact after_tryAll_nil.mpr .refl
  | cons i is ih =>
    refine stopped_tryAll_cons (M := fun _ => True) ?_ fun t' _ => ih
    refine after_team?_bind (fun _ => after_pure.mpr ⟨.refl, trivial⟩) fun node team _ _ => ?_
    match hw : team.workers[i]? with
    | none =>
      simp only [hw]
      exact after_pure.mpr ⟨.refl, trivial⟩
    | some w =>
      simp only [hw]
      exact after_callWorker.mpr ⟨.of_call
        (c := ⟨place, some i, .stop, Result.error? (Worker.stop w).1⟩) rfl ⟨rfl, .inr ⟨w, rfl⟩⟩ rfl,
        trivial⟩

lemma stopped_stopEndpoint {stop : Drive σ ω Unit} {c : ConnectorId} {i q n : Nat}
    (hready : Ready Done (.endpoint c i) t.ledger)
    (hjoint : t.ledger.wiring.joints[c]? = some (q, n))
    (hstop : ∀ t' : Tree σ ω, Ready Done (.node q) t'.ledger →
      stop.After True t' fun result t'' => Stopped t' (Result.error? result) t'') :
    ((seat c).stopEndpoint stop i).After True t fun result t' =>
      Stopped t (Result.error? result) t' := by
  obtain ⟨junction, hjunction, hread, rfl, rfl⟩ := exists_junction_of_joint hjoint
  have hi : i < junction.connector.endpoints.length :=
    (Wiring.has_endpoint_iff hjoint).mp hready.has
  refine after_get_bind.mpr (after_lift_bind.mpr ⟨fun e hcon => ?_, fun con hcon => ?_⟩)
  · rw [hread] at hcon
    refine (hready.not_marked ?_).elim
    simpa [Done, phase?_endpoint hjunction] using stopEndpoint_eq_error hi hcon
  rw [hread] at hcon
  let t₁ := (seat c).measure (.buffered con.producer con.buffer.length) ((seat c).write con t)
  have hwrite : Stopped t none t₁ := Explained.trans
    (.of_write fun hsane => (hread ▸ hsane : junction.connector.Sane).stopEndpoint hcon)
    (.of_eq rfl rfl)
  refine after_modify_bind.mpr ?_
  change (if !con.isLive then stop else pure () : Drive σ ω Unit).After True t₁ _
  split_ifs with hlast
  · have hmoves : Moves (.endpoint c i) .closed t.ledger t₁.ledger :=
      moves_stopEndpoint hjunction hi hcon
    have hlater : t₁.ledger.Done (.joint c) :=
      (done_joint_write hjunction).mpr (by simpa using hlast)
    refine (hstop t₁ (hready.producer hmoves.spread_done hmoves.wiring_eq hjoint
      (not_done_joint hjunction hi hcon) hlater fun hdone => ?_)).mono fun result t' => hwrite.trans
    exact (hmoves.phase?_ne (.node junction.producer) (by simp)).symm.trans hdone
  · exact after_pure.mpr hwrite

section Nodes

variable {depth : Nat}
  (ih : ∀ (t : Tree σ ω) (q : Nat), Ready Done (.node q) t.ledger →
    (stopNode depth q).After True t fun result t' => Stopped t (Result.error? result) t')

include ih

lemma stopped_stopSupply {x : Supply} (hready : Ready Done x t.ledger) :
    (onSupply (stopNode depth) Seat.stopEndpoint x).After True t fun result t' =>
      Stopped t (Result.error? result) t' := by
  match x with
  | .node q => exact ih t q hready
  | .endpoint c i =>
    obtain ⟨q, n, hjoint, -⟩ := hready.has
    refine after_get_bind.mpr ?_
    rw [producer_eq hjoint]
    exact stopped_stopEndpoint hready hjoint fun t' hready' => ih t' q hready'

/-- What feeds a node is closed one after another, and each time the rest stays for later. -/
lemma stopped_stopSlots {slots : List Slot} {rest : List (Drive σ ω Unit)} {k : Nat}
    (hhas : t.ledger.wiring.Has (.node k)) (hnodup : (slots.map Slot.supply).Nodup)
    (hbelow : ∀ slot ∈ slots, t.ledger.wiring.Below k slot.supply)
    (hready : ∀ slot ∈ slots, Ready Done slot.supply t.ledger)
    (hrest : ∀ t' : Tree σ ω, (tryAll rest).After True t' fun result t'' =>
      Stopped t' (Result.error? result) t'') :
    (tryAll (slots.map (fun slot => onSupply (stopNode depth) Seat.stopEndpoint slot.supply) ++
      rest)).After True t fun result t' => Stopped t (Result.error? result) t' := by
  induction slots generalizing t with
  | nil => exact hrest t
  | cons slot slots ihs =>
    obtain ⟨hslot, hslots⟩ := List.forall_mem_cons.mp hready
    obtain ⟨hbelowSlot, hbelowRest⟩ := List.forall_mem_cons.mp hbelow
    rw [List.map_cons, List.nodup_cons] at hnodup
    have hcloses : (onSupply (stopNode depth) Seat.stopEndpoint slot.supply).After True t
        fun _ t' => t.ledger.Keeps k t'.ledger ∧ Closes [slot.supply] t.ledger t'.ledger :=
      after_stopSupply
      (fun q hq t' hw => (after_stopNode (hw ▸ hslot.sound) (hw ▸ hq.trans hhas)).imp
        (fun _ => trivial) fun _ _ => id) rfl hbelowSlot
    refine stopped_tryAll_cons (M := fun t' => t.ledger.Keeps k t'.ledger ∧
      Closes [slot.supply] t.ledger t'.ledger) ((stopped_stopSupply ih hslot).and hcloses) ?_
    rintro t' ⟨-, hcloses⟩
    refine ihs ?_ hnodup.2 ?_ fun other hother => ?_
    · rw [hcloses.wiring_eq]
      exact hhas
    · rw [hcloses.wiring_eq]
      exact hbelowRest
    · refine (hslots other hother).later hslot (fun heq => ?_) hcloses.spread hcloses.wiring_eq
      exact hnodup.1 (heq ▸ List.mem_map_of_mem hother)

lemma stopped_stopAt (hready : Ready Done (.node place) t.ledger) :
    (stopAt (stopNode depth) place).After True t fun result t' =>
      Stopped t (Result.error? result) t' := by
  obtain ⟨node, hnode⟩ := exists_node_of_has hready.has
  have hphase : node.phase ≠ .closed := fun hclosed =>
    hready.not_marked ((phase?_node hnode).trans (congrArg some hclosed))
  refine after_get_bind.mpr ?_
  rw [hnode]
  refine after_lift_bind.mpr ⟨fun e herror => ?_, fun wasOpen _ => ?_⟩
  · rw [Phase.stop_eq_ok_iff.mpr ⟨hphase, rfl⟩] at herror
    cases herror
  refine after_modify_bind.mpr ?_
  have hmoves := moves_setPhase hnode .closed
  have hmark : Stopped t none (t.changeNode place fun node => { node with phase := .closed }) :=
    .of_eq rfl rfl
  generalize t.changeNode place (fun node => { node with phase := .closed }) = t₁ at *
  split
  · next s started hcrew =>
    split_ifs
    · exact after_callSource.mpr (hmark.trans (.of_call
        (c := ⟨place, none, .stop, Result.error? (Source.stop s).1⟩) rfl ⟨rfl, .inl ⟨s, rfl⟩⟩ rfl))
    · exact after_pure.mpr hmark
  · next team hcrew =>
    refine after_modify_bind.mpr ?_
    have hledger : (t₁.changeTeam place fun team => { team with pending := [] }).ledger =
        t₁.ledger :=
      ledger_changeTeam_of_entry_eq fun _ => ⟨rfl, rfl, rfl⟩
    have hclear : Stopped t₁ none
        (t₁.changeTeam place fun team => { team with pending := [] }) :=
      .of_eq rfl rfl
    generalize t₁.changeTeam place (fun team => { team with pending := [] }) = t₂
      at hledger hclear ⊢
    rw [← hledger] at hmoves
    have hfeeds (slot : Slot) (hslot : slot ∈ team.slots) :=
      mem_suppliesOf_of_mem_slots hnode hcrew hslot
    refine (stopped_stopSlots ih (k := place) ?_ ?_ ?_ (fun slot hslot => ?_)
      fun t' => ?_).mono fun result t' => (hmark.trans hclear).trans
    · rw [hmoves.wiring_eq]
      exact hready.has
    · rw [← suppliesOf_team hnode hcrew]
      exact hready.sound.nodup_suppliesOf place
    · rw [hmoves.wiring_eq]
      exact fun slot hslot => hready.sound.below place _ (hfeeds slot hslot)
    · refine hready.slot hmoves.spread_done hmoves.wiring_eq hmoves.phase?_self
        (fun y hy hdone => ?_) (hfeeds slot hslot)
      exact (hmoves.phase?_ne y hy).symm.trans hdone
    · split_ifs
      · exact stopped_stopWorkers _
      · exact after_tryAll_nil.mpr .refl

end Nodes

/-- Closing a tree from a part that was not closed before is never refused. -/
theorem stopped_stopNode (depth : Nat)
    (hready : Ready Done (.node place) t.ledger) :
    (stopNode depth place).After True t fun result t' =>
      Stopped t (Result.error? result) t' := by
  induction depth generalizing place t with
  | zero => exact after_endless.mpr trivial
  | succ depth ih => exact stopped_stopAt (fun t q => ih) hready

end Stop

end Tree

end Dataflow
