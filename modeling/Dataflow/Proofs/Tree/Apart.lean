import Dataflow.Proofs.Tree.Change

/-!
# What happens apart from a node

What feeds a node lies below it, so that pulling its inputs leaves the node as it is and calls none
of its executors.
-/

namespace Dataflow

namespace Tree

open Act

variable {σ ω : Type} {t t' t'' : Tree σ ω} {q k : Nat}

/-- The calls that the executors of a node got so far, in order. -/
def callsOf (q : Nat) (t : Tree σ ω) : List Call :=
  t.calls.filter (·.node = q)

/-- What a tree shows of a node: the node as it is, and the calls that its executors got. -/
def view (q : Nat) (t : Tree σ ω) : Option (Node σ ω) × List Call :=
  (t.nodes[q]?, t.callsOf q)

/-- Something happens to a tree that does not concern a node, and nothing is wired otherwise. -/
structure Apart (q : Nat) (t t' : Tree σ ω) : Prop where
  view_eq : t'.view q = t.view q
  wiring_eq : t'.ledger.wiring = t.ledger.wiring

lemma Apart.node_eq (h : Apart q t t') : t'.nodes[q]? = t.nodes[q]? :=
  congrArg Prod.fst h.view_eq

lemma Apart.callsOf_eq (h : Apart q t t') : t'.callsOf q = t.callsOf q :=
  congrArg Prod.snd h.view_eq

lemma callsOf_call (q : Nat) (t : Tree σ ω) (c : Call) :
    { t with newestCalls := c :: t.newestCalls }.callsOf q =
      t.callsOf q ++ if c.node = q then [c] else [] := by
  by_cases h : c.node = q <;> simp [callsOf, calls, h]

lemma view_changeNode (hk : k ≠ q) (f : Node σ ω → Node σ ω) :
    (t.changeNode k f).view q = t.view q :=
  Prod.ext (List.getElem?_modify_ne f _ hk) rfl

lemma view_changeTeam (hk : k ≠ q) (f : Team ω → Team ω) :
    (t.changeTeam k f).view q = t.view q :=
  view_changeNode hk _

lemma view_call {c : Call} (hc : c.node ≠ q) :
    { t with newestCalls := c :: t.newestCalls }.view q = t.view q := by
  rw [view, callsOf_call, if_neg hc, List.append_nil]
  rfl

section Pulling

variable {v : Option (Node σ ω) × List Call} {l : Ledger}

lemma spares_of_quiet {α : Type} {a : Drive σ ω α} (hview : a.Keeps fun t => t.view q = v)
    (hquiet : Quiet a) : a.Keeps fun t => t.view q = v ∧ t.ledger = l :=
  fun t ht => (hview t ht.1).and (preserves_iff_keeps.mp hquiet l t ht.2)

variable [Worker ω]

lemma view_keeps_deliver (hk : k ≠ q) (i : Nat) (input : Input) :
    (deliver k i input : Drive σ ω Unit).Keeps fun t => t.view q = v := by
  refine fun t ht => after_handed (fun _ => ht) fun node team w _ _ _ => ?_
  have hcall : (callWorker k i w (.process input) (Worker.process (t.clock t.readings) input) :
      Drive σ ω (List Tuple)).After True { t with readings := t.readings + 1 } fun _ t' =>
        t'.view q = v :=
    after_callWorker.mpr ((view_call hk).trans ((view_changeTeam hk _).trans ht))
  refine hcall.mono fun result t' ht' => ?_
  cases result with
  | ok given => exact Eq.trans (view_changeTeam hk _) ht'
  | error e => exact ht'

lemma view_keeps_deal (hk : k ≠ q) (x : Tuple) (link : Link) :
    (deal k x link : Drive σ ω Unit).Keeps fun t => t.view q = v := by
  refine keeps_team?.bind fun found => ?_
  cases found with
  | none => exact keeps_pure _
  | some team =>
    exact Keeps.bind (keeps_modify fun t ht => (view_changeTeam hk _).trans ht) fun _ =>
      view_keeps_deliver hk _ _

lemma view_keeps_exhaust (hk : k ≠ q) (i : Nat) (link : Link) :
    (exhaust k i link : Drive σ ω Unit).Keeps fun t => t.view q = v := by
  refine keeps_team?.bind fun found => ?_
  cases found with
  | none => exact keeps_pure _
  | some team =>
    exact Keeps.bind (keeps_modify fun t ht => (view_changeTeam hk _).trans ht) fun _ =>
      keeps_forM _ fun w _ => view_keeps_deliver hk w _

variable [Source σ]

/-- Reading an endpoint concerns no node but the producer. -/
lemma spares_pull {next : Drive σ ω (Option Tuple)} (c : ConnectorId) (i : Nat)
    (hnext : next.Keeps fun t => t.view q = v ∧ t.ledger = l) :
    ((seat c).pull next i).Keeps fun t => t.view q = v ∧ t.ledger = l := by
  have hledger := nextKeeps_ledger (σ := σ) (ω := ω) l
  have hdeliver : ((seat c).deliver i : Drive σ ω (Option Tuple)).Keeps
      fun t => t.view q = v ∧ t.ledger = l := fun t ht =>
    After.and (after_get_bind.mpr (after_lift_bind.mpr ⟨fun _ _ => ht.1, fun _ _ =>
      after_modify_bind.mpr (after_pure.mpr ht.1)⟩)) (hledger.deliver c i t ht.2)
  refine fun t ht => after_get_bind.mpr (after_lift_bind.mpr ⟨fun _ _ => ht, fun _ _ => ?_⟩)
  split_ifs
  · exact hdeliver t ht
  · exact after_pure.mpr ht
  · refine hnext.bind (fun given => ?_) t ht
    cases given with
    | none =>
      exact Keeps.bind (keeps_modify fun _ ht => ⟨ht.1, hledger.finish ht.2⟩) fun _ => keeps_pure _
    | some x =>
      exact Keeps.bind (keeps_modify fun _ ht => ⟨ht.1, hledger.push ht.2⟩) fun _ => hdeliver

/-- Pulling a supply concerns no node but that where the supply comes from. -/
lemma spares_onSupply {next : Nat → Drive σ ω (Option Tuple)} {x : Supply}
    (hnext : (next (l.wiring.placeOf x)).Keeps fun t => t.view q = v ∧ t.ledger = l) :
    (onSupply next Seat.pull x).Keeps fun t => t.view q = v ∧ t.ledger = l := by
  cases x with
  | node k => exact hnext
  | endpoint c i =>
    rintro t ⟨hview, rfl⟩
    refine after_get_bind.mpr ?_
    rw [← placeOf_endpoint t c i]
    exact spares_pull c i hnext t ⟨hview, rfl⟩

/-- Pulling a node leaves all nodes above it alone. -/
lemma spares_nextNode (hsound : l.wiring.Sound) (depth : Nat) (hk : k < q) :
    (nextNode depth k : Drive σ ω _).Keeps fun t => t.view q = v ∧ t.ledger = l := by
  induction depth generalizing k with
  | zero => exact keeps_endless
  | succ depth ih =>
    intro t ht
    have hledger := nextKeeps_ledger (σ := σ) (ω := ω) l
    refine after_get_bind.mpr ?_
    cases hnode : t.nodes[k]? with
    | none => exact after_pure.mpr ht
    | some node =>
      refine after_lift_bind.mpr ⟨fun _ _ => ht, fun _ hrequire => ?_⟩
      cases hcrew : node.crew with
      | source s started =>
        refine After.bind (Q := fun _ t' => t'.view q = v ∧ t'.ledger = l)
          (After.and (after_callSource.mpr ?_)
            (hledger.source ht.2 hnode (Phase.require_eq_ok_iff.mp hrequire) hcrew))
          (fun _ _ => id) fun given t' ht' => after_modify_bind.mpr (after_pure.mpr ht')
        exact (view_call hk.ne).trans ((view_changeNode hk.ne _).trans ht.1)
      | team team =>
        cases hpending : team.pending with
        | cons x rest =>
          simp only [hpending]
          exact after_modify_bind.mpr (after_pure.mpr
            ⟨(view_changeTeam hk.ne _).trans ht.1, hledger.pop ht.2 hnode hcrew hpending⟩)
        | nil =>
          simp only [hpending]
          split
          · exact after_pure.mpr ht
          · next i slot hpick =>
            have hmem : slot.supply ∈ l.wiring.suppliesOf k :=
              ht.2 ▸ mem_suppliesOf_of_mem_slots hnode hcrew
                (List.mem_of_getElem? (Team.pick?_eq_some hpick).1)
            have hlt := hsound.placeOf_lt hmem
            refine Keeps.bind (Keeps.bind (keeps_modify fun t ht => ?_) fun _ =>
              (spares_onSupply (ih (hlt.trans hk))).bind fun given => ?_) (fun _ => ih hk) t ht
            · exact ⟨(view_changeTeam hk.ne _).trans ht.1, hledger.turn ht.2⟩
            · cases given with
              | none => exact spares_of_quiet (view_keeps_exhaust hk.ne i _) (quiet_exhaust i _)
              | some x => exact spares_of_quiet (view_keeps_deal hk.ne x _) (quiet_deal x _)

lemma apart_pull (hsound : t.ledger.wiring.Sound) {x : Supply}
    (hx : x ∈ t.ledger.wiring.suppliesOf q) (depth : Nat) :
    (onSupply (nextNode depth) Seat.pull x).After True t fun _ t' => Apart q t t' :=
  (spares_onSupply (spares_nextNode hsound depth (hsound.placeOf_lt hx)) t ⟨rfl, rfl⟩).mono
    fun _ _ h => ⟨h.1, congrArg Ledger.wiring h.2⟩

end Pulling

end Tree

end Dataflow
