import Dataflow.Proofs.Flow.Start

/-!
# Forecasts from the bottom up

What feeds a node lies below it. So a forecast can be made node by node, and it has a property
everywhere if what a crew gives has it whenever everything below has it.
-/

namespace Dataflow

variable {σ ω : Type} [Source σ] [Worker ω]

lemma Crew.Flows.congr {crew : Crew σ ω} {R R' : Forecast} {out : Stream} (h : crew.Flows R out)
    (heq : ∀ x ∈ crew.supplies, R' x = R x) : crew.Flows R' out := by
  match crew with
  | .source s started => exact h
  | .team staff =>
    have hins : (staff.slots.map fun slot => R' slot.supply) =
        staff.slots.map fun slot => R slot.supply :=
      List.map_congr_left fun slot hslot => heq _ (List.mem_map_of_mem hslot)
    rw [Crew.Flows, hins]
    exact h

namespace Tree

variable {w : Wiring} {t : Tree σ ω} {P : Nat → Stream → Prop}

/-- The nodes below a place give streams with a property. -/
lemma exists_below (hsound : w.Sound) (hw : t.ledger.wiring = w)
    (h : ∀ k node (f : Nat → Stream), t.nodes[k]? = some node → (∀ j < k, P j (f j)) →
      ∃ out, node.crew.Flows (fun x => f (w.placeOf x)) out ∧ P k out)
    {n : Nat} (hn : n ≤ t.nodes.length) : ∃ f : Nat → Stream, ∀ k < n, P k (f k) ∧
      ∀ node, t.nodes[k]? = some node → node.crew.Flows (fun x => f (w.placeOf x)) (f k) := by
  induction n with
  | zero => exact ⟨fun _ => .done, fun k hk => (Nat.not_lt_zero k hk).elim⟩
  | succ n ih =>
    obtain ⟨f, hf⟩ := ih (Nat.le_of_succ_le hn)
    have hnode : t.nodes[n]? = some t.nodes[n] := List.getElem?_eq_getElem hn
    obtain ⟨out, hout, hP⟩ := h n _ f hnode fun j hj => (hf j hj).1
    have hbelow {k : Nat} {node : Node σ ω} (hk : t.nodes[k]? = some node) (hle : k ≤ n)
        (x : Supply) (hx : x ∈ node.crew.supplies) :
        Function.update f n out (w.placeOf x) = f (w.placeOf x) := by
      refine Function.update_of_ne (lt_of_lt_of_le (hsound.placeOf_lt ?_) hle).ne ..
      rwa [← hw, suppliesOf_node hk]
    refine ⟨Function.update f n out, fun k hk => ?_⟩
    rcases Nat.lt_succ_iff_lt_or_eq.mp hk with hlt | rfl
    · rw [Function.update_of_ne hlt.ne]
      exact ⟨(hf k hlt).1, fun node hk' => ((hf k hlt).2 node hk').congr (hbelow hk' hlt.le)⟩
    · rw [Function.update_self]
      refine ⟨hP, fun node hk' => ?_⟩
      obtain rfl : t.nodes[k] = node := by simpa [hnode] using hk'
      exact hout.congr (hbelow hk' le_rfl)

/-- A forecast with a property is right for a tree if what each crew gives has the property, given
that everything below it has. -/
theorem exists_foretold (hsound : w.Sound) (hw : t.ledger.wiring = w)
    (h : ∀ k node (f : Nat → Stream), t.nodes[k]? = some node → (∀ j < k, P j (f j)) →
      ∃ out, node.crew.Flows (fun x => f (w.placeOf x)) out ∧ P k out) :
    ∃ R, Foretold R t ∧ ∀ k < t.nodes.length, P k (R (.node k)) := by
  obtain ⟨f, hf⟩ := exists_below hsound hw h le_rfl
  refine ⟨fun x => f (w.placeOf x), ⟨fun k node hk => ?_, fun c junction hc i _ => ?_⟩,
    fun k hk => (hf k hk).1⟩
  · exact (hf k (List.getElem?_eq_some_iff.mp hk).1).2 node hk
  · have hjoint : w.joints[c]? = some (junction.producer, junction.connector.endpoints.length) := by
      simp [← hw, ledger, Ledger.wiring, hc, Junction.entry, Connector.phases]
    change f (w.producerOf c) = f junction.producer
    rw [Wiring.producerOf_eq hjoint]

end Tree

end Dataflow
