import Dataflow.Proofs.Flow.Stream
import Dataflow.Proofs.Tree.Pull

/-!
# What the team of a node does with an input

Dealing a tuple and ending an input change the team of one node, in the way in which the stream of
the team was described, and nothing else that matters.
-/

namespace Dataflow

namespace Tree

open Act

variable {σ ω : Type} {t t' t'' : Tree σ ω} {q : Nat} {node : Node σ ω} {team team' : Team ω}

/-- Only the team of one node changed. -/
structure Recrewed (q : Nat) (node : Node σ ω) (team : Team ω) (t t' : Tree σ ω) : Prop where
  here : t'.nodes[q]? = some { node with crew := .team team }
  elsewhere : ∀ k, k ≠ q → t'.nodes[k]? = t.nodes[k]?
  junctions : t'.junctions = t.junctions

lemma Recrewed.trans (h : Recrewed q node team t t')
    (h' : Recrewed q { node with crew := .team team } team' t' t'') :
    Recrewed q node team' t t'' where
  here := h'.here
  elsewhere := fun k hk => (h'.elsewhere k hk).trans (h.elsewhere k hk)
  junctions := h'.junctions.trans h.junctions

lemma recrewed_changeTeam (hq : t.nodes[q]? = some node) (hcrew : node.crew = .team team)
    (f : Team ω → Team ω) : Recrewed q node (f team) t (t.changeTeam q f) where
  here := by simp [changeTeam, changeNode, hq, hcrew]
  elsewhere := fun k hk => by simp [changeTeam, changeNode, Ne.symm hk]
  junctions := rfl

lemma after_team? {E : Prop} {Q : Result (Option (Team ω)) → Tree σ ω → Prop}
    (hq : t.nodes[q]? = some node) (hcrew : node.crew = .team team)
    (h : Q (.ok (some team)) t) : (team? q : Drive σ ω _).After E t Q := by
  refine after_get_bind.mpr ?_
  rw [hq, Option.map_some, hcrew]
  exact after_pure.mpr h

variable [Worker ω] {i : Nat} {w w' : ω}

/-- A worker makes something of an input at some time, and its team keeps it. -/
lemma after_deliver {input : Input} (hq : t.nodes[q]? = some node)
    (hcrew : node.crew = .team team) (hworker : team.workers[i]? = some w) :
    (deliver q i input : Drive σ ω Unit).After False t fun outcome t' => ∃ time,
      match Worker.process time input w with
      | (.ok given, w') => outcome = .ok () ∧ Recrewed q node
          { team with workers := team.workers.set i w', pending := team.pending ++ given } t t'
      | (.error e, _) => outcome = .error e := by
  refine after_handed (fun hnone => ?_) fun node' team' v hq' hcrew' hv => after_callWorker.mpr ?_
  · cases (hnone node team hq hcrew).symm.trans hworker
  cases hq.symm.trans hq'
  cases hcrew.symm.trans hcrew'
  cases hworker.symm.trans hv
  match hmade : Worker.process (t.clock t.readings) input w with
  | (.error e, w') => exact ⟨_, by rw [hmade]⟩
  | (.ok given, w') =>
    have hset := recrewed_changeTeam hq hcrew fun team =>
      { team with workers := team.workers.set i w' }
    have hall := hset.trans (recrewed_changeTeam hset.here rfl fun team =>
      { team with pending := team.pending ++ given })
    refine ⟨t.clock t.readings, ?_⟩
    rw [hmade]
    exact ⟨rfl, hall.here, hall.elsewhere, hall.junctions⟩

/-- The worker whose turn it is makes something of a tuple at some time. -/
lemma after_deal {x : Tuple} {link : Link} (hq : t.nodes[q]? = some node)
    (hcrew : node.crew = .team team) (hworker : team.workers[team.nextWorker]? = some w) :
    (deal q x link : Drive σ ω Unit).After False t fun outcome t' => ∃ time,
      match Worker.process time (.tuple x link) w with
      | (.ok given, w') => outcome = .ok () ∧ Recrewed q node
          { team with
            workers := team.workers.set team.nextWorker w'
            nextWorker := (team.nextWorker + 1) % team.workers.length
            pending := team.pending ++ given } t t'
      | (.error e, _) => outcome = .error e := by
  have hturn := recrewed_changeTeam hq hcrew fun team =>
    { team with nextWorker := (team.nextWorker + 1) % team.workers.length }
  refine (after_team? hq hcrew (Q := fun found t' => found = .ok (some team) ∧ t = t')
    ⟨rfl, rfl⟩).bind (fun _ _ h => ?_) fun _ _ h => ?_
  · cases h.1
  obtain ⟨hfound, rfl⟩ := h
  cases hfound
  refine after_modify_bind.mpr ((after_deliver hturn.here rfl hworker).mono ?_)
  rintro outcome t' ⟨time, h⟩
  refine ⟨time, ?_⟩
  match hmade : Worker.process time (.tuple x link) w with
  | (.ok given, w') =>
    rw [hmade] at h
    exact ⟨h.1, hturn.trans h.2⟩
  | (.error e, w') =>
    rw [hmade] at h
    exact h

/-- A team whose first workers made something of the end of an input. -/
def told (team : Team ω) (made : List (List Tuple × ω)) : Team ω :=
  { team with
    workers := made.map Prod.snd ++ team.workers.drop made.length
    pending := team.pending ++ made.flatMap Prod.fst }

omit [Worker ω] in
lemma told_concat {made : List (List Tuple × ω)} (new : List Tuple × ω)
    (hlt : made.length < team.workers.length) :
    { told team made with
      workers := (told team made).workers.set made.length new.2
      pending := (told team made).pending ++ new.1 } = told team (made ++ [new]) := by
  have hdrop := List.drop_eq_getElem_cons hlt
  have hset : (made.map Prod.snd ++ team.workers.drop made.length).set made.length new.2 =
      made.map Prod.snd ++ new.2 :: team.workers.drop (made.length + 1) := by
    rw [hdrop, List.set_append_right _ _ (by simp), List.length_map, Nat.sub_self,
      List.set_cons_zero]
  simp only [told, hset]
  simp

/-- Every worker makes something of the end of an input at some time. -/
lemma after_exhaust {link : Link} (hq : t.nodes[q]? = some node) (hcrew : node.crew = .team team)
    (hworks : ∀ v ∈ team.workers, ∀ time, ∃ given v',
      Worker.process time (.exhausted link) v = (.ok given, v')) :
    (exhaust q i link : Drive σ ω Unit).After False t fun outcome t' => outcome = .ok () ∧
      ∃ made, List.Forall₂ (Worker.MayMake (.exhausted link)) team.workers made ∧ Recrewed q node
        { team with
          slots := team.slots.modify i fun slot => { slot with exhausted := true }
          workers := made.map Prod.snd
          pending := team.pending ++ made.flatMap Prod.fst } t t' := by
  have hslots := recrewed_changeTeam hq hcrew fun team =>
    { team with slots := team.slots.modify i fun slot => { slot with exhausted := true } }
  generalize hteam : ({ team with slots := _ } : Team ω) = ended at hslots
  have hworkers : ended.workers = team.workers := by rw [← hteam]
  refine (after_team? hq hcrew (Q := fun found t' => found = .ok (some team) ∧ t = t')
    ⟨rfl, rfl⟩).bind (fun _ _ h => nomatch h.1) fun _ _ h => ?_
  obtain ⟨hfound, rfl⟩ := h
  cases hfound
  -- The workers behind those that were told are still to be told.
  refine after_modify_bind.mpr (After.forM
    (I := fun rest t' => ∃ made,
      rest = List.range' made.length (team.workers.length - made.length) ∧
      List.Forall₂ (Worker.MayMake (.exhausted link)) (team.workers.take made.length) made ∧
      Recrewed q node (told ended made) t t') ?_ (fun k rest t' _ h => ?_) fun t' h => ?_)
  · refine ⟨[], by rw [List.range_eq_range']; rfl, .nil, ?_⟩
    simpa [told] using hslots
  · obtain ⟨made, hrest, hmade, hrecrewed⟩ := h
    have hlt : made.length < team.workers.length := by
      by_contra hge
      rw [Nat.sub_eq_zero_of_le (not_lt.mp hge)] at hrest
      cases hrest
    rw [show team.workers.length - made.length = team.workers.length - (made.length + 1) + 1 by
      omega, List.range'_succ] at hrest
    cases hrest
    have hworker : (told ended made).workers[made.length]? = some team.workers[made.length] := by
      simp [told, hworkers, List.getElem?_append_right]
    refine (after_deliver hrecrewed.here rfl hworker).mono fun outcome t'' h => ?_
    obtain ⟨time, h⟩ := h
    obtain ⟨given, v', hprocess⟩ := hworks _ (List.getElem_mem hlt) time
    rw [hprocess] at h
    obtain ⟨rfl, hnew⟩ := h
    refine ⟨made ++ [(given, v')], by simp, ?_, ?_⟩
    · rw [List.length_append, List.length_singleton, List.take_succ_eq_append_getElem hlt]
      exact List.rel_append hmade (.cons ⟨time, hprocess⟩ .nil)
    · rw [← told_concat (given, v') (by rwa [hworkers])]
      exact hrecrewed.trans hnew
  · obtain ⟨made, hrest, hmade, hrecrewed⟩ := h
    have hle : team.workers.length ≤ made.length := by
      have := congrArg List.length hrest
      simp only [List.length_nil, List.length_range'] at this
      omega
    rw [List.take_of_length_le hle] at hmade
    refine ⟨rfl, made, hmade, ?_⟩
    simpa [told, ← hteam, List.drop_eq_nil_of_le hle] using hrecrewed

end Tree

end Dataflow
