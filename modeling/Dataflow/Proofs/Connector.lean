import Dataflow.Connector.Sharing
import Dataflow.Proofs.Act

/-!
# Connectors hold back what is still to be read

No operation of a connector drops a tuple that an endpoint has still to read, as long as the
endpoint is not closed.
-/

namespace Dataflow

lemma Connector.endpoint_eq {con : Connector} {i : Nat} {e : Endpoint}
    (he : con.endpoints[i]? = some e) : con.endpoint i = e := by
  rw [Connector.endpoint, he, Option.getD_some]

lemma Connector.exists_of_opened {con : Connector} {i : Nat}
    (h : (con.endpoint i).phase = .opened) :
    ∃ e, con.endpoints[i]? = some e ∧ e.phase = .opened := by
  cases he : con.endpoints[i]? with
  | none =>
    rw [Connector.endpoint, he] at h
    cases h
  | some e => exact ⟨e, rfl, Connector.endpoint_eq he ▸ h⟩

/-- An endpoint that was not opened before is opened, along with the producer. -/
lemma Connector.startEndpoint_eq_ok_iff {con con' : Connector} {i : Nat} :
    con.startEndpoint i = .ok con' ↔ (con.endpoint i).phase = .unopened ∧
      con' = { con.change i (fun e => { e with phase := .opened }) with started := true } := by
  rw [Connector.startEndpoint]
  cases hphase : (con.endpoint i).phase with
  | unopened => simp [Phase.start, eq_comm]
  | opened => simp [Phase.start]
  | closed => simp [Phase.start]

/-- Every endpoint that is not closed is between what its connector dropped and what it was
given. -/
def Connector.Sane (con : Connector) : Prop :=
  ∀ e ∈ con.endpoints, e.isLive → con.base ≤ e.position ∧ e.position ≤ con.reach

namespace Connector.Sane

variable {con con' : Connector}

/-- Nothing is dropped that an endpoint has still to read. -/
lemma evict (h : con.Sane) : con.evict.Sane := by
  intro e he hlive
  rw [reach_evict]
  obtain ⟨hbase, hreach⟩ := h e he hlive
  refine ⟨?_, hreach⟩
  have hmem : e.position ∈ (con.endpoints.filter Endpoint.isLive).map Endpoint.position :=
    List.mem_map_of_mem (List.mem_filter.mpr ⟨he, hlive⟩)
  match hslowest : con.slowest? with
  | none =>
    rw [slowest?, List.min?_eq_none_iff] at hslowest
    rw [hslowest] at hmem
    exact absurd hmem List.not_mem_nil
  | some slowest =>
    have hle : slowest ≤ e.position := (List.min?_eq_some_iff.mp hslowest).2 _ hmem
    simp only [Connector.evict, hslowest, Option.getD_some]
    omega

/-- An endpoint changes its phase, or goes on within what its connector was given. -/
lemma change {i : Nat} {f : Endpoint → Endpoint} (h : con.Sane)
    (hf : ∀ e, con.endpoints[i]? = some e → (f e).isLive →
      con.base ≤ (f e).position ∧ (f e).position ≤ con.reach) : (con.change i f).Sane := by
  intro e he hlive
  obtain ⟨j, hj⟩ := List.mem_iff_getElem?.mp he
  rw [Connector.change, List.getElem?_modify] at hj
  cases hold : con.endpoints[j]? with
  | none => rw [hold] at hj; cases hj
  | some old =>
    rw [hold] at hj
    by_cases hij : i = j
    · subst hij
      simp only [if_true, Option.map_eq_map, Option.map_some, Option.some.injEq] at hj
      subst hj
      exact hf old hold hlive
    · simp only [hij, if_false, Option.map_eq_map, Option.map_some, Option.some.injEq] at hj
      subst hj
      exact h old (List.mem_of_getElem? hold) hlive

lemma push (h : con.Sane) (x : Tuple) : (con.push x).Sane := by
  intro e he hlive
  rw [reach_push]
  obtain ⟨hbase, hreach⟩ := h e he hlive
  exact ⟨hbase, Nat.le_succ_of_le hreach⟩

lemma startEndpoint {i : Nat} (h : con.Sane) (hstart : con.startEndpoint i = .ok con') :
    con'.Sane := by
  obtain ⟨hunopened, rfl⟩ := startEndpoint_eq_ok_iff.mp hstart
  refine h.change fun e he _ => ?_
  rw [Connector.endpoint_eq he] at hunopened
  exact h e (List.mem_of_getElem? he) (by simp [Endpoint.isLive, hunopened])

lemma stopEndpoint {i : Nat} (h : con.Sane) (hstop : con.stopEndpoint i = .ok con') :
    con'.Sane := by
  rw [Connector.stopEndpoint] at hstop
  match hphase : (con.endpoint i).phase.stop con.producer with
  | .error e => rw [hphase] at hstop; cases hstop
  | .ok phase =>
    rw [hphase] at hstop
    cases hstop
    exact (h.change fun e _ hlive => by simp [Endpoint.isLive] at hlive).evict

end Connector.Sane

namespace Connector

variable {con con' : Connector} {e : Endpoint}

lemma phase_eq_closed_of_stopEndpoint {i : Nat} {error : Error}
    (h : con.stopEndpoint i = .error error) : (con.endpoint i).phase = .closed := by
  by_contra hopen
  have hstop : (con.endpoint i).phase.stop con.producer = .ok _ :=
    Phase.stop_eq_ok_iff.mpr ⟨hopen, rfl⟩
  rw [Connector.stopEndpoint, hstop] at h
  cases h

/-- An endpoint that is not closed is closed, and holds nothing back any more. -/
lemma stopEndpoint_eq_ok_iff {i : Nat} : con.stopEndpoint i = .ok con' ↔
    (con.endpoint i).phase ≠ .closed ∧
      con' = (con.change i fun e => { e with phase := .closed }).evict := by
  rw [Connector.stopEndpoint]
  cases hphase : (con.endpoint i).phase with
  | closed => simp [Phase.stop]
  | unopened => simp [Phase.stop, eq_comm]
  | opened => simp [Phase.stop, eq_comm]

/-- The tuples held back that an endpoint has still to read. -/
def ahead (con : Connector) (e : Endpoint) : List Tuple :=
  con.buffer.drop (e.position - con.base)

/-- A connector after an endpoint has read one more tuple. -/
def advance (con : Connector) (i : Nat) : Connector :=
  (con.change i fun e => { e with position := e.position + 1 }).evict

lemma read_eq_ok {i : Nat} {x : Tuple} (h : con.read i = .ok (x, con')) :
    x ∈ con.buffer ∧ con' = con.advance i := by
  rw [Connector.read] at h
  split at h
  · next hfound =>
    cases h
    split_ifs at hfound
    exact ⟨List.mem_of_getElem? hfound, rfl⟩
  · cases h

lemma Sane.ahead_evict (h : con.Sane) (he : e ∈ con.endpoints) (hlive : e.isLive) :
    con.evict.ahead e = con.ahead e := by
  have hbase := (h e he hlive).1
  have hbase' := (h.evict e he hlive).1
  simp only [ahead, Connector.evict, List.drop_drop] at hbase' ⊢
  rcases Nat.le_total (con.slowest?.getD con.reach - con.base) con.buffer.length with hle | hle
  · rw [Nat.min_eq_left hle] at hbase' ⊢
    congr 1
    omega
  · rw [Nat.min_eq_right hle] at hbase' ⊢
    rw [List.drop_eq_nil_of_le (by omega), List.drop_eq_nil_of_le (by omega)]

lemma ahead_eq_nil (h : con.reach ≤ e.position) : con.ahead e = [] := by
  rw [reach] at h
  exact List.drop_eq_nil_of_le (by omega)

lemma ahead_push (h : e.position ≤ con.reach) (x : Tuple) :
    (con.push x).ahead e = con.ahead e ++ [x] := by
  rw [reach] at h
  have hle : e.position - con.base ≤ con.buffer.length := by omega
  exact List.drop_append_of_le_length hle

/-- An open endpoint reads what its connector was given beyond it. -/
lemma Sane.read {i : Nat} (h : con.Sane) (he : con.endpoints[i]? = some e) (hlive : e.isLive)
    (hlt : e.position < con.reach) :
    ∃ x, con.read i = .ok (x, con.advance i) ∧
      con.ahead e = x :: con.ahead { e with position := e.position + 1 } ∧
      (con.change i fun e => { e with position := e.position + 1 }).Sane := by
  obtain ⟨hbase, -⟩ := h e (List.mem_of_getElem? he) hlive
  have hin : e.position - con.base < con.buffer.length := by
    rw [reach] at hlt
    omega
  refine ⟨con.buffer[e.position - con.base], ?_, ?_, ?_⟩
  · simp [Connector.read, Connector.endpoint, he, hbase, List.getElem?_eq_getElem hin, advance]
  · rw [ahead, ahead, Nat.sub_add_comm hbase]
    exact List.drop_eq_getElem_cons hin
  · refine h.change fun e' he' _ => ?_
    rw [he, Option.some.injEq] at he'
    subst he'
    exact ⟨Nat.le_succ_of_le hbase, hlt⟩

end Connector

namespace Seat

open Act

variable {σ : Type} {seat : Seat σ} {s : σ} {i : Nat} {next : Act σ (Option Tuple)} {E : Prop}
  {goal : Result (Option Tuple) → σ → Prop}

/-- What a pull leads to once the producer has answered: a failure is passed on, the end is noted,
and a tuple is held back and delivered. -/
def Answered (seat : Seat σ) (i : Nat) (E : Prop) (goal : Result (Option Tuple) → σ → Prop) :
    Result (Option Tuple) → σ → Prop
  | .error e, s => goal (.error e) s
  | .ok none, s => goal (.ok none) (seat.write (seat.read s).finish s)
  | .ok (some x), s => (seat.deliver i).After E (seat.write ((seat.read s).push x) s) goal

/-- Only an open endpoint is pulled, and the producer is asked only when the endpoint has read
everything and the producer has not ended. -/
lemma after_pull
    (hrefused : ((seat.read s).endpoint i).phase ≠ .opened → goal
      (.error (.wrongPhase (seat.read s).producer ((seat.read s).endpoint i).phase .toPull)) s)
    (hopened : ∀ e, (seat.read s).endpoints[i]? = some e → e.phase = .opened →
      if e.position < (seat.read s).reach then (seat.deliver i).After E s goal
      else if (seat.read s).ended then goal (.ok none) s
      else next.After E s (seat.Answered i E goal)) :
    (seat.pull next i).After E s goal := by
  refine after_get_bind.mpr (after_lift_bind.mpr ⟨fun error herror => ?_, fun _ hrequire => ?_⟩)
  · obtain ⟨hphase, rfl⟩ := Phase.require_eq_error_iff.mp herror
    exact hrefused hphase
  · obtain ⟨e, he, hphase⟩ := Connector.exists_of_opened (Phase.require_eq_ok_iff.mp hrequire)
    have hcases := hopened e he hphase
    rw [Connector.endpoint_eq he]
    split_ifs at hcases ⊢
    · exact hcases
    · exact after_pure.mpr hcases
    · refine hcases.bind (fun _ _ => id) fun given s' hanswered => ?_
      cases given with
      | none => exact after_modify_bind.mpr (after_pure.mpr hanswered)
      | some x => exact after_modify_bind.mpr hanswered

end Seat

end Dataflow
