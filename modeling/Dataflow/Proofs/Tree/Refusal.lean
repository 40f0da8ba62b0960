import Dataflow.Proofs.Tree.Account
import Dataflow.Proofs.Tree.Grounded

/-!
# What is to blame when building fails

A node is not built if its operator refuses the schemas of its inputs, or if no executors can be
created for it. A connector fails as its producer does.
-/

namespace Dataflow

open Act

variable {σ ω : Type}

/-- No executor is created from a request: there is no factory, the factory refuses the request, or
it makes an executor of the wrong sort. -/
inductive Registry.Declines (registry : Registry σ ω) (r : Request) : Error → Prop
  | unknown (hnone : registry.get? r.operator.kind.tag = none) :
      registry.Declines r (.noExecutor r.operator.kind.tag)
  | refused {make : Factory σ ω} {e : Error} (hmake : registry.get? r.operator.kind.tag = some make)
      (herror : make r = .error e) : registry.Declines r e
  | notASource {make : Factory σ ω} {w : ω} (hlinks : r.links = [])
      (hmake : registry.get? r.operator.kind.tag = some make) (hworker : make r = .ok (.worker w)) :
      registry.Declines r (.run (.notASource r.operator.kind.tag r.operator.id))
  | notAnOperator {make : Factory σ ω} {s : σ} (hlinks : r.links ≠ [])
      (hmake : registry.get? r.operator.kind.tag = some make) (hsource : make r = .ok (.source s)) :
      registry.Declines r (.run (.notAnOperator r.operator.kind.tag r.operator.id))

namespace Scaffold

variable {registry : Registry σ ω} {context : Context} {plan : PhysicalPlan} {s : Scaffold σ ω}
  {operator : Operator} {workers : Nat} {slots : List Slot} {inputs : List Schema}
  {output : Schema} {e : Error} {blame : Error → Scaffold σ ω → Prop}

/-- A crew is not created if one of its executors is not. -/
lemma declines_of_createCrew
    (h : createCrew registry context operator workers slots inputs output = .error e) :
    ∃ worker, registry.Declines
      ⟨operator, inputs, slots.map Slot.link, output, worker, context⟩ e := by
  rw [createCrew, Registry.require] at h
  cases hmake : registry.get? operator.kind.tag with
  | none =>
    rw [hmake] at h
    cases h
    exact ⟨0, .unknown hmake⟩
  | some make =>
    simp only [hmake, Result.ok_bind] at h
    split at h
    · next hempty =>
      rw [List.isEmpty_iff] at hempty
      subst hempty
      refine ⟨0, ?_⟩
      rcases hmade : make ⟨operator, inputs, [].map Slot.link, output, 0, context⟩ with e' | s | w
      · rw [hmade] at h
        cases h
        exact .refused hmake hmade
      · rw [hmade] at h
        cases h
      · rw [hmade] at h
        cases h
        exact .notASource rfl hmake hmade
    · next hslots =>
      have hlinks : slots.map Slot.link ≠ [] := by simpa using hslots
      generalize hteam : (List.range (max workers 1)).mapM (m := Result) _ = team at h
      cases team with
      | ok ws => cases h
      | error e' =>
        cases h
        obtain ⟨worker, -, herror⟩ := exists_of_mapM_eq_error hteam
        refine ⟨worker, ?_⟩
        rcases hmade : make ⟨operator, inputs, slots.map Slot.link, output, worker, context⟩
          with e'' | s | w
        · rw [hmade] at herror
          cases herror
          exact .refused hmake hmade
        · rw [hmade] at herror
          cases herror
          exact .notAnOperator hlinks hmake hmade
        · rw [hmade] at herror
          cases herror

/-- A node is added, unless its operator refuses the schemas of its inputs or an executor is not
created. -/
lemma answers_createNode {want : Nat → Scaffold σ ω → Prop}
    (hrefused : ∀ e, operator.outputSchema context.catalog.schemas
      (slots.map fun slot => s.seen slot.supply) = .error e → blame e s)
    (hdeclined : ∀ schema, operator.outputSchema context.catalog.schemas
        (slots.map fun slot => s.seen slot.supply) = .ok schema →
      ∀ worker e, registry.Declines ⟨operator, slots.map fun slot => s.seen slot.supply,
        slots.map Slot.link, schema, worker, context⟩ e → blame e s)
    (h : ∀ schema crew,
      operator.outputSchema context.catalog.schemas (slots.map fun slot => s.seen slot.supply) =
        .ok schema →
      want s.nodes.length { s with nodes := s.nodes ++ [⟨operator, schema, .unopened, crew⟩] }) :
    (createNode registry context operator workers slots).Answers s blame want := by
  refine answers_bind_of_outcome (outcome_mapM_schemaOf slots s) ?_
  refine answers_lift_bind hrefused fun schema hschema => ?_
  refine answers_lift_bind (fun e herror => ?_) fun crew _ => ?_
  · obtain ⟨worker, hdeclines⟩ := declines_of_createCrew herror
    exact hdeclined schema hschema worker e hdeclines
  · exact after_get_bind.mpr (after_set_bind.mpr (answers_pure (h schema crew hschema)))

/-- An endpoint is taken from a connector that is there, if it is left. -/
lemma answers_joinEndpoint {c : ConnectorId} {i : Nat} {consumer : OperatorId}
    {want : Scaffold σ ω → Prop} {junction : Junction} {connector : Connector}
    (hjunction : s.junctions[c]? = some (some junction))
    (htake : junction.connector.take i = .ok connector)
    (h : want { s with junctions := s.junctions.set c (some
      ⟨connector, junction.producer, junction.consumers ++ [(consumer, i)]⟩) }) :
    (joinEndpoint c i consumer : Build σ ω Unit).Answers s blame fun _ => want := by
  refine after_get_bind.mpr ?_
  simp only [hjunction, Option.join_some]
  refine answers_lift_bind (fun e herror => ?_) fun connector' htake' => ?_
  · rw [htake] at herror
    cases herror
  · rw [htake] at htake'
    cases htake'
    exact after_set_bind.mpr (answers_pure h)

lemma answers_joinEndpoint_or {c : ConnectorId} {i : Nat} {consumer : OperatorId}
    {want : Scaffold σ ω → Prop} (hstop : ∀ e, blame e s)
    (h : ∀ junction connector, s.junctions[c]? = some (some junction) →
      want { s with junctions := s.junctions.set c (some
        ⟨connector, junction.producer, junction.consumers ++ [(consumer, i)]⟩) }) :
    (joinEndpoint c i consumer : Build σ ω Unit).Answers s blame fun _ => want := by
  refine after_get_bind.mpr ?_
  match hc : s.junctions[c]?.join with
  | none => exact after_throw.mpr (hstop _)
  | some junction =>
    refine answers_lift_bind (fun e _ => hstop e) fun connector _ => ?_
    exact after_set_bind.mpr (answers_pure (h junction connector (Option.join_eq_some_iff.mp hc)))

/-- A connector of the plan is there in the end, unless its producer is not built. -/
lemma answers_connectWith {connect : ConnectorId → Build σ ω Unit} {c : ConnectorId}
    {want : Scaffold σ ω → Prop} {spec : ConnectorSpec} (hspec : plan.connector? c = some spec)
    (hlt : c < s.junctions.length)
    (hbuilt : ∀ junction, s.junctions[c]? = some (some junction) → want s)
    (hnew : s.Missing c → (buildNode registry context connect spec.producer).Answers s blame
      fun place s' => ∃ connector, Connector.create c spec.producer.id (s'.seen (.node place))
          spec.endpoints = .ok connector ∧
        want { s' with junctions := s'.junctions.set c (some ⟨connector, place, []⟩) }) :
    (connectWith registry context plan connect c).Answers s blame fun _ => want := by
  refine after_get_bind.mpr ?_
  rw [hspec]
  match hc : s.junctions[c]? with
  | none => exact absurd hlt (Nat.not_lt.mpr (List.getElem?_eq_none_iff.mp hc))
  | some (some junction) => exact answers_pure (hbuilt junction hc)
  | some none =>
    refine (hnew hc).bind ?_
    rintro place s' ⟨connector, hcreate, hwant⟩
    refine answers_bind_of_outcome (outcome_schemaOf (.node place) s') ?_
    rw [hcreate]
    refine answers_lift_bind (fun _ => nofun) ?_
    rintro _ ⟨⟩
    exact after_modify.mpr hwant

/-- A connector is there in the end, unless its producer is not built or it cannot be made. -/
lemma answers_connectWith_or {connect : ConnectorId → Build σ ω Unit} {c : ConnectorId}
    {want : Scaffold σ ω → Prop} (hstop : ∀ e, blame e s) (hbuilt : want s)
    (hnew : ∀ spec, s.Missing c → plan.connector? c = some spec →
      (buildNode registry context connect spec.producer).Answers s blame fun place s' =>
        (∀ e, blame e s') ∧ ∀ connector,
          want { s' with junctions := s'.junctions.set c (some ⟨connector, place, []⟩) }) :
    (connectWith registry context plan connect c).Answers s blame fun _ => want := by
  refine after_get_bind.mpr ?_
  match hc : s.junctions[c]?, hspec : plan.connector? c with
  | some (some _), _ => exact answers_pure hbuilt
  | some none, some spec =>
    refine (hnew spec hc hspec).bind fun place s' ⟨hstop', hwant⟩ => ?_
    refine answers_bind_of_outcome (outcome_schemaOf (.node place) s') ?_
    refine answers_lift_bind (fun e _ => hstop' e) fun connector _ => ?_
    exact after_modify.mpr (hwant connector)
  | some none, none | none, _ => exact after_throw.mpr (hstop _)

end Scaffold

end Dataflow
