import Dataflow.Executor.Standard
import Dataflow.Pattern.Search
import Dataflow.Proofs.Tree.Build
import Dataflow.Proofs.Wire.Physical

/-!
# Building without an end

Connectors each of which asks for another one of them before anything else are never built: each
attempt to build one of them begins with an attempt to build the next. So it is with a connector
whose producer asks for nothing but the connector itself.
-/

namespace Dataflow

open Act

mutual

/-- The connector that a node asks for first, if nothing has to be built before. -/
def PhysicalNode.first? : PhysicalNode → Option ConnectorId
  | .node _ _ inputs => PhysicalInput.firstOf? inputs

/-- The connector that a list of inputs asks for first, if nothing has to be built before. -/
def PhysicalInput.firstOf? : List PhysicalInput → Option ConnectorId
  | [] => none
  | .direct _ node :: _ => node.first?
  | .endpoint _ c _ :: _ => some c

end

namespace Scaffold

variable {σ ω : Type} {registry : Registry σ ω} {context : Context} {plan : PhysicalPlan}
  {connect : ConnectorId → Build σ ω Unit} {s : Scaffold σ ω} {c : ConnectorId}

mutual

lemma outcome_buildNode_of_first? {n : PhysicalNode} (hfirst : n.first? = some c)
    (h : (connect c).outcome s = none) :
    (buildNode registry context connect n).outcome s = none := by
  match n with
  | .node operator workers inputs =>
    rw [PhysicalNode.first?] at hfirst
    rw [buildNode, outcome_bind, outcome_buildInputs_of_firstOf? hfirst h]
    rfl

lemma outcome_buildInputs_of_firstOf? {consumer : OperatorId} {inputs : List PhysicalInput}
    (hfirst : PhysicalInput.firstOf? inputs = some c) (h : (connect c).outcome s = none) :
    (buildInputs registry context connect consumer inputs).outcome s = none := by
  match inputs with
  | [] =>
    rw [PhysicalInput.firstOf?] at hfirst
    cases hfirst
  | .direct link node :: inputs =>
    rw [PhysicalInput.firstOf?] at hfirst
    rw [buildInputs, outcome_bind, outcome_buildNode_of_first? hfirst h]
    rfl
  | .endpoint link d i :: inputs =>
    rw [PhysicalInput.firstOf?, Option.some.injEq] at hfirst
    subst hfirst
    rw [buildInputs, outcome_bind, h]
    rfl

end

/-- Connectors each of which asks for another one of them before anything else are never built, at
no depth. -/
theorem outcome_connect_eq_none {W : ConnectorId → Prop}
    (hW : ∀ c, W c → ∃ spec d, plan.connector? c = some spec ∧ spec.producer.first? = some d ∧ W d)
    (hmissing : ∀ c, W c → s.Missing c) (depth : Nat) (hc : W c) :
    (Scaffold.connect registry context plan depth c).outcome s = none := by
  induction depth generalizing c with
  | zero => rfl
  | succ depth ih =>
    obtain ⟨spec, d, hspec, hfirst, hd⟩ := hW c hc
    have hnone : s.junctions[c]? = some none := hmissing c hc
    rw [Scaffold.connect, connectWith, outcome_bind, outcome_get, andThen, hnone, hspec]
    simp only
    rw [outcome_bind, outcome_buildNode_of_first? hfirst (ih hd)]
    rfl

end Scaffold

lemma PhysicalPlan.tree?_eq_none {σ ω : Type} {plan : PhysicalPlan} {registry : Registry σ ω}
    {context : Context} {clock : Nat → Nat}
    (h : (Scaffold.buildNode registry context (Scaffold.connect registry context plan
      (2 * plan.connectors.length + 1)) plan.root).outcome
        ⟨[], plan.connectors.map fun _ => none⟩ = none) :
    plan.tree? registry context clock = none := by
  rw [tree?]
  simp only [Scaffold.buildPlan, outcome_bind, h]
  rfl

/-- A plan with one connector, whose producer reads an endpoint of it. -/
def selfFed : PhysicalPlan :=
  ⟨.node ⟨"sink", .tupleSink⟩ 1 [.endpoint ⟨"loop", "sink"⟩ 0 0],
    [⟨0, .node ⟨"loop", .projection ["word"]⟩ 1 [.endpoint ⟨"loop", "loop"⟩ 0 1], 2⟩]⟩

/-- The settings and no tables. -/
def noTables : Context :=
  ⟨{}, .empty⟩

/-- The plan can be read, but its building never comes to an answer, at no depth. -/
theorem selfFed_endless : PhysicalPlan.ofText? selfFed.text = some selfFed ∧
    selfFed.tree? (Registry.standard Pattern.engine) noTables (fun _ => 0) = none ∧
      ∀ depth, (Scaffold.buildNode (Registry.standard Pattern.engine) noTables
        (Scaffold.connect (Registry.standard Pattern.engine) noTables selfFed depth)
          selfFed.root).outcome ⟨[], [none]⟩ = none := by
  have hbuild (depth : Nat) : (Scaffold.buildNode (Registry.standard Pattern.engine) noTables
      (Scaffold.connect (Registry.standard Pattern.engine) noTables selfFed depth)
        selfFed.root).outcome ⟨[], [none]⟩ = none := by
    apply Scaffold.outcome_buildNode_of_first? (c := 0) rfl
    refine Scaffold.outcome_connect_eq_none (W := (· = 0)) ?_ ?_ depth rfl
    · rintro c rfl
      exact ⟨_, 0, rfl, rfl, rfl⟩
    · rintro c rfl
      rfl
  have hportable : selfFed.Portable := by
    constructor
    · simp only [selfFed, PhysicalPlan.nodes, PhysicalNode.all_eq, PhysicalNode.inputs,
        PhysicalInput.allOf_endpoint, List.flatMap_cons, List.flatMap_nil, List.append_nil,
        List.singleton_append, List.forall_mem_cons]
      refine ⟨⟨⟨?_, ?_⟩, ?_, ?_⟩, ⟨⟨?_, ?_⟩, ?_, ?_⟩, by simp⟩ <;>
        simp [PhysicalNode.operator, PhysicalNode.workers, PhysicalNode.inputs,
          OperatorKind.words, OperatorKind.doubles]
      all_goals
        rintro - c i - rfl rfl
        decide
    · intro c hc
      rw [List.mem_singleton.mp hc]
      constructor <;> decide
  refine ⟨hportable.ofText?_text.trans (if_pos ?_), PhysicalPlan.tree?_eq_none (hbuild _), hbuild⟩
  decide +kernel

end Dataflow
