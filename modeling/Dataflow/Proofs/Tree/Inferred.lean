import Dataflow.Pattern.Search
import Dataflow.Proofs.Executor.Crews
import Dataflow.Proofs.Executor.Join
import Dataflow.Proofs.Tree.Wired

/-!
# Building a tree agrees with inferring schemas

The schemas of a valid plan are inferred along its order, while building its tree goes from the sink
down and finds them anew. Both come to the same: where there are schemas, every node and every
connector has that of its operator, and so have the requests for executors; where an operator
refuses the schemas of its producers, there is no tree.
-/

namespace Dataflow

variable {σ ω : Type}

section Agreement

variable {registry : Registry σ ω} {context : Context} {clock : Nat → Nat} {v : ValidPlan}
  {workers : Nat} {physical : PhysicalPlan} {schemas : List (OperatorId × Schema)}
  {t : Tree σ ω} {e : Error} {r : Request}

lemma ValidPlan.exists_hasSchema {tables : TableSchemas} (h : v.inferSchemas tables = .ok schemas)
    {id : OperatorId} (hid : id ∈ v.plan.ids) : ∃ s, v.HasSchema tables id s := by
  have hspec := v.inferSchemas_spec tables
  rw [h] at hspec
  obtain ⟨⟨_, s⟩, hentry, rfl⟩ := List.mem_map.mp (hspec.1.mem_iff.mpr hid)
  exact ⟨s, hspec.2 _ hentry⟩

/-- A request names schemas of a valid plan: those of the producers of its operator, in the order of
the links, and that of the operator. -/
structure Request.Typed (r : Request) (v : ValidPlan) (schemas : List (OperatorId × Schema)) :
    Prop where
  inputs : List.Forall₂ (fun p s => valueOf? p schemas = some s)
    (v.plan.producersOf r.operator.id) r.inputs
  output : valueOf? r.operator.id schemas = some r.output

lemma ValidPlan.Requests.typed (h : v.Requests context r)
    (hschemas : v.inferSchemas context.catalog.schemas = .ok schemas) : r.Typed v schemas where
  inputs := h.inputs.imp fun _ _ => (ValidPlan.valueOf?_inferSchemas_iff hschemas).mpr
  output := (ValidPlan.valueOf?_inferSchemas_iff hschemas).mpr (.intro h.mem h.inputs h.output)

/-- A join is created from every request for one: the layout of its pairs is the schema that was
inferred. -/
lemma ValidPlan.Requests.exists_join (h : v.Requests context r)
    {innerColumn outerColumn : String} {threshold : Nat}
    (hkind : r.operator.kind = .join innerColumn outerColumn threshold) :
    ∃ j, StandardFactory.join r = .ok (.worker (.join j)) := by
  have harity := Operator.length_inputs h.output
  rw [hkind] at harity
  obtain ⟨inner, outer, hinputs⟩ := List.length_eq_two.mp harity
  have hlength : r.links.length = 2 := by
    have hproducers := h.inputs.length_eq
    rwa [harity, Plan.producersOf, List.length_map, ← h.links_eq] at hproducers
  obtain ⟨innerLink, outerLink, hlinks⟩ := List.length_eq_two.mp hlength
  obtain ⟨j, hjoin, -⟩ := StandardFactory.exists_join (r := r)
    (s := ⟨⟨innerColumn, outerColumn, threshold⟩, inner, outer, innerLink, outerLink⟩) hkind hlinks
    hinputs h.output
  exact ⟨j, hjoin⟩

/-- A tree has the schemas of a valid plan: each operator is run, the nodes and the connectors have
the schemas of their operators, and what the tree gives has that of the sink. -/
structure Tree.Typed (t : Tree σ ω) (v : ValidPlan) (schemas : List (OperatorId × Schema)) :
    Prop where
  operators : ∀ operator ∈ v.plan.operators, ∃ node ∈ t.nodes, node.operator = operator
  nodes : ∀ node ∈ t.nodes, valueOf? node.operator.id schemas = some node.schema
  junctions : ∀ junction ∈ t.junctions,
    valueOf? junction.connector.producer schemas = some junction.connector.schema
  sink : ∃ node, t.sink? = some node ∧ valueOf? v.sink schemas = some node.schema

/-- A tree has the schemas that were inferred, if schemas were. -/
lemma ValidPlan.typed_of_tree? (hphysical : v.physical workers = .ok physical)
    (htree : physical.tree? registry context clock = some (.ok t))
    (hschemas : v.inferSchemas context.catalog.schemas = .ok schemas) : t.Typed v schemas := by
  have hrealizes := ValidPlan.realizes_of_physical hphysical
  have hresembles := PhysicalPlan.resembles_of_tree? hrealizes.linked htree
  have hsound := (PhysicalPlan.fresh_of_tree? htree).sound
  have hall := ValidPlan.tree?_serves registry context clock hphysical
  rw [htree] at hall
  refine ⟨fun operator hmem => ?operators, fun node hnode => ?nodes, fun junction hjunction =>
    ?junctions, ?sink⟩
  case operators =>
    obtain ⟨node, hnode, hid⟩ := hresembles.exists_node hrealizes operator hmem
    obtain ⟨k, hk⟩ := List.getElem?_of_mem hnode
    obtain ⟨_, _, hworks⟩ := hresembles.exists_works hrealizes hk
    exact ⟨node, hnode, Plan.operator_ext hworks.mem hmem hid⟩
  case nodes =>
    obtain ⟨k, hk⟩ := List.getElem?_of_mem hnode
    exact hresembles.schema_eq hrealizes hsound hschemas hk
  case junctions =>
    obtain ⟨_, -, hserves, -⟩ := exists_of_forall₂_right hall hjunction
    rw [hserves.producer_eq]
    exact (ValidPlan.valueOf?_inferSchemas_iff hschemas).mpr hserves.schema
  case sink =>
    obtain ⟨node, hnode, hid⟩ := hresembles.exists_sink hrealizes
    exact ⟨node, hnode, hid ▸ hresembles.schema_eq hrealizes hsound hschemas hnode⟩

/-- Where there is a tree, no operator refuses the schemas of its producers. -/
lemma ValidPlan.not_refuses_of_tree? (hphysical : v.physical workers = .ok physical)
    (htree : physical.tree? registry context clock = some (.ok t)) :
    ¬v.Refuses context.catalog.schemas e := by
  have hrealizes := ValidPlan.realizes_of_physical hphysical
  have hresembles := PhysicalPlan.resembles_of_tree? hrealizes.linked htree
  refine ValidPlan.not_refuses fun operator hmem => ?_
  obtain ⟨node, hnode, hid⟩ := hresembles.exists_node hrealizes operator hmem
  obtain ⟨k, hk⟩ := List.getElem?_of_mem hnode
  rw [← hid]
  exact ⟨_, hresembles.hasSchema hrealizes (PhysicalPlan.fresh_of_tree? htree).sound hk⟩

lemma ValidPlan.Rejected.exists_declines (h : v.Rejected registry context e)
    (hschemas : v.inferSchemas context.catalog.schemas = .ok schemas) :
    ∃ r, v.Requests context r ∧ registry.Declines r e := by
  refine h.resolve_left (ValidPlan.not_refuses fun operator hmem => ?_)
  exact ValidPlan.exists_hasSchema hschemas (Plan.mem_ids.mpr ⟨operator, hmem, rfl⟩)

end Agreement

/-- Inferring gives one schema for each operator and does not fail as a run does. If schemas are
inferred, all nodes that are built have them, whether or not the tree is finished, and only an
executor that is not created keeps it from being finished, which a join never is. If none are
inferred, there is no tree. -/
theorem ValidPlan.inferSchemas_agrees (v : ValidPlan) (registry : Registry σ ω) (context : Context)
    (clock : Nat → Nat) :
    (∀ tables, match v.inferSchemas tables with
      | .ok schemas => (schemas.map Prod.fst).Perm v.plan.ids
      | .error e => ∀ cause, e = .run cause → ∃ name, tables name = .error e) ∧
    (∀ cause, v.inferSchemas context.catalog.schemas ≠ .error (.run cause)) ∧
    (∀ workers physical, v.physical workers = .ok physical →
      match v.inferSchemas context.catalog.schemas, physical.tree? registry context clock with
      | _, none => False
      | .error _, some built => ∃ e, built = .error e
      | .ok schemas, some (.ok t) => t.Typed v schemas
      | .ok schemas, some (.error e) =>
          (∃ r, v.Requests context r ∧ r.Typed v schemas ∧ registry.Declines r e) ∧
          ∃ s, (Scaffold.buildPlan registry context physical).outcome
              ⟨[], physical.connectors.map fun _ => none⟩ = some (.error e, s) ∧
            ∀ node ∈ s.nodes, valueOf? node.operator.id schemas = some node.schema) ∧
    ∀ r, v.Requests context r → ∀ innerColumn outerColumn threshold,
      r.operator.kind = .join innerColumn outerColumn threshold →
        ∃ j, StandardFactory.join r = .ok (.worker (.join j)) := by
  refine ⟨fun tables => ?_, fun cause herror => ?_, fun workers physical hphysical => ?_,
    fun r hr innerColumn outerColumn threshold hkind => hr.exists_join hkind⟩
  · have hspec := v.inferSchemas_spec tables
    match hschemas : v.inferSchemas tables with
    | .ok schemas =>
      rw [hschemas] at hspec
      exact hspec.1
    | .error e =>
      rintro cause rfl
      exact exists_table_of_inferSchemas hschemas
  · obtain ⟨name, htable⟩ := exists_table_of_inferSchemas herror
    exact Catalog.schemas_ne_run htable
  · have hserves := tree?_serves registry context clock hphysical
    have hspec := v.inferSchemas_spec context.catalog.schemas
    match hschemas : v.inferSchemas context.catalog.schemas,
        htree : physical.tree? registry context clock with
    | _, none =>
      rw [htree] at hserves
      exact hserves
    | .error _, some (.error e) => exact ⟨e, rfl⟩
    | .error _, some (.ok t) =>
      rw [hschemas] at hspec
      exact (not_refuses_of_tree? hphysical htree hspec).elim
    | .ok schemas, some (.ok t) => exact typed_of_tree? hphysical htree hschemas
    | .ok schemas, some (.error e) =>
      rw [htree] at hserves
      obtain ⟨s, houtcome, hstopped⟩ := hserves
      obtain ⟨r, hr, hdeclines⟩ := hstopped.rejected.exists_declines hschemas
      exact ⟨⟨r, hr, hr.typed hschemas, hdeclines⟩, s, houtcome, fun node hnode =>
        (ValidPlan.valueOf?_inferSchemas_iff hschemas).mpr (hstopped.schemas node hnode)⟩

/-- Pages are what the sink gives, in what is inferred and in the tree. -/
theorem pairedPages_typed : ∃ schemas t node,
    pairedPagesPlan.inferSchemas noDocs.catalog.schemas = .ok schemas ∧
    pairedPagesPlan.physical 1 = .ok pairedPagesNodes ∧
    pairedPagesNodes.tree? (Registry.standard Pattern.engine) noDocs (fun _ => 0) = some (.ok t) ∧
    t.Typed pairedPagesPlan schemas ∧
    t.sink? = some node ∧ node.schema.attributes = [⟨"page", .text⟩] := by
  have hphysical : pairedPagesPlan.physical 1 = .ok pairedPagesNodes := rfl
  have hbuilt : ((pairedPagesNodes.tree? (Registry.standard Pattern.engine) noDocs fun _ => 0).bind
      Except.toOption).isSome = true := by
    decide +kernel
  have hinferred : ((pairedPagesPlan.inferSchemas noDocs.catalog.schemas).toOption.bind
      (valueOf? "sink")).map Schema.attributes = some [⟨"page", .text⟩] := by
    decide +kernel
  obtain ⟨t, htree⟩ := Option.isSome_iff_exists.mp hbuilt
  simp only [Option.bind_eq_some_iff, Option.map_eq_some_iff,
    toOption_eq_some_iff] at htree hinferred
  obtain ⟨_, htree, rfl⟩ := htree
  obtain ⟨s, ⟨schemas, hschemas, hs⟩, hpage⟩ := hinferred
  -- The plan is not to be unfolded any more.
  generalize pairedPagesNodes = nodes at hphysical htree ⊢
  obtain ⟨-, -, hagrees, -⟩ :=
    ValidPlan.inferSchemas_agrees pairedPagesPlan (.standard Pattern.engine) noDocs fun _ => 0
  have htyped := hagrees 1 nodes hphysical
  rw [hschemas, htree] at htyped
  obtain ⟨node, hnode, hsink⟩ := htyped.sink
  obtain rfl : s = node.schema := Option.some.inj (hs.symm.trans hsink)
  exact ⟨schemas, t, node, hschemas, hphysical, htree, htyped, hnode, hpage⟩

end Dataflow
