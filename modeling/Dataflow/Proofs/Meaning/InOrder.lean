import Dataflow.Proofs.Meaning.Runs
import Dataflow.Proofs.Plan.Line
import Dataflow.Proofs.Tree.Inferred

/-!
# Runs without joins

Where schemas are inferred, a tree of standard executors is built unless one of them is refused. If
the plan has no join, a run of the tree gives the rows of the sink in their order, whatever the
number of workers.
-/

namespace Dataflow

variable {engine : PatternEngine}

lemma Tuple.eq_of_map_fields {s : Schema} {xs ys : List Tuple}
    (h : xs.map fields = ys.map fields) (hxs : ∀ x ∈ xs, x.schema = s)
    (hys : ∀ y ∈ ys, y.schema = s) : xs = ys := by
  induction xs generalizing ys with
  | nil => exact (List.map_eq_nil_iff.mp h.symm).symm
  | cons x xs ih =>
    obtain ⟨y, ys, rfl, hfields, hrest⟩ := List.map_eq_cons_iff.mp h.symm
    rw [List.forall_mem_cons] at hxs hys
    have hschema := hxs.1.trans hys.1.symm
    obtain ⟨_, _, _⟩ := x
    obtain ⟨_, _, _⟩ := y
    cases hschema
    cases hfields
    rw [ih hrest.symm hxs.2 hys.2]

lemma OperatorKind.rows_of_onRow {kind : OperatorKind} {s : Schema} {f : Row → List Row}
    (hrow : ∀ row, kind.onRow engine s row = some (f row)) (catalog : Catalog) (given : List Row) :
    kind.rows engine catalog [(s, given)] = some (given.flatMap f) := by
  have hmap : (given.mapM fun row => kind.onRow engine s row) = some (given.map f) := by
    rw [mapM_eq_some_iff, List.forall₂_map_right_iff, List.forall₂_same]
    exact fun row _ => hrow row
  rw [rows_singleton, hmap, Option.map_some, List.flatMap_def]

section Declined

variable {context : Context} {v : ValidPlan} {workers : Nat} {physical : PhysicalPlan}
  {schemas : List (OperatorId × Schema)} {r : Request} {make : StandardFactory} {e e' : Error}

/-- A request that a factory refuses is declined for its reason. -/
lemma Registry.Declines.eq_of_make (h : (Registry.standard engine).Declines r e)
    (hfactory : r.operator.kind.factory? engine = some make) (herror : make r = .error e') :
    e = e' := by
  rw [← get?_standard] at hfactory
  rcases h with hnone | ⟨hmake, hrefused⟩ | ⟨-, hmake, hworker⟩ | ⟨-, hmake, hsource⟩
  · rw [hfactory] at hnone
    cases hnone
  all_goals
    rw [hfactory] at hmake
    cases hmake
  · exact Except.error.inj (hrefused.symm.trans herror)
  · rw [herror] at hworker
    cases hworker
  · rw [herror] at hsource
    cases hsource

/-- An executor is of the sort that a kind needs: a source for one without inputs, a worker for any
other. -/
def Executor.Suits (kind : OperatorKind) : Executor TableScan StandardWorker → Prop
  | .source _ => kind.inputArity = 0
  | .worker _ => kind.inputArity ≠ 0

namespace ValidPlan

lemma Requests.links_eq_nil_iff (h : v.Requests context r) :
    r.links = [] ↔ r.operator.kind.inputArity = 0 := by
  rw [← length_producersOf h.mem, Plan.producersOf, ← h.links_eq, List.length_map,
    List.length_eq_zero_iff]

/-- A request that makes an executor of the sort that its operator needs is not declined. -/
lemma Requests.not_declines (h : v.Requests context r)
    (hfactory : r.operator.kind.factory? engine = some make)
    {executor : Executor TableScan StandardWorker}
    (hmake : make r = .ok executor) (hsuits : executor.Suits r.operator.kind) :
    ¬(Registry.standard engine).Declines r e := by
  rw [← get?_standard] at hfactory
  rintro (hnone | ⟨hother, hrefused⟩ | ⟨hlinks, hother, hworker⟩ | ⟨hlinks, hother, hsource⟩)
  · rw [hfactory] at hnone
    cases hnone
  all_goals
    rw [hfactory] at hother
    cases hother
  · rw [hmake] at hrefused
    cases hrefused
  · rw [hmake] at hworker
    cases hworker
    exact hsuits (h.links_eq_nil_iff.mp hlinks)
  · rw [hmake] at hsource
    cases hsource
    exact hlinks (h.links_eq_nil_iff.mpr hsuits)

lemma Requests.not_declines_scanSource (h : v.Requests context r) {name : String}
    (hkind : r.operator.kind = .scanSource name) : ¬(Registry.standard engine).Declines r e := by
  have hmake : StandardFactory.scanSource r =
      .ok (.source ⟨r.context.catalog, name, none, []⟩) := by
    rw [StandardFactory.scanSource, hkind]
  exact h.not_declines (by rw [hkind]; rfl) hmake (by rw [hkind]; rfl)

lemma Requests.not_declines_tupleSink (h : v.Requests context r)
    (hkind : r.operator.kind = .tupleSink) : ¬(Registry.standard engine).Declines r e := by
  have hmake : StandardFactory.tupleSink r = .ok (.worker .sink) := by
    rw [StandardFactory.tupleSink, hkind]
  exact h.not_declines (by rw [hkind]; rfl) hmake (by rw [hkind]; exact Nat.one_ne_zero)

/-- Where schemas are inferred, a tree is built unless a request is declined, and in a tree no
factory refused what the operators asked for. -/
lemma tree?_answers (engine : PatternEngine)
    (hschemas : v.inferSchemas context.catalog.schemas = .ok schemas)
    (hphysical : v.physical workers = .ok physical) (clock : Nat → Nat) :
    match physical.tree? (.standard engine) context clock with
    | none => False
    | some (.error e) => ∃ r, v.Requests context r ∧ (Registry.standard engine).Declines r e
    | some (.ok _) => ∀ operator ∈ v.plan.operators, ∃ r make executor, r.operator = operator ∧
        operator.kind.factory? engine = some make ∧ make r = .ok executor := by
  have hserves := tree?_serves (Registry.standard engine) context clock hphysical
  match htree : physical.tree? (.standard engine) context clock with
  | none =>
    rw [htree] at hserves
    exact hserves
  | some (.error e) =>
    rw [htree] at hserves
    obtain ⟨_, -, hstopped⟩ := hserves
    exact hstopped.rejected.exists_declines hschemas
  | some (.ok t) =>
    intro operator hmem
    have hrealizes := realizes_of_physical hphysical
    have hresembles := PhysicalPlan.resembles_of_tree? hrealizes.linked htree
    obtain ⟨node, hnode, hid⟩ := hresembles.exists_node hrealizes operator hmem
    obtain ⟨k, hk⟩ := List.getElem?_of_mem hnode
    obtain ⟨slots, inputs, hworks⟩ := hresembles.exists_works hrealizes hk
    obtain ⟨count, -, hcreate⟩ := hworks.crew
    obtain rfl := Plan.operator_ext hworks.mem hmem hid
    obtain ⟨make, hfactory, ⟨-, s, hmake, -⟩ | ⟨-, w, hmake, -⟩⟩ := createCrew_eq_ok hcreate
    · exact ⟨_, make, _, rfl, hfactory, hmake⟩
    · exact ⟨_, make, _, rfl, hfactory, hmake⟩

/-- A plan is laid out if the number of workers of no operator is refused. -/
lemma exists_physical_of_workers (h : ∀ operator ∈ v.plan.operators,
    ∃ count, operator.kind.workers operator.id workers = .ok count) :
    ∃ physical, v.physical workers = .ok physical := by
  match hphysical : v.physical workers with
  | .ok physical => exact ⟨physical, rfl⟩
  | .error e =>
    obtain ⟨operator, hmem, herror⟩ := exists_refused hphysical
    obtain ⟨count, hcount⟩ := h operator hmem
    rw [hcount] at herror
    cases herror

end ValidPlan

end Declined

/-- A run as a whole comes to a result: it does if it may go deep enough, and comes to no other
however deep it may go. -/
structure Tree.ComesTo (t : Tree TableScan StandardWorker) (result : Result (List Tuple)) :
    Prop where
  ends : ∃ depth₀, ∀ depth, depth₀ ≤ depth →
    ((Tree.complete depth).outcome t).map Prod.fst = some result
  eq : ∀ depth result' t', (Tree.complete depth).outcome t = some (result', t') → result' = result

/-- Without joins, a run gives the rows of the sink in their order. -/
lemma ValidPlan.exists_comesTo {context : Context} {v : ValidPlan} {workers : Nat}
    {physical : PhysicalPlan} {clock : Nat → Nat} {schemas : List (OperatorId × Schema)}
    {t : Tree TableScan StandardWorker} {s : Schema} {rows : List Row}
    (hkinds : ∀ operator ∈ v.plan.operators,
      operator.kind.hasRows = true ∧ operator.kind.isJoin = false)
    (hschemas : v.inferSchemas context.catalog.schemas = .ok schemas)
    (hphysical : v.physical workers = .ok physical)
    (htree : physical.tree? (.standard engine) context clock = some (.ok t))
    (hsink : valueOf? v.sink schemas = some s)
    (hrows : v.rowsOf engine context.catalog schemas v.sink = some rows) :
    ∃ given, t.ComesTo (.ok given) ∧ given.map Tuple.fields = rows ∧ ∀ x ∈ given, x.schema = s := by
  have hrealizes := ValidPlan.realizes_of_physical hphysical
  have hresembles := PhysicalPlan.resembles_of_tree? hrealizes.linked htree
  have hfresh := PhysicalPlan.fresh_of_tree? htree
  obtain ⟨node, hnode, hid⟩ := hresembles.exists_sink hrealizes
  obtain rfl : node.schema = s := by
    have hvalue := hresembles.schema_eq hrealizes hfresh.sound hschemas hnode
    rw [hid, hsink] at hvalue
    exact (Option.some.inj hvalue).symm
  have hjoin (operator : Operator) (hmem : operator ∈ v.plan.operators)
      (h : operator.kind.isJoin = true) : ¬True := by
    rw [(hkinds operator hmem).2] at h
    cases h
  obtain ⟨out, hcarries, hends, heq⟩ := hfresh.complete_eq_all (hresembles.willing hrealizes)
    (P := fun out => out.Carries True node.schema (some rows)) fun t' hprimed hopened hwiring => by
      obtain ⟨R, hforetold, hall⟩ := Tree.exists_foretold hfresh.sound hwiring
        fun k node f hk hf => hresembles.exists_flows hrealizes hfresh.sound hschemas
          (fun operator hmem => (hkinds operator hmem).1) hjoin hprimed hk
          (hopened node (List.mem_of_getElem? hk)) hf
      refine ⟨R, hforetold, hrows ▸ hid ▸ hall t.root ?_ node hnode⟩
      have hlength := congrArg (·.supplies.length) hwiring
      simp only [Ledger.wiring, Tree.ledger, List.length_map] at hlength
      exact hlength ▸ (List.getElem?_eq_some_iff.mp hnode).1
  obtain ⟨given, failure⟩ := out
  obtain ⟨rfl, halike⟩ := hcarries.rows_alike
  exact ⟨given, ⟨hends, heq⟩, halike.2 trivial, hcarries.schema_eq⟩

/-- A plan is laid out for a number of workers and built, and its run gives tuples. -/
def ValidPlan.Gives (engine : PatternEngine) (v : ValidPlan) (context : Context) (workers : Nat)
    (clock : Nat → Nat) (given : List Tuple) : Prop :=
  ∃ physical t, v.physical workers = .ok physical ∧
    physical.tree? (.standard engine) context clock = some (.ok t) ∧ t.ComesTo (.ok given)

/-- A plan is laid out for a number of workers, but not built. -/
def ValidPlan.FailsToBuild (engine : PatternEngine) (v : ValidPlan) (context : Context)
    (workers : Nat) (clock : Nat → Nat) (e : Error) : Prop :=
  ∃ physical, v.physical workers = .ok physical ∧
    physical.tree? (.standard engine) context clock = some (.error e)

end Dataflow
