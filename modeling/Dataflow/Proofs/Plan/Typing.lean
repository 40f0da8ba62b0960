import Dataflow.Catalog
import Dataflow.Proofs.Lists
import Dataflow.Proofs.Plan.Physical

/-!
# Schemas that were inferred

The schema of an operator follows by its kind from those of its producers, in the order of the
links. Inferring goes along the order of a valid plan and finds the schema of every operator, unless
some operator refuses the schemas of its producers, which is then the error.
-/

namespace Dataflow

lemma Schema.ofAttributes_ne_run {attributes : List Attribute} {cause : RunError} :
    Schema.ofAttributes attributes ≠ .error (.run cause) := by
  rw [Schema.ofAttributes]
  split <;> nofun

namespace Operator

variable {id : OperatorId} {input : Schema} {cause : RunError}

lemma requireTextual_ne_run {name : String} :
    requireTextual id input name ≠ .error (.run cause) := by
  rw [requireTextual]
  split
  · nofun
  · split_ifs <;> nofun

lemma requireTyped_ne_run {name : String} {type : AttributeType} :
    requireTyped id input name type ≠ .error (.run cause) := by
  rw [requireTyped]
  split
  · nofun
  · split_ifs <;> nofun

lemma outputOf_ne_run {attributes : List Attribute} :
    outputOf id attributes ≠ .error (.run cause) := by
  rw [outputOf]
  split
  · nofun
  · exact Schema.ofAttributes_ne_run

lemma matcherSchema_ne_run {columns : List String} {result : String} :
    matcherSchema id input columns result ≠ .error (.run cause) := by
  rw [matcherSchema]
  refine unless_ne_error nofun ?_
  refine seq_ne_error (forM_ne_error fun _ _ => requireTextual_ne_run) fun _ => ?_
  exact unless_ne_error nofun outputOf_ne_run

lemma projectionSchema_ne_run {columns : List String} :
    projectionSchema id input columns ≠ .error (.run cause) := by
  rw [projectionSchema]
  refine seq_ne_error (fun h => ?_) fun _ => outputOf_ne_run
  obtain ⟨name, -, herror⟩ := exists_of_mapM_eq_error h
  split at herror <;> cases herror

lemma castSchema_ne_run {name : String} {target : AttributeType} :
    castSchema id input name target ≠ .error (.run cause) := by
  rw [castSchema]
  exact unless_ne_error nofun (unless_ne_error nofun outputOf_ne_run)

lemma functionSchema_ne_run {function : UserFunction} :
    functionSchema id input function ≠ .error (.run cause) := by
  rw [functionSchema]
  refine seq_ne_error (forM_ne_error fun _ _ => by split_ifs <;> nofun) fun _ => ?_
  exact seq_ne_error (forM_ne_error fun _ _ => by split_ifs <;> nofun) fun _ => outputOf_ne_run

lemma outerOnly_ne_run {columns : List Attribute} :
    outerOnly id input columns ≠ .error (.run cause) := by
  induction columns with
  | nil => nofun
  | cons column columns ih =>
    rw [outerOnly]
    split
    · split_ifs
      · exact ih
      · nofun
    · match hrest : outerOnly id input columns with
      | .ok _ => nofun
      | .error e =>
        rw [hrest] at ih
        exact fun h => ih (by cases h; rfl)

lemma joinSchema_ne_run {outer : Schema} {innerColumn outerColumn : String} :
    joinSchema id input outer innerColumn outerColumn ≠ .error (.run cause) := by
  rw [joinSchema]
  refine unless_ne_error nofun (unless_ne_error nofun ?_)
  exact seq_ne_error outerOnly_ne_run fun _ => outputOf_ne_run

/-- An operator fails as a run does only where a table does. -/
lemma outputSchema_ne_run {operator : Operator} {tables : TableSchemas} {inputs : List Schema}
    (htables : ∀ name, tables name ≠ .error (.run cause)) :
    operator.outputSchema tables inputs ≠ .error (.run cause) := by
  rw [outputSchema.eq_def]
  split_ifs
  · nofun
  · split
    · rw [sourceSchema.eq_def]
      split
      · exact htables _
      · exact seq_ne_error (htables _) fun _ => matcherSchema_ne_run
      · nofun
    · rw [unarySchema.eq_def]
      split
      · exact matcherSchema_ne_run
      · exact matcherSchema_ne_run
      · exact matcherSchema_ne_run
      · exact matcherSchema_ne_run
      · exact projectionSchema_ne_run
      · exact castSchema_ne_run
      · exact functionSchema_ne_run
      · exact seq_ne_error requireTextual_ne_run fun _ => nofun
      · refine unless_ne_error nofun ?_
        refine seq_ne_error requireTyped_ne_run fun _ => ?_
        exact seq_ne_error requireTyped_ne_run fun _ => nofun
      · nofun
      · nofun
    · split
      · exact joinSchema_ne_run
      · nofun

end Operator

lemma Catalog.schemas_ne_run {catalog : Catalog} {name : String} {cause : RunError} :
    catalog.schemas name ≠ .error (.run cause) := by
  rw [schemas, table]
  split <;> nofun

section ValueOf

variable {α : Type} {id : OperatorId} {value : α} {values : List (OperatorId × α)}

lemma mem_of_valueOf? (h : valueOf? id values = some value) : (id, value) ∈ values := by
  obtain ⟨⟨key, found⟩, hfound, heq⟩ := Option.map_eq_some_iff.mp h
  have hkey : key = id := by simpa using List.find?_some hfound
  cases heq
  exact hkey ▸ List.mem_of_find?_eq_some hfound

lemma isSome_valueOf?_iff : (valueOf? id values).isSome ↔ id ∈ values.map Prod.fst := by
  simp [valueOf?]

end ValueOf

namespace ValidPlan

/-- The schema of an operator follows from those of its producers. -/
inductive HasSchema (v : ValidPlan) (tables : TableSchemas) : OperatorId → Schema → Prop
  | follows {operator : Operator} {inputs : List Schema} {s : Schema}
      (hmem : operator ∈ v.plan.operators)
      (hlength : (v.plan.producersOf operator.id).length = inputs.length)
      (hinputs : ∀ {id a}, (id, a) ∈ (v.plan.producersOf operator.id).zip inputs →
        HasSchema v tables id a)
      (hschema : operator.outputSchema tables inputs = .ok s) :
      HasSchema v tables operator.id s

variable {v : ValidPlan} {tables : TableSchemas} {known : List (OperatorId × Schema)}
  {operator : Operator} {id : OperatorId} {inputs : List Schema} {s s' : Schema}

lemma HasSchema.intro (hmem : operator ∈ v.plan.operators)
    (hinputs : List.Forall₂ (v.HasSchema tables) (v.plan.producersOf operator.id) inputs)
    (hschema : operator.outputSchema tables inputs = .ok s) : v.HasSchema tables operator.id s :=
  have ⟨hlength, hzip⟩ := List.forall₂_iff_zip.mp hinputs
  .follows hmem hlength hzip hschema

lemma HasSchema.exists_inputs (h : v.HasSchema tables operator.id s)
    (hmem : operator ∈ v.plan.operators) : ∃ inputs,
      List.Forall₂ (v.HasSchema tables) (v.plan.producersOf operator.id) inputs ∧
      operator.outputSchema tables inputs = .ok s := by
  generalize hid : operator.id = id at h
  cases h with
  | follows hmem' hlength hinputs hschema =>
    obtain rfl := Plan.operator_ext hmem hmem' hid
    exact ⟨_, List.forall₂_iff_zip.mpr ⟨hlength, hinputs⟩, hschema⟩

lemma HasSchema.mem_ids (h : v.HasSchema tables id s) : id ∈ v.plan.ids := by
  cases h with
  | follows hmem => exact Plan.mem_ids.mpr ⟨_, hmem, rfl⟩

lemma HasSchema.unique (h : v.HasSchema tables id s) (h' : v.HasSchema tables id s') : s = s' := by
  induction h generalizing s' with
  | @follows operator inputs s hmem hlength hinputs hschema ih =>
    obtain ⟨inputs', hinputs', hschema'⟩ := h'.exists_inputs hmem
    have hunique : List.Forall₂ (fun id a => ∀ a', v.HasSchema tables id a' → a = a')
        (v.plan.producersOf operator.id) inputs :=
      List.forall₂_iff_zip.mpr ⟨hlength, fun hmem a' ha' => ih hmem ha'⟩
    obtain rfl : inputs = inputs' :=
      forall₂_unique hunique hinputs' fun _ _ a' heq ha' => heq a' ha'
    exact Except.ok.inj (hschema.symm.trans hschema')

/-- The schema of an operator is what the operator makes of those of its producers. -/
lemma HasSchema.outputSchema_eq (h : v.HasSchema tables operator.id s)
    (hmem : operator ∈ v.plan.operators)
    (hinputs : List.Forall₂ (v.HasSchema tables) (v.plan.producersOf operator.id) inputs) :
    operator.outputSchema tables inputs = .ok s := by
  obtain ⟨inputs', hinputs', hschema⟩ := h.exists_inputs hmem
  obtain rfl : inputs = inputs' := forall₂_unique hinputs hinputs' fun _ _ _ h h' => h.unique h'
  exact hschema

/-- The producers of an operator have schemas, and the operator refuses them. -/
def Refuses (v : ValidPlan) (tables : TableSchemas) (e : Error) : Prop :=
  ∃ operator ∈ v.plan.operators, ∃ inputs,
    List.Forall₂ (v.HasSchema tables) (v.plan.producersOf operator.id) inputs ∧
    operator.outputSchema tables inputs = .error e

lemma not_refuses {e : Error} (h : ∀ operator ∈ v.plan.operators, ∃ s,
    v.HasSchema tables operator.id s) : ¬v.Refuses tables e := by
  rintro ⟨operator, hmem, inputs, hinputs, herror⟩
  obtain ⟨s, hs⟩ := h operator hmem
  rw [hs.outputSchema_eq hmem hinputs] at herror
  cases herror

/-- One more operator is looked at, whose producers were looked at before. -/
lemma inferNext_spec (hmem : operator ∈ v.plan.operators)
    (hknown : ∀ entry ∈ known, v.HasSchema tables entry.1 entry.2)
    (hproducers : ∀ p ∈ v.plan.producersOf operator.id, p ∈ known.map Prod.fst) :
    match v.inferNext tables known operator.id with
    | .ok known' => ∃ s, known' = (operator.id, s) :: known ∧ v.HasSchema tables operator.id s
    | .error e => v.Refuses tables e := by
  have hfound : v.plan.operator? operator.id = some operator :=
    Plan.operator?_eq_some_iff.mpr ⟨hmem, rfl⟩
  obtain ⟨inputs, hinputs⟩ : ∃ inputs, (v.plan.producersOf operator.id).mapM
      (fun p => valueOf? p known) = some inputs := by
    rw [← Option.isSome_iff_exists, isSome_mapM_iff]
    exact fun p hp => isSome_valueOf?_iff.mpr (hproducers p hp)
  rw [mapM_eq_some_iff] at hinputs
  have hschemas := hinputs.imp fun _ _ hvalue => hknown _ (mem_of_valueOf? hvalue)
  rw [inferNext, hfound]
  change match ((v.plan.producersOf operator.id).mapM _ >>= fun inputs =>
      operator.outputSchema tables inputs >>= fun s => .ok ((operator.id, s) :: known)) with
    | .ok known' => _
    | .error e => _
  generalize hlooked : (v.plan.producersOf operator.id).mapM (m := Result) _ = looked
  obtain rfl : looked = .ok inputs :=
    hlooked.symm.trans (mapM_eq_ok_iff.mpr (hinputs.imp fun _ _ hvalue => by rw [hvalue]))
  rw [Result.ok_bind]
  match hschema : operator.outputSchema tables inputs with
  | .ok s => exact ⟨s, rfl, .intro hmem hschemas hschema⟩
  | .error e => exact ⟨operator, hmem, inputs, hschemas, hschema⟩

lemma foldlM_inferNext {done rest : List OperatorId} (horder : v.order = done ++ rest)
    (hkeys : known.map Prod.fst = done.reverse)
    (hknown : ∀ entry ∈ known, v.HasSchema tables entry.1 entry.2) :
    match rest.foldlM (v.inferNext tables) known with
    | .ok schemas => schemas.map Prod.fst = v.order.reverse ∧
        ∀ entry ∈ schemas, v.HasSchema tables entry.1 entry.2
    | .error e => v.Refuses tables e := by
  induction rest generalizing done known with
  | nil => exact ⟨by simp [hkeys, horder], hknown⟩
  | cons id rest ih =>
    obtain ⟨hperm, hsorted⟩ := v.order_spec
    obtain ⟨operator, hmem, rfl⟩ : ∃ operator ∈ v.plan.operators, operator.id = id :=
      Plan.mem_ids.mp (hperm.mem_iff.mp (by simp [horder]))
    have hnext := inferNext_spec hmem hknown fun p hp => by
      rw [hkeys, List.mem_reverse]
      exact hsorted done _ rest horder p (Plan.mem_producersOf.mp hp)
    rw [List.foldlM_cons]
    match hmade : v.inferNext tables known operator.id with
    | .error e =>
      rw [hmade] at hnext
      exact hnext
    | .ok known' =>
      rw [hmade] at hnext
      obtain ⟨s, rfl, hs⟩ := hnext
      have hrest : v.order = (done ++ [operator.id]) ++ rest := by simp [horder]
      exact ih hrest (by simp [hkeys]) (List.forall_mem_cons.mpr ⟨hs, hknown⟩)

/-- Inferring finds the schema of every operator, or fails with what refuses one. -/
lemma inferSchemas_spec (v : ValidPlan) (tables : TableSchemas) :
    match v.inferSchemas tables with
    | .ok schemas => (schemas.map Prod.fst).Perm v.plan.ids ∧
        ∀ entry ∈ schemas, v.HasSchema tables entry.1 entry.2
    | .error e => v.Refuses tables e := by
  have hnone : ∀ entry ∈ ([] : List (OperatorId × Schema)), v.HasSchema tables entry.1 entry.2 :=
    fun _ => List.not_mem_nil.elim
  have hfold := foldlM_inferNext (List.nil_append v.order).symm rfl hnone
  rw [inferSchemas]
  match hmade : v.order.foldlM (v.inferNext tables) [] with
  | .error e =>
    rw [hmade] at hfold
    exact hfold
  | .ok schemas =>
    rw [hmade] at hfold
    obtain ⟨hkeys, hall⟩ := hfold
    exact ⟨hkeys ▸ v.order.reverse_perm.trans v.order_spec.1, hall⟩

lemma exists_table_of_inferSchemas {cause : RunError}
    (h : v.inferSchemas tables = .error (.run cause)) :
    ∃ name, tables name = .error (.run cause) := by
  have hspec := v.inferSchemas_spec tables
  rw [h] at hspec
  obtain ⟨operator, -, inputs, -, herror⟩ := hspec
  by_contra hnone
  push Not at hnone
  exact Operator.outputSchema_ne_run hnone herror

/-- The schemas that are inferred are those that the operators have. -/
theorem valueOf?_inferSchemas_iff {schemas : List (OperatorId × Schema)}
    (h : v.inferSchemas tables = .ok schemas) :
    valueOf? id schemas = some s ↔ v.HasSchema tables id s := by
  have hspec := v.inferSchemas_spec tables
  rw [h] at hspec
  obtain ⟨hkeys, hall⟩ := hspec
  constructor
  · exact fun hvalue => hall _ (mem_of_valueOf? hvalue)
  · intro hs
    have hsome := isSome_valueOf?_iff.mpr (hkeys.mem_iff.mpr hs.mem_ids)
    obtain ⟨s', hvalue⟩ := Option.isSome_iff_exists.mp hsome
    rw [hvalue, hs.unique (hall _ (mem_of_valueOf? hvalue))]

end ValidPlan

end Dataflow
