import Dataflow.Pattern.Search
import Dataflow.Proofs.Meaning.InOrder

/-!
# Searching while scanning

Words can be searched for by the operator that scans a table, or by one that is fed by a scan. Both
plans need the same of their settings, and give the same tuples in the same order, however many
workers the search has.
-/

namespace Dataflow

variable {engine : PatternEngine}

/-- A search for words in columns of a table, with the name of the column for what is found. -/
structure KeywordSearch where
  table : String
  query : String
  columns : List String
  matching : Matching
  result : String

namespace KeywordSearch

variable (k : KeywordSearch)

/-- A scan that gives the rows it finds something in. -/
def searchingScan (id : OperatorId) : Operator :=
  ⟨id, .keywordSource k.table k.query k.columns k.matching k.result⟩

/-- A scan that gives all rows. -/
def plainScan (id : OperatorId) : Operator :=
  ⟨id, .scanSource k.table⟩

/-- A matcher that keeps what it finds something in. -/
def matcher (id : OperatorId) : Operator :=
  ⟨id, .keywordMatcher k.query k.columns k.matching k.result⟩

/-- The search is part of the scan. -/
def fused (source sink : OperatorId) : Line where
  source := k.searchingScan source
  steps := []
  sink := ⟨sink, .tupleSink⟩
  source_inputArity := rfl
  steps_arities := nofun
  sink_outputArity := rfl

/-- The search is fed by the scan. -/
def staged (source matcher sink : OperatorId) : Line where
  source := k.plainScan source
  steps := [k.matcher matcher]
  sink := ⟨sink, .tupleSink⟩
  source_inputArity := rfl
  steps_arities := List.forall_mem_singleton.mpr ⟨rfl, rfl⟩
  sink_outputArity := rfl

/-- The schema of what is found, for the operator that searches. -/
def schema (tables : TableSchemas) (id : OperatorId) : Result Schema := do
  Operator.matcherSchema id (← tables k.table) k.columns k.result

/-- The rows that are found. -/
def rows (table : Table) : List Row :=
  (table.rows.map Tuple.fields).flatMap
    ((Finder.keywords k.query k.matching).keep k.columns table.schema)

variable {k} {v : ValidPlan} {context : Context} {tables : TableSchemas} {catalog : Catalog}
  {source matcher sink : OperatorId} {workers : Nat} {physical : PhysicalPlan}
  {schemas : List (OperatorId × Schema)} {table : Table} {s : Schema}

/-- A search finds a schema if it has columns, all of them textual columns of the table, and a new
name for the matches. -/
lemma schema_eq_ok_iff {id : OperatorId} : k.schema tables id = .ok s ↔
    ∃ a, tables k.table = .ok a ∧ k.columns.isEmpty = false ∧
      (∀ column ∈ k.columns, ∃ own, a.attribute? column = some own ∧ own.type.isTextual = true) ∧
      a.contains k.result = false ∧ s.attributes = a.attributes ++ [⟨k.result, .list⟩] := by
  rw [schema, seq_eq_ok_iff]
  simp only [Operator.matcherSchema_eq_ok_iff]

lemma schema_congr {id id' : OperatorId} (h : k.schema tables id = .ok s) :
    k.schema tables id' = .ok s :=
  schema_eq_ok_iff.mpr (schema_eq_ok_iff.mp h)

/-- An operator searches: its executors are refused only if the query has no words. -/
def SearchedBy (k : KeywordSearch) (operator : Operator) : Prop :=
  ∃ make, (∀ engine, operator.kind.factory? engine = some make) ∧ ∀ r, r.operator = operator →
    if (terms k.query).isEmpty then make r = .error (.config (.emptyKeywords operator.id))
    else ∃ executor, make r = .ok executor ∧ executor.Suits operator.kind

lemma searchedBy_searchingScan (hcolumns : k.columns.isEmpty = false) (id : OperatorId) :
    k.SearchedBy (k.searchingScan id) := by
  refine ⟨StandardFactory.keywordSource, fun _ => rfl, fun r hr => ?_⟩
  simp only [StandardFactory.keywordSource, hr, searchingScan, hcolumns, Finder.ofKeywords]
  rw [if_neg Bool.false_ne_true]
  split_ifs
  · rfl
  · exact ⟨_, rfl, rfl⟩

lemma searchedBy_matcher (id : OperatorId) : k.SearchedBy (k.matcher id) := by
  refine ⟨StandardFactory.keywordMatcher, fun _ => rfl, fun r hr => ?_⟩
  simp only [StandardFactory.keywordMatcher, hr, matcher, Finder.ofKeywords]
  split_ifs
  · rfl
  · exact ⟨_, rfl, Nat.one_ne_zero⟩

/-- If only the operator that searches may be refused, the tree of a plan is built unless the query
has no words. -/
lemma builds_of_searchedBy {operator : Operator} (hsearch : k.SearchedBy operator)
    (hmem : operator ∈ v.plan.operators)
    (hothers : ∀ r, v.Requests context r → r.operator ≠ operator →
      ∀ e, ¬(Registry.standard engine).Declines r e)
    (hschemas : v.inferSchemas context.catalog.schemas = .ok schemas)
    (hphysical : v.physical workers = .ok physical) (clock : Nat → Nat) :
    if (terms k.query).isEmpty then
      physical.tree? (.standard engine) context clock =
        some (.error (.config (.emptyKeywords operator.id)))
    else ∃ t, physical.tree? (.standard engine) context clock = some (.ok t) := by
  obtain ⟨make, hfactory, hmade⟩ := hsearch
  have hanswers := ValidPlan.tree?_answers engine hschemas hphysical clock
  match htree : physical.tree? (.standard engine) context clock with
  | none =>
    rw [htree] at hanswers
    exact hanswers.elim
  | some (.ok t) =>
    rw [htree] at hanswers
    obtain ⟨r, other, _, hr, hother, hmake⟩ := hanswers operator hmem
    obtain rfl : make = other := Option.some.inj ((hfactory engine).symm.trans hother)
    specialize hmade r hr
    split_ifs at hmade ⊢
    · rw [hmake] at hmade
      cases hmade
    · exact ⟨t, rfl⟩
  | some (.error e) =>
    rw [htree] at hanswers
    obtain ⟨r, hr, hdeclines⟩ := hanswers
    obtain rfl : r.operator = operator := of_not_not fun hne => hothers r hr hne e hdeclines
    specialize hmade r rfl
    split_ifs at hmade ⊢
    · rw [hdeclines.eq_of_make (hfactory engine) hmade]
    · obtain ⟨executor, hmake, hsuits⟩ := hmade
      exact (hr.not_declines (hfactory engine) hmake hsuits hdeclines).elim

/-- A plan in which one operator searches and no other is refused gives the rows of its sink, unless
the query has no words. -/
lemma runs_of_searchedBy {operator : Operator} {rows : List Row} (hsearch : k.SearchedBy operator)
    (hmem : operator ∈ v.plan.operators)
    (hothers : ∀ r, v.Requests context r → r.operator ≠ operator →
      ∀ e, ¬(Registry.standard engine).Declines r e)
    (hkinds : ∀ operator ∈ v.plan.operators, operator.kind.hasRows = true ∧
      operator.kind.isJoin = false ∧ ∃ count, operator.kind.workers operator.id workers = .ok count)
    (hschemas : v.inferSchemas context.catalog.schemas = .ok schemas)
    (hsink : valueOf? v.sink schemas = some s)
    (hrows : v.rowsOf engine context.catalog schemas v.sink = some rows) (clock : Nat → Nat) :
    if (terms k.query).isEmpty then
      v.FailsToBuild engine context workers clock (.config (.emptyKeywords operator.id))
    else ∃ given, v.Gives engine context workers clock given ∧ given.map Tuple.fields = rows ∧
      ∀ x ∈ given, x.schema = s := by
  obtain ⟨physical, hphysical⟩ := ValidPlan.exists_physical_of_workers fun operator hmem =>
    (hkinds operator hmem).2.2
  have hbuilds := builds_of_searchedBy hsearch hmem hothers hschemas hphysical clock
  split_ifs at hbuilds ⊢
  · exact ⟨physical, hphysical, hbuilds⟩
  · obtain ⟨t, htree⟩ := hbuilds
    obtain ⟨given, hcomes, hfields, hall⟩ := ValidPlan.exists_comesTo
      (fun operator hmem => ⟨(hkinds operator hmem).1, (hkinds operator hmem).2.1⟩) hschemas
      hphysical htree hsink hrows
    exact ⟨given, ⟨physical, t, hphysical, htree, hcomes⟩, hfields, hall⟩

section Fused

variable (h : v.plan.InLine (k.fused source sink))

include h

lemma mem_fused_iff {operator : Operator} : operator ∈ v.plan.operators ↔
    operator = k.searchingScan source ∨ operator = ⟨sink, .tupleSink⟩ := by
  simp [h.mem_iff, Line.operators, fused]

lemma producersOf_fused : v.plan.producersOf source = [] ∧ v.plan.producersOf sink = [source] := by
  refine ⟨ValidPlan.producersOf_eq_nil ((mem_fused_iff h).mpr (.inl rfl)) rfl,
    ValidPlan.producersOf_eq_singleton ((mem_fused_iff h).mpr (.inr rfl)) rfl ?_⟩
  simp [h.feeds_iff, Line.links, fused, linksFrom, searchingScan]

/-- The schemas of the fused plan are inferred if the search has one, which the sink keeps. -/
lemma fused_infers (tables : TableSchemas) : match v.inferSchemas tables with
    | .ok schemas => ∃ s, k.schema tables source = .ok s ∧ valueOf? v.sink schemas = some s
    | .error e => k.schema tables source = .error e := by
  obtain ⟨hsource, hsink⟩ := producersOf_fused h
  have hmem := (mem_fused_iff h).mpr (.inr rfl)
  have hspec := v.inferSchemas_spec tables
  match hschemas : v.inferSchemas tables with
  | .ok schemas =>
    obtain ⟨s, hs⟩ := ValidPlan.exists_hasSchema hschemas (Plan.mem_ids.mpr ⟨_, hmem, rfl⟩)
    obtain ⟨a, ha, hkeeps⟩ := (ValidPlan.derives_unary_iff hsink).mp
      ((ValidPlan.hasSchema_iff_derives hmem).mp hs)
    cases hkeeps
    have hderives := (ValidPlan.hasSchema_iff_derives ((mem_fused_iff h).mpr (.inl rfl))).mp ha
    refine ⟨s, (ValidPlan.derives_source_iff hsource).mp hderives, ?_⟩
    rw [ValidPlan.sink_eq hmem rfl]
    exact (ValidPlan.valueOf?_inferSchemas_iff hschemas).mpr hs
  | .error e =>
    rw [hschemas] at hspec
    obtain ⟨operator, hoperator, hderives⟩ := hspec
    rcases (mem_fused_iff h).mp hoperator with rfl | rfl
    · exact (ValidPlan.derives_source_iff hsource).mp hderives
    · obtain ⟨a, -, herror⟩ := (ValidPlan.derives_unary_iff hsink).mp hderives
      cases herror

lemma rowsOf_fused (htable : catalog.table k.table = .ok table) :
    v.rowsOf engine catalog schemas v.sink = some (k.rows table) := by
  obtain ⟨hsource, hsink⟩ := producersOf_fused h
  have hmem := (mem_fused_iff h).mpr (.inr rfl)
  have hscan : v.rowsOf engine catalog schemas source = some (k.rows table) := by
    refine (ValidPlan.rowsOf_source ((mem_fused_iff h).mpr (.inl rfl)) hsource).trans ?_
    rw [searchingScan, OperatorKind.rows, htable]
    rfl
  rw [ValidPlan.sink_eq hmem rfl, ValidPlan.rowsOf_unary hmem hsink, hscan, Option.bind_some,
    OperatorKind.rows_of_onRow (f := fun row => [row]) fun _ => rfl, List.flatMap_singleton']

/-- The fused plan gives the rows that are found, unless the query has no words. -/
lemma fused_runs (engine : PatternEngine) (hcolumns : k.columns.isEmpty = false)
    (htable : context.catalog.table k.table = .ok table)
    (hschemas : v.inferSchemas context.catalog.schemas = .ok schemas)
    (hsink : valueOf? v.sink schemas = some s) (workers : Nat) (clock : Nat → Nat) :
    if (terms k.query).isEmpty then
      v.FailsToBuild engine context workers clock (.config (.emptyKeywords source))
    else ∃ given, v.Gives engine context workers clock given ∧
      given.map Tuple.fields = k.rows table ∧ ∀ x ∈ given, x.schema = s := by
  refine runs_of_searchedBy (searchedBy_searchingScan hcolumns source)
    ((mem_fused_iff h).mpr (.inl rfl)) (fun r hr hne e => ?_) (fun operator hmem => ?_) hschemas
    hsink (rowsOf_fused h htable) clock
  · have hoperator := ((mem_fused_iff h).mp hr.mem).resolve_left hne
    exact hr.not_declines_tupleSink (by rw [hoperator])
  · rcases (mem_fused_iff h).mp hmem with rfl | rfl
    · exact ⟨rfl, rfl, 1, rfl⟩
    · exact ⟨rfl, rfl, 1, rfl⟩

end Fused

section Staged

variable (h : v.plan.InLine (k.staged source matcher sink))

include h

lemma mem_staged_iff {operator : Operator} : operator ∈ v.plan.operators ↔
    operator = k.plainScan source ∨ operator = k.matcher matcher ∨
      operator = ⟨sink, .tupleSink⟩ := by
  simp [h.mem_iff, Line.operators, staged]

lemma producersOf_staged : v.plan.producersOf source = [] ∧
    v.plan.producersOf matcher = [source] ∧ v.plan.producersOf sink = [matcher] := by
  refine ⟨ValidPlan.producersOf_eq_nil ((mem_staged_iff h).mpr (.inl rfl)) rfl,
    ValidPlan.producersOf_eq_singleton ((mem_staged_iff h).mpr (.inr (.inl rfl))) rfl ?_,
    ValidPlan.producersOf_eq_singleton ((mem_staged_iff h).mpr (.inr (.inr rfl))) rfl ?_⟩
  · simp [h.feeds_iff, Line.links, staged, linksFrom, plainScan, KeywordSearch.matcher]
  · simp [h.feeds_iff, Line.links, staged, linksFrom, KeywordSearch.matcher]

/-- The schemas of the staged plan are inferred if the search has one, which the sink keeps. -/
lemma staged_infers (tables : TableSchemas) : match v.inferSchemas tables with
    | .ok schemas => ∃ s, k.schema tables matcher = .ok s ∧ valueOf? v.sink schemas = some s
    | .error e => k.schema tables matcher = .error e := by
  obtain ⟨hsource, hmatcher, hsink⟩ := producersOf_staged h
  have hscan := (mem_staged_iff h).mpr (.inl rfl)
  have hmem := (mem_staged_iff h).mpr (.inr (.inr rfl))
  have htable {a : Schema} (ha : v.HasSchema tables source a) : tables k.table = .ok a :=
    (ValidPlan.derives_source_iff hsource).mp ((ValidPlan.hasSchema_iff_derives hscan).mp ha)
  have hspec := v.inferSchemas_spec tables
  match hschemas : v.inferSchemas tables with
  | .ok schemas =>
    obtain ⟨s, hs⟩ := ValidPlan.exists_hasSchema hschemas (Plan.mem_ids.mpr ⟨_, hmem, rfl⟩)
    obtain ⟨_, hb, hkeeps⟩ := (ValidPlan.derives_unary_iff hsink).mp
      ((ValidPlan.hasSchema_iff_derives hmem).mp hs)
    cases hkeeps
    obtain ⟨a, ha, hschema⟩ := (ValidPlan.derives_unary_iff hmatcher).mp
      ((ValidPlan.hasSchema_iff_derives ((mem_staged_iff h).mpr (.inr (.inl rfl)))).mp hb)
    refine ⟨s, seq_eq_ok_iff.mpr ⟨a, htable ha, hschema⟩, ?_⟩
    rw [ValidPlan.sink_eq hmem rfl]
    exact (ValidPlan.valueOf?_inferSchemas_iff hschemas).mpr hs
  | .error e =>
    rw [hschemas] at hspec
    obtain ⟨operator, hoperator, hderives⟩ := hspec
    rcases (mem_staged_iff h).mp hoperator with rfl | rfl | rfl
    · have hnone : tables k.table = .error e := (ValidPlan.derives_source_iff hsource).mp hderives
      rw [schema, hnone]
      rfl
    · obtain ⟨a, ha, herror⟩ := (ValidPlan.derives_unary_iff hmatcher).mp hderives
      rw [schema, htable ha]
      exact herror
    · obtain ⟨b, -, herror⟩ := (ValidPlan.derives_unary_iff hsink).mp hderives
      cases herror

/-- The sink of the staged plan has the rows that are found. -/
lemma rowsOf_staged (hschemas : v.inferSchemas catalog.schemas = .ok schemas)
    (htable : catalog.table k.table = .ok table) :
    v.rowsOf engine catalog schemas v.sink = some (k.rows table) := by
  obtain ⟨hsource, hmatcher, hsink⟩ := producersOf_staged h
  have hmem := (mem_staged_iff h).mpr (.inr (.inr rfl))
  have hplain := (mem_staged_iff h).mpr (.inl rfl)
  have hvalue : valueOf? source schemas = some table.schema := by
    refine (ValidPlan.valueOf?_inferSchemas_iff hschemas).mpr
      ((ValidPlan.hasSchema_iff_derives hplain).mpr ((ValidPlan.derives_source_iff hsource).mpr ?_))
    exact seq_eq_ok_iff.mpr ⟨table, htable, rfl⟩
  have hscan : v.rowsOf engine catalog schemas source = some (table.rows.map Tuple.fields) := by
    refine (ValidPlan.rowsOf_source hplain hsource).trans ?_
    rw [plainScan, OperatorKind.rows, htable]
  have hfound : v.rowsOf engine catalog schemas matcher = some (k.rows table) := by
    refine (ValidPlan.rowsOf_unary ((mem_staged_iff h).mpr (.inr (.inl rfl))) hmatcher).trans ?_
    have hrow (row : Row) : (k.matcher matcher).kind.onRow engine table.schema row =
        some ((Finder.keywords k.query k.matching).keep k.columns table.schema row) := rfl
    rw [hscan, hvalue]
    exact OperatorKind.rows_of_onRow hrow catalog _
  rw [ValidPlan.sink_eq hmem rfl, ValidPlan.rowsOf_unary hmem hsink, hfound, Option.bind_some,
    OperatorKind.rows_of_onRow (f := fun row => [row]) fun _ => rfl, List.flatMap_singleton']

/-- The staged plan gives the rows that are found, unless the query has no words. -/
lemma staged_runs (engine : PatternEngine) (htable : context.catalog.table k.table = .ok table)
    (hschemas : v.inferSchemas context.catalog.schemas = .ok schemas)
    (hsink : valueOf? v.sink schemas = some s) (workers : Nat) (clock : Nat → Nat) :
    if (terms k.query).isEmpty then
      v.FailsToBuild engine context workers clock (.config (.emptyKeywords matcher))
    else ∃ given, v.Gives engine context workers clock given ∧
      given.map Tuple.fields = k.rows table ∧ ∀ x ∈ given, x.schema = s := by
  refine runs_of_searchedBy (searchedBy_matcher matcher)
    ((mem_staged_iff h).mpr (.inr (.inl rfl))) (fun r hr hne e => ?_) (fun operator hmem => ?_)
    hschemas hsink (rowsOf_staged h hschemas htable) clock
  · rcases (mem_staged_iff h).mp hr.mem with hscan | hmatcher | hoperator
    · exact hr.not_declines_scanSource (by rw [hscan]; rfl)
    · exact (hne hmatcher).elim
    · exact hr.not_declines_tupleSink (by rw [hoperator])
  · rcases (mem_staged_iff h).mp hmem with rfl | rfl | rfl
    · exact ⟨rfl, rfl, 1, rfl⟩
    · exact ⟨rfl, rfl, max workers 1, rfl⟩
    · exact ⟨rfl, rfl, 1, rfl⟩

end Staged

/-- A scan that searches and a matcher behind a scan do the same: with the same settings, schemas
are inferred for both plans or for neither, and then neither is built, or both run. The schema of
what they give is the same, and so are the tuples, in the same order, whatever the numbers of
workers and the times that the clocks show. Where the operators that search have the same name, so
are the errors. -/
theorem fused_agrees_staged {p p' : Plan} {source sink scan matcher sink' : OperatorId}
    (h : p.InLine (k.fused source sink)) (h' : p'.InLine (k.staged scan matcher sink'))
    (context : Context) : ∃ v v', p.validate = .ok v ∧ p'.validate = .ok v' ∧
      match v.inferSchemas context.catalog.schemas, v'.inferSchemas context.catalog.schemas with
      | .error e, .error e' => source = matcher → e = e'
      | .ok schemas, .ok schemas' =>
        ∃ s, valueOf? v.sink schemas = some s ∧ valueOf? v'.sink schemas' = some s ∧
          ((∃ e e', (source = matcher → e = e') ∧ ∀ workers clock,
              v.FailsToBuild engine context workers clock e ∧
                v'.FailsToBuild engine context workers clock e') ∨
            ∃ given, (∀ x ∈ given, x.schema = s) ∧ ∀ workers clock,
              v.Gives engine context workers clock given ∧
                v'.Gives engine context workers clock given)
      | _, _ => False := by
  obtain ⟨v, hv⟩ := h.exists_valid
  obtain ⟨v', hv'⟩ := h'.exists_valid
  obtain rfl := Plan.plan_of_validate_eq_ok hv
  obtain rfl := Plan.plan_of_validate_eq_ok hv'
  refine ⟨v, v', hv, hv', ?_⟩
  have hinfers := fused_infers h context.catalog.schemas
  have hinfers' := staged_infers h' context.catalog.schemas
  match hschemas : v.inferSchemas context.catalog.schemas,
      hschemas' : v'.inferSchemas context.catalog.schemas with
  | .error e, .error e' =>
    rw [hschemas] at hinfers
    rw [hschemas'] at hinfers'
    rintro rfl
    exact Except.error.inj (hinfers.symm.trans hinfers')
  | .error e, .ok schemas' =>
    rw [hschemas] at hinfers
    rw [hschemas'] at hinfers'
    obtain ⟨s, hs, -⟩ := hinfers'
    cases hinfers.symm.trans (schema_congr hs)
  | .ok schemas, .error e' =>
    rw [hschemas] at hinfers
    rw [hschemas'] at hinfers'
    obtain ⟨s, hs, -⟩ := hinfers
    cases hinfers'.symm.trans (schema_congr hs)
  | .ok schemas, .ok schemas' =>
    rw [hschemas] at hinfers
    rw [hschemas'] at hinfers'
    obtain ⟨s, hs, hsink⟩ := hinfers
    obtain ⟨s', hs', hsink'⟩ := hinfers'
    obtain rfl : s' = s := Except.ok.inj (hs'.symm.trans (schema_congr hs))
    obtain ⟨a, ha, hcolumns, -⟩ := schema_eq_ok_iff.mp hs
    obtain ⟨table, htable, -⟩ := StandardFactory.exists_table ha
    refine ⟨s', hsink, hsink', ?_⟩
    have hruns := fused_runs h engine hcolumns htable hschemas hsink
    have hruns' := staged_runs h' engine htable hschemas' hsink'
    by_cases hempty : (terms k.query).isEmpty = true
    · simp only [if_pos hempty] at hruns hruns'
      refine .inl ⟨_, _, ?_, fun workers clock => ⟨hruns workers clock, hruns' workers clock⟩⟩
      rintro rfl
      rfl
    · simp only [if_neg hempty] at hruns hruns'
      -- What one run gives is what every run gives: the same rows, bound to the same schema.
      obtain ⟨given, -, hfields, hall⟩ := hruns 1 fun _ => 0
      refine .inr ⟨given, hall, fun workers clock => ?_⟩
      obtain ⟨xs, hxs, hfields', hall'⟩ := hruns workers clock
      obtain ⟨ys, hys, hfields'', hall''⟩ := hruns' workers clock
      obtain rfl := Tuple.eq_of_map_fields (hfields'.trans hfields.symm) hall' hall
      obtain rfl := Tuple.eq_of_map_fields (hfields''.trans hfields.symm) hall'' hall
      exact ⟨hxs, hys⟩

/-- The texts in which one word comes right after another. -/
def toBe : KeywordSearch where
  table := "texts"
  query := "to be"
  columns := ["text"]
  matching := .phrase
  result := "hits"

/-- The scan of the texts searches. -/
def toBeFused : ValidPlan where
  plan :=
    { operators := [toBe.searchingScan "search", ⟨"sink", .tupleSink⟩]
      links := [⟨"search", "sink"⟩]
      ascending := by
        unfold Ascending
        decide
      distinct := by decide }
  order := ["search", "sink"]
  sink := "sink"
  checked := by decide +kernel

/-- A matcher behind the scan of the texts searches. -/
def toBeStaged : ValidPlan where
  plan :=
    { operators := [toBe.matcher "find", toBe.plainScan "scan", ⟨"sink", .tupleSink⟩]
      links := [⟨"find", "sink"⟩, ⟨"scan", "find"⟩]
      ascending := by
        unfold Ascending
        decide
      distinct := by decide }
  order := ["scan", "find", "sink"]
  sink := "sink"
  checked := by decide +kernel

/-- Both plans find the one text in which the words come one after the other. -/
theorem toBe_fused_agrees_staged : ∃ given,
    (∀ workers clock, toBeFused.Gives Pattern.engine twoTexts workers clock given ∧
      toBeStaged.Gives Pattern.engine twoTexts workers clock given) ∧
    given.map Tuple.fields = [[.string "1", .text "to be",
      .list [⟨"text", 0, 5, "to be", "to be"⟩]]] := by
  have hline : toBeFused.plan.InLine (toBe.fused "search" "sink") := ⟨by decide, by decide⟩
  have hline' : toBeStaged.plan.InLine (toBe.staged "scan" "find" "sink") := ⟨by decide, by decide⟩
  obtain ⟨schemas, hschemas⟩ :
      ∃ schemas, toBeFused.inferSchemas twoTexts.catalog.schemas = .ok schemas := ⟨_, rfl⟩
  obtain ⟨schemas', hschemas'⟩ :
      ∃ schemas, toBeStaged.inferSchemas twoTexts.catalog.schemas = .ok schemas := ⟨_, rfl⟩
  have hrun : ((toBeFused.physical 1).toOption.bind fun physical =>
      (physical.tree? (.standard Pattern.engine) twoTexts fun _ => 0).bind fun built =>
        built.toOption.bind fun t => ((Tree.complete 20).outcome t).bind fun run =>
          run.1.toOption.map (List.map Tuple.fields)) = some [[.string "1", .text "to be",
            .list [⟨"text", 0, 5, "to be", "to be"⟩]]] := by
    decide +kernel
  simp only [Option.bind_eq_some_iff, Option.map_eq_some_iff, toOption_eq_some_iff] at hrun
  obtain ⟨physical, hphysical, _, htree, t, rfl, ⟨_, t'⟩, hcomplete, given, rfl, hfields⟩ := hrun
  obtain ⟨v, v', hv, hv', hagrees⟩ := fused_agrees_staged hline hline' twoTexts
  obtain rfl : toBeFused = v := Except.ok.inj ((Plan.validate_plan toBeFused).symm.trans hv)
  obtain rfl : toBeStaged = v' := Except.ok.inj ((Plan.validate_plan toBeStaged).symm.trans hv')
  simp only [hschemas, hschemas'] at hagrees
  obtain ⟨s, -, -, ⟨e, _, -, hfails⟩ | ⟨xs, -, hgives⟩⟩ := hagrees
  · obtain ⟨⟨other, hother, herror⟩, -⟩ := hfails 1 fun _ => 0
    obtain rfl : physical = other := Except.ok.inj (hphysical.symm.trans hother)
    cases htree.symm.trans herror
  · refine ⟨xs, hgives, ?_⟩
    obtain ⟨⟨other, u, hother, hbuilt, hcomes⟩, -⟩ := hgives 1 fun _ => 0
    obtain rfl : physical = other := Except.ok.inj (hphysical.symm.trans hother)
    obtain rfl : t = u := Except.ok.inj (Option.some.inj (htree.symm.trans hbuilt))
    rw [← Except.ok.inj (hcomes.eq _ _ _ hcomplete), hfields]

end KeywordSearch

end Dataflow
