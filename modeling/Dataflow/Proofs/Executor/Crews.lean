import Dataflow.Proofs.Executor.Rows
import Dataflow.Proofs.Flow.Stream
import Dataflow.Proofs.Matching.Slices
import Dataflow.Tree.Build

/-!
# Crews of standard operators

With the standard registry, the workers of a node are all alike, and what they are follows from the
kind of the operator. Those of most kinds look at tuples one by one, and do what the kind does to
rows.
-/

namespace Dataflow

variable {engine : PatternEngine}

namespace OperatorKind

/-- The standard factory of a kind; entity matchers and user functions have none. -/
def factory? (engine : PatternEngine) : OperatorKind → Option StandardFactory
  | .scanSource _ => some .scanSource
  | .keywordSource .. => some StandardFactory.keywordSource
  | .keywordMatcher .. => some StandardFactory.keywordMatcher
  | .patternMatcher .. => some (StandardFactory.patternMatcher engine)
  | .fuzzyMatcher .. => some StandardFactory.fuzzyMatcher
  | .projection _ => some StandardFactory.projection
  | .typeCasting .. => some StandardFactory.typeCasting
  | .join .. => some StandardFactory.join
  | .wordCountPartial _ => some StandardFactory.wordCountPartial
  | .wordCloud _ => some StandardFactory.wordCloud
  | .tupleSink => some StandardFactory.tupleSink
  | .entityMatcher .. | .userFunction _ => none

end OperatorKind

lemma get?_standard (kind : OperatorKind) :
    (Registry.standard engine).get? kind.tag = kind.factory? engine := by
  cases kind <;> rfl

lemma make_worker_eq {kind : OperatorKind} {make : StandardFactory}
    (h : kind.factory? engine = some make) (r : Request) (n : Nat) :
    make { r with worker := n } = make r := by
  cases kind <;> cases h <;> rfl

lemma Operator.length_inputs {operator : Operator} {tables : TableSchemas} {inputs : List Schema}
    {output : Schema} (h : operator.outputSchema tables inputs = .ok output) :
    inputs.length = operator.kind.inputArity := by
  by_contra hlength
  rw [outputSchema.eq_def, if_pos hlength] at h
  cases h

/-- What a crew is made from. -/
def requestOf (context : Context) (operator : Operator) (slots : List Slot) (inputs : List Schema)
    (output : Schema) : Request :=
  ⟨operator, inputs, slots.map Slot.link, output, 0, context⟩

/-- Workers that are made from one request are all alike, whatever their numbers are. -/
lemma eq_replicate_of_made {kind : OperatorKind} {make : StandardFactory}
    (h : kind.factory? engine = some make) (r : Request) {count : Nat} (hcount : 0 < count)
    {team : List StandardWorker}
    (hmade : List.Forall₂ (fun n w => make { r with worker := n } = .ok (.worker w))
      (List.range count) team) :
    ∃ w, make r = .ok (.worker w) ∧ team = List.replicate count w := by
  have hmem (w : StandardWorker) (hw : w ∈ team) : make r = .ok (.worker w) := by
    obtain ⟨n, -, hn⟩ := exists_of_forall₂_right hmade hw
    exact (make_worker_eq h r n).symm.trans hn
  have hlength : team.length = count := by rw [← hmade.length_eq, List.length_range]
  obtain ⟨w, hw⟩ := List.exists_mem_of_length_pos (hlength ▸ hcount)
  refine ⟨w, hmem w hw, List.eq_replicate_iff.mpr ⟨hlength, fun w' hw' => ?_⟩⟩
  have heq := (hmem w' hw').symm.trans (hmem w hw)
  cases heq
  rfl

/-- An operator without inputs has one source, and any other one a team of workers that are all
alike. -/
lemma createCrew_eq_ok {context : Context} {operator : Operator} {workers : Nat}
    {slots : List Slot} {inputs : List Schema} {output : Schema}
    {crew : Crew TableScan StandardWorker}
    (h : Scaffold.createCrew (.standard engine) context operator workers slots inputs output =
      .ok crew) :
    ∃ make, operator.kind.factory? engine = some make ∧
      ((slots = [] ∧ ∃ s, make (requestOf context operator slots inputs output) = .ok (.source s) ∧
          crew = .source s false) ∨
        (slots ≠ [] ∧ ∃ w, make (requestOf context operator slots inputs output) =
            .ok (.worker w) ∧
          crew = .team { slots, workers := List.replicate (max workers 1) w })) := by
  obtain ⟨make, hmake, h⟩ := seq_eq_ok_iff.mp h
  have hfactory : operator.kind.factory? engine = some make := by
    rw [← get?_standard]
    rw [Registry.require] at hmake
    split at hmake
    · next hfound =>
      cases hmake
      exact hfound
    · cases hmake
  refine ⟨make, hfactory, ?_⟩
  by_cases hslots : slots.isEmpty = true
  · rw [if_pos hslots] at h
    obtain ⟨made, hmade, h⟩ := seq_eq_ok_iff.mp h
    match made with
    | .source s =>
      cases h
      exact .inl ⟨List.isEmpty_iff.mp hslots, s, hmade, rfl⟩
    | .worker w => cases h
  · rw [if_neg hslots] at h
    obtain ⟨team, hteam, h⟩ := seq_eq_ok_iff.mp h
    cases h
    have hmade : List.Forall₂ (fun n w => make { requestOf context operator slots inputs output with
        worker := n } = .ok (.worker w)) (List.range (max workers 1)) team := by
      refine (mapM_eq_ok_iff.mp hteam).imp fun n w hw => ?_
      obtain ⟨made, hmade, hw⟩ := seq_eq_ok_iff.mp hw
      match made with
      | .source _ => cases hw
      | .worker _ =>
        cases hw
        exact hmade
    obtain ⟨w, hw, rfl⟩ := eq_replicate_of_made hfactory _ (by omega) hmade
    exact .inr ⟨fun hnil => hslots (List.isEmpty_iff.mpr hnil), w, hw, rfl⟩

section CreateCrew

variable {context : Context} {operator : Operator} {workers : Nat} {slots : List Slot}
  {inputs : List Schema} {output : Schema} {make : StandardFactory}

lemma require_standard (h : operator.kind.factory? engine = some make) :
    (Registry.standard engine).require operator.kind.tag = .ok make := by
  rw [Registry.require, get?_standard, h]

lemma createCrew_source {s : TableScan} (hfactory : operator.kind.factory? engine = some make)
    (hmake : make (requestOf context operator [] inputs output) = .ok (.source s)) :
    Scaffold.createCrew (.standard engine) context operator workers [] inputs output =
      .ok (.source s false) :=
  seq_eq_ok_iff.mpr ⟨make, require_standard hfactory, seq_eq_ok_iff.mpr ⟨_, hmake, rfl⟩⟩

lemma createCrew_team {w : StandardWorker} (hfactory : operator.kind.factory? engine = some make)
    (hslots : slots ≠ [])
    (hmake : make (requestOf context operator slots inputs output) = .ok (.worker w)) :
    Scaffold.createCrew (.standard engine) context operator workers slots inputs output =
      .ok (.team { slots, workers := List.replicate (max workers 1) w }) := by
  refine seq_eq_ok_iff.mpr ⟨make, require_standard hfactory, ?_⟩
  rw [if_neg (by simpa using hslots)]
  refine seq_eq_ok_iff.mpr ⟨List.replicate (max workers 1) w, mapM_eq_ok_iff.mpr ?_, rfl⟩
  refine List.forall₂_iff_get.mpr ⟨by simp, fun i hi hi' => ?_⟩
  rw [List.get_eq_getElem, List.get_eq_getElem, List.getElem_replicate]
  exact seq_eq_ok_iff.mpr ⟨.worker w, (make_worker_eq hfactory _ _).trans hmake, rfl⟩

end CreateCrew

/-- Kinds whose workers look at tuples one by one. -/
def OperatorKind.isRowWise : OperatorKind → Bool
  | .keywordMatcher .. | .patternMatcher .. | .fuzzyMatcher .. | .projection _ | .typeCasting ..
  | .tupleSink => true
  | _ => false

lemma OperatorKind.inputArity_of_isRowWise {kind : OperatorKind} (h : kind.isRowWise = true) :
    kind.inputArity = 1 := by
  cases kind <;> first | rfl | cases h

/-- Kinds whose workers look for matches. -/
def OperatorKind.isMatcher : OperatorKind → Bool
  | .keywordMatcher .. | .patternMatcher .. | .fuzzyMatcher .. => true
  | _ => false

/-- A kind that looks for a pattern uses an engine that reports matches in bounds. -/
def OperatorKind.SearchesInBounds (engine : PatternEngine) : OperatorKind → Prop
  | .patternMatcher .. => engine.InBounds
  | _ => True

lemma OperatorKind.onRow_of_finder? {kind : OperatorKind} {finder : Finder} {columns : List String}
    (h : kind.finder? engine = some (finder, columns)) (s : Schema) (row : Row) :
    kind.onRow engine s row = some (finder.keep columns s row) := by
  cases kind with
  | projection | typeCasting | tupleSink => cases h
  | _ => simp [onRow, h]

/-- A worker does the same to each tuple and does not change. -/
structure StandardWorker.Applies (w : StandardWorker) (f : Tuple → Result (List Tuple)) : Prop where
  tuple : ∀ now t link, Worker.process now (.tuple t link) w = (f t, w)
  exhausted : ∀ now link, Worker.process now (.exhausted link) w = (.ok [], w)
  stop : Worker.stop w = (.ok (), w)

namespace StandardFactory

variable {r : Request} {tables : TableSchemas} {a : Schema} {finder : Finder}
  {columns : List String}

lemma ofKeywords_eq_ok {id : OperatorId} {query : String} {matching : Matching}
    (h : Finder.ofKeywords id query matching = .ok finder) :
    finder = .keywords query matching ∧ terms query ≠ [] := by
  rw [Finder.ofKeywords] at h
  split_ifs at h with hterms
  cases h
  exact ⟨rfl, by simpa using hterms⟩

lemma ofPattern_eq_ok {id : OperatorId} {pattern : String}
    (h : Finder.ofPattern engine id pattern = .ok finder) :
    ∃ search, engine.compile pattern = .ok search ∧ finder = .pattern pattern search := by
  rw [Finder.ofPattern] at h
  split at h
  · next search hsearch =>
    cases h
    exact ⟨search, hsearch, rfl⟩
  · cases h

lemma ofShare_eq_ok {id : OperatorId} {query : String} {threshold : Binary64}
    (h : Finder.ofShare id query threshold = .ok finder) :
    finder = .fuzzy (terms query).eraseDups threshold := by
  rw [Finder.ofShare] at h
  split_ifs at h
  cases h
  rfl

/-- A scan that searches has a matcher, and some word to look for. -/
lemma keywordSource_eq_ok {executor : Executor TableScan StandardWorker}
    {table query result : String} {matching : Matching}
    (hkind : r.operator.kind = .keywordSource table query columns matching result)
    (hmake : keywordSource r = .ok executor) : terms query ≠ [] ∧ executor =
      .source
        ⟨r.context.catalog, table, some ⟨.keywords query matching, columns, r.output⟩, []⟩ := by
  simp only [keywordSource, hkind] at hmake
  split_ifs at hmake
  · cases hmake
  · obtain ⟨finder, hfinder, hmade⟩ := seq_eq_ok_iff.mp hmake
    cases hmade
    obtain ⟨rfl, hterms⟩ := ofKeywords_eq_ok hfinder
    exact ⟨hterms, rfl⟩

/-- A worker that searches looks for what its kind says, without a bad slice if matches are in
bounds. Its schema has one more attribute than that of its input. -/
lemma exists_matcher {make : StandardFactory} {executor : Executor TableScan StandardWorker}
    (hkind : r.operator.kind.isMatcher = true)
    (hfactory : r.operator.kind.factory? engine = some make)
    (hmake : make r = .ok executor) : ∃ finder columns result,
      r.operator.kind.finder? engine = some (finder, columns) ∧
      (r.operator.kind.SearchesInBounds engine → finder.IsSound) ∧
      executor = .worker (.matcher ⟨finder, columns, r.output⟩) ∧ ∀ tables a,
        r.operator.outputSchema tables [a] =
          Operator.matcherSchema r.operator.id a columns result := by
  obtain ⟨⟨id, kind⟩, inputs, links, output, worker, context⟩ := r
  cases kind with
  | keywordMatcher query columns matching result =>
    cases hfactory
    obtain ⟨finder, hfinder, hmade⟩ := seq_eq_ok_iff.mp hmake
    cases hmade
    obtain ⟨rfl, hterms⟩ := ofKeywords_eq_ok hfinder
    exact ⟨_, columns, result, rfl, fun _ => hterms, rfl, fun tables a => rfl⟩
  | patternMatcher pattern columns result =>
    cases hfactory
    obtain ⟨finder, hfinder, hmade⟩ := seq_eq_ok_iff.mp hmake
    cases hmade
    obtain ⟨search, hsearch, rfl⟩ := ofPattern_eq_ok hfinder
    refine ⟨.pattern pattern search, columns, result, ?_,
      fun hbounds => hbounds pattern search hsearch, rfl, fun tables a => rfl⟩
    rw [OperatorKind.finder?, hsearch, Except.toOption, Option.map_some]
  | fuzzyMatcher query columns threshold result =>
    cases hfactory
    obtain ⟨finder, hfinder, hmade⟩ := seq_eq_ok_iff.mp hmake
    cases hmade
    obtain rfl := ofShare_eq_ok hfinder
    exact ⟨_, columns, result, rfl, fun _ => trivial, rfl, fun tables a => rfl⟩
  | _ => cases hkind

lemma handles_matcher {kind : OperatorKind} {id : OperatorId} {result : String} {output : Schema}
    (hkind : kind.finder? engine = some (finder, columns))
    (hschema : Operator.matcherSchema id a columns result = .ok output) :
    kind.Handles engine a output fun t =>
      return (← Matcher.apply ⟨finder, columns, output⟩ t).toList := by
  obtain ⟨hcolumns, houtput⟩ := Operator.matcherSchema_eq_ok hschema
  intro t ht
  obtain ⟨given, happly, hmap, hall⟩ :=
    Matcher.exists_apply (m := ⟨finder, columns, output⟩) hcolumns houtput ht
  beta_reduce
  rw [happly]
  exact ⟨by rw [OperatorKind.onRow_of_finder? hkind, ← hmap], by simpa using hall⟩

lemma handles_projection {id : OperatorId} {columns : List String} {places : List Nat}
    {output : Schema} (hplaces : List.Forall₂ (fun name place => a.indexOf? name = some place)
      columns places) (hschema : Operator.projectionSchema id a columns = .ok output) :
    (OperatorKind.projection columns).Handles engine a output fun t =>
      return [← StandardWorker.project places output t] := by
  intro t ht
  obtain ⟨x, hx, hx', hfields⟩ :=
    StandardWorker.exists_project hplaces (Operator.projectionSchema_eq_ok hschema) ht
  beta_reduce
  rw [hx]
  exact ⟨by simp [OperatorKind.onRow, hfields], by simpa using hx'⟩

/-- A cast turns the value of its column, or fails on it. -/
lemma handles_cast {id : OperatorId} {column : String} {target : AttributeType} {place : Nat}
    {output : Schema} (hplace : a.indexOf? column = some place)
    (hschema : Operator.castSchema id a column target = .ok output) :
    (OperatorKind.typeCasting column target).Handles engine a output fun t =>
      return [← StandardWorker.castAt column place target output t] := by
  intro t ht
  have hspec := StandardWorker.castAt_spec hplace (Operator.castSchema_eq_ok hschema) ht
  beta_reduce
  match hcast : StandardWorker.castAt column place target output t with
  | .error e =>
    rw [hcast] at hspec
    refine ⟨?_, column, target, rfl, hspec⟩
    rw [OperatorKind.onRow, hspec]
  | .ok x =>
    rw [hcast] at hspec
    obtain ⟨value, hvalue, hx, hfields⟩ := hspec
    refine ⟨?_, by simpa using hx⟩
    rw [OperatorKind.onRow, hvalue]
    simp [hfields]

lemma placeOf_eq_ok {name : String} {place : Nat} (h : placeOf r a name = .ok place) :
    a.indexOf? name = some place := by
  rw [placeOf] at h
  split at h
  · next found hfound =>
    cases h
    exact hfound
  · cases h

lemma input_eq_ok {s : Schema} (hinputs : r.inputs = [a]) (h : r.input 0 = .ok s) : s = a := by
  rw [Request.input, hinputs] at h
  cases h
  rfl

/-- What a request asks for if its operator looks at tuples one by one. -/
theorem exists_handles {make : StandardFactory} {w : StandardWorker}
    (hfactory : r.operator.kind.factory? engine = some make) (hmake : make r = .ok (.worker w))
    (hinputs : r.inputs = [a]) (hschema : r.operator.outputSchema tables [a] = .ok r.output)
    (hkind : r.operator.kind.isRowWise = true) :
    ∃ f, w.Applies f ∧ r.operator.kind.Handles engine a r.output f := by
  obtain ⟨⟨id, kind⟩, inputs, links, output, worker, context⟩ := r
  match kind with
  | .keywordMatcher .. | .patternMatcher .. | .fuzzyMatcher .. =>
    obtain ⟨finder, columns, result, hfinder, -, hmade, houtput⟩ :=
      exists_matcher rfl hfactory hmake
    cases hmade
    rw [houtput] at hschema
    exact ⟨_, ⟨fun _ _ _ => rfl, fun _ _ => rfl, rfl⟩, handles_matcher hfinder hschema⟩
  | .projection columns =>
    cases hfactory
    obtain ⟨input, hinput, hmade⟩ := seq_eq_ok_iff.mp hmake
    obtain ⟨places, hplaces, hmade⟩ := seq_eq_ok_iff.mp hmade
    cases hmade
    obtain rfl := input_eq_ok hinputs hinput
    exact ⟨_, ⟨fun _ _ _ => rfl, fun _ _ => rfl, rfl⟩,
      handles_projection ((mapM_eq_ok_iff.mp hplaces).imp fun _ _ => placeOf_eq_ok) hschema⟩
  | .typeCasting column target =>
    cases hfactory
    obtain ⟨input, hinput, hmade⟩ := seq_eq_ok_iff.mp hmake
    obtain ⟨place, hplace, hmade⟩ := seq_eq_ok_iff.mp hmade
    cases hmade
    obtain rfl := input_eq_ok hinputs hinput
    exact ⟨_, ⟨fun _ _ _ => rfl, fun _ _ => rfl, rfl⟩,
      handles_cast (placeOf_eq_ok hplace) hschema⟩
  | .tupleSink =>
    cases hfactory
    cases hmake
    cases hschema
    refine ⟨_, ⟨fun _ _ _ => rfl, fun _ _ => rfl, rfl⟩, fun t ht => ⟨rfl, by simpa using ht⟩⟩

end StandardFactory

namespace TableScan

variable {s s' : TableScan} {out : Stream}

lemma yields_congr (h : Source.Yields s' out) (heq : Source.next s = Source.next s') :
    Source.Yields s out := by
  cases h with
  | give hnext hrest => exact .give (heq.trans hnext) hrest
  | finish hnext hagain => exact .finish (heq.trans hnext) hagain
  | fail hnext => exact .fail (heq.trans hnext)

lemma start_eq {catalog : Catalog} {table : String} {rows : List Tuple}
    (h : catalog.scan table = .ok rows) (m : Option Matcher) (rest : List Tuple) :
    Source.start (⟨catalog, table, m, rest⟩ : TableScan) =
      (.ok (), ⟨catalog, table, m, rows⟩) := by
  simp [Source.start, start, h]

lemma yields_rows (catalog : Catalog) (table : String) (rows : List Tuple) :
    Source.Yields (⟨catalog, table, none, rows⟩ : TableScan) ⟨rows, none⟩ := by
  induction rows with
  | nil => exact .finish rfl rfl
  | cons row rows ih => exact .give rfl ih

lemma yields_filterMap (catalog : Catalog) (table : String) {m : Matcher} {f : Tuple → Option Tuple}
    {rows : List Tuple} (h : ∀ row ∈ rows, m.apply row = .ok (f row)) :
    Source.Yields (⟨catalog, table, some m, rows⟩ : TableScan) ⟨rows.filterMap f, none⟩ := by
  induction rows with
  | nil => exact .finish rfl rfl
  | cons row rows ih =>
    obtain ⟨hrow, hrest⟩ := List.forall_mem_cons.mp h
    match hf : f row with
    | none =>
      rw [List.filterMap_cons_none hf]
      rw [hf] at hrow
      refine yields_congr (ih hrest) ?_
      simp [Source.next, next, firstMatch, hrow]
    | some x =>
      rw [List.filterMap_cons_some hf]
      rw [hf] at hrow
      have hnext : Source.next (⟨catalog, table, some m, row :: rows⟩ : TableScan) =
          (.ok (some x), ⟨catalog, table, some m, rows⟩) := by
        simp [Source.next, next, firstMatch, hrow]
      exact .give hnext (ih hrest)

/-- A scan with a matcher gives the rows that it keeps. -/
lemma exists_yields_matches (catalog : Catalog) (table : String) {m : Matcher} {a : Schema}
    {id : OperatorId} {result : String}
    (hschema : Operator.matcherSchema id a m.columns result = .ok m.schema) {rows : List Tuple}
    (hrows : ∀ row ∈ rows, row.schema = a) : ∃ tuples,
      Source.Yields (⟨catalog, table, some m, rows⟩ : TableScan) ⟨tuples, none⟩ ∧
      tuples.map Tuple.fields =
        (rows.map Tuple.fields).flatMap (m.finder.keep m.columns a) ∧
      ∀ x ∈ tuples, x.schema = m.schema := by
  obtain ⟨hcolumns, houtput⟩ := Operator.matcherSchema_eq_ok hschema
  let kept (row : Tuple) : Option Tuple := (m.apply row).toOption.join
  have happly (row : Tuple) (hrow : row ∈ rows) : m.apply row = .ok (kept row) ∧
      (kept row).toList.map Tuple.fields = m.finder.keep m.columns a row.fields ∧
      ∀ x ∈ kept row, x.schema = m.schema := by
    obtain ⟨given, hgiven, hmap, hall⟩ := m.exists_apply hcolumns houtput (hrows row hrow)
    have hkept : kept row = given := by
      change (m.apply row).toOption.join = given
      rw [hgiven]
      rfl
    rw [hkept]
    exact ⟨hgiven, hmap, hall⟩
  refine ⟨rows.filterMap kept, yields_filterMap _ _ fun row hrow => (happly row hrow).1, ?_,
    fun x hx => ?_⟩
  · rw [List.filterMap_eq_flatMap_toList, List.map_flatMap, List.flatMap_map]
    exact List.flatMap_congr fun row hrow => (happly row hrow).2.1
  · obtain ⟨row, hrow, hx⟩ := List.mem_filterMap.mp hx
    exact (happly row hrow).2.2 x hx

end TableScan

namespace StandardFactory

variable {r : Request}

lemma exists_table {catalog : Catalog} {name : String} {s : Schema}
    (h : catalog.schemas name = .ok s) :
    ∃ table, catalog.table name = .ok table ∧ table.schema = s ∧
      catalog.scan name = .ok table.rows := by
  obtain ⟨table, htable, hs⟩ := seq_eq_ok_iff.mp h
  cases hs
  exact ⟨table, htable, rfl, seq_eq_ok_iff.mpr ⟨table, htable, rfl⟩⟩

/-- What a request gives if its operator has no inputs. -/
theorem exists_yields {make : StandardFactory} {s : TableScan}
    (hfactory : r.operator.kind.factory? engine = some make) (hmake : make r = .ok (.source s))
    (hschema : r.operator.outputSchema r.context.catalog.schemas [] = .ok r.output) :
    (Source.start s).1 = .ok () ∧ ∃ tuples, Source.Yields (Source.start s).2 ⟨tuples, none⟩ ∧
      r.operator.kind.rows engine r.context.catalog [] = some (tuples.map Tuple.fields) ∧
      ∀ x ∈ tuples, x.schema = r.output := by
  obtain ⟨⟨id, kind⟩, inputs, links, output, worker, ⟨config, catalog⟩⟩ := r
  match kind with
  | .scanSource name =>
    cases hfactory
    cases hmake
    obtain ⟨table, htable, rfl, hscan⟩ := exists_table hschema
    rw [TableScan.start_eq hscan]
    exact ⟨rfl, table.rows, TableScan.yields_rows .., by simp [OperatorKind.rows, htable],
      table.bound⟩
  | .keywordSource name query columns matching result =>
    cases hfactory
    obtain ⟨a, ha, hschema⟩ := seq_eq_ok_iff.mp hschema
    obtain ⟨table, htable, rfl, hscan⟩ := exists_table ha
    obtain ⟨-, hmade⟩ := keywordSource_eq_ok rfl hmake
    cases hmade
    let m : Matcher := ⟨.keywords query matching, columns, output⟩
    obtain ⟨tuples, hyields, hmap, hall⟩ :=
      TableScan.exists_yields_matches catalog name (m := m) hschema table.bound
    rw [TableScan.start_eq hscan]
    refine ⟨rfl, tuples, hyields, ?_, hall⟩
    simp only [OperatorKind.rows, htable, hmap]
    rfl
  | .keywordMatcher .. | .patternMatcher .. | .fuzzyMatcher .. | .projection _ | .typeCasting ..
  | .tupleSink | .entityMatcher .. | .userFunction _ | .join .. | .wordCountPartial _
  | .wordCloud _ => cases hschema

end StandardFactory

end Dataflow
