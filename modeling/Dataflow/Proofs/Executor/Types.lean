import Dataflow.Proofs.Executor.Counting
import Dataflow.Proofs.Executor.Crews
import Dataflow.Proofs.Executor.Join
import Dataflow.Proofs.Tree.Contract

/-!
# Standard executors keep to their schemas

An executor that was made for the schemas of its inputs gives tuples of the schema that was inferred
from them, in whatever order it is called. It fails only for a tuple that its operator refuses: a
cast refuses a value without a counterpart, and a word cloud a tuple without a word or a count.
-/

namespace Dataflow

variable {engine : PatternEngine}

/-- An input that a request announces: it comes from one of the links, with the schema of that
link. -/
def Request.Accepts (r : Request) : Input → Prop
  | .tuple t link => (link, t.schema) ∈ r.links.zip r.inputs
  | .exhausted link => link ∈ r.links

namespace OperatorKind

/-- The tuples that an operator refuses, each with the failure. -/
inductive Refuses : OperatorKind → Tuple → Error → Prop
  /-- A cast refuses a value that is there but has no counterpart. -/
  | cast {column : String} {target : AttributeType} {t : Tuple}
      (hvalue : t.schema.value t.fields column ≠ .null)
      (hconvert : (t.schema.value t.fields column).convert? target = none) :
      Refuses (.typeCasting column target) t
        (.fieldType column target.name (t.schema.value t.fields column).display)
  | word {limit : Nat} {t : Tuple} (hvalue : t.schema.value t.fields wordName = .null) :
      Refuses (.wordCloud limit) t (.fieldType wordName "STRING or TEXT" "NULL")
  | count {limit : Nat} {t : Tuple} (hvalue : t.schema.value t.fields countName = .null) :
      Refuses (.wordCloud limit) t (.fieldType countName "INTEGER" "NULL")

/-- The failures of the executors of an operator. -/
def Fails (kind : OperatorKind) (event : Event) (e : Error) : Prop :=
  ∃ t link, event = .process (.tuple t link) ∧ kind.Refuses t e

variable {kind : OperatorKind} {t : Tuple} {e : Error}

lemma Refuses.exists_fieldType (h : kind.Refuses t e) :
    ∃ name expected actual, e = .fieldType name expected actual := by
  cases h <;> exact ⟨_, _, _, rfl⟩

lemma refuses_of_cast {column : String} {target : AttributeType}
    (h : (t.schema.value t.fields column).cast column target = .error e) :
    (typeCasting column target).Refuses t e := by
  rw [Field.cast] at h
  split_ifs at h with hnull
  split at h
  · cases h
  · next hconvert =>
    cases h
    exact .cast hnull hconvert

end OperatorKind

namespace StandardWorker

variable {kind : OperatorKind} {a output : Schema} {accepts : Input → Prop}

/-- A worker that looks at tuples one by one keeps to its schemas. -/
lemma Applies.meets {w : StandardWorker} {f : Tuple → Result (List Tuple)} (h : w.Applies f)
    (hf : kind.Handles engine a output f)
    (haccepts : ∀ t link, accepts (.tuple t link) → t.schema = a) :
    Worker.Meets accepts (·.schema = output) kind.Fails w := by
  refine ⟨(· = w), rfl, ?_⟩
  rintro _ rfl
  refine ⟨⟨rfl, trivial⟩, fun now input hinput => ?_, ?_⟩
  · cases input with
    | exhausted link =>
      rw [h.exhausted now link]
      exact ⟨rfl, List.forall_mem_nil _⟩
    | tuple t link =>
      have hschema := haccepts t link hinput
      have hgiven := hf t hschema
      rw [h.tuple now t link]
      refine ⟨rfl, ?_⟩
      cases hresult : f t with
      | ok given =>
        rw [hresult] at hgiven
        exact hgiven.2
      | error e =>
        rw [hresult] at hgiven
        obtain ⟨-, column, target, rfl, hcast⟩ := hgiven
        subst hschema
        exact ⟨t, link, rfl, OperatorKind.refuses_of_cast hcast⟩
  · rw [h.stop]
    exact ⟨rfl, trivial⟩

lemma meets_join {s : Joining} {j : Join} (h : j.Holds s output) (hne : s.innerLink ≠ s.outerLink)
    (haccepts : ∀ input, accepts input → s.Expects [] input) :
    Worker.Meets accepts (·.schema = output) kind.Fails (join j) := by
  refine ⟨fun w => ∃ j : Join, w = join j ∧ j.Holds s output, ⟨j, rfl, h⟩, ?_⟩
  rintro _ ⟨j, rfl, hj⟩
  refine ⟨⟨⟨j, rfl, hj⟩, trivial⟩, fun now input hinput => ?_, ⟨_, rfl, ?_⟩, trivial⟩
  · obtain ⟨given, j', hprocess, hj', hall⟩ := hj.exists_process hne now (haccepts input hinput)
    have hwrapped : Worker.process now input (join j) = (.ok given, join j') :=
      congrArg (Prod.map id join) hprocess
    rw [hwrapped]
    exact ⟨⟨j', rfl, hj'⟩, hall⟩
  · exact ⟨hj.innerLink_eq, hj.outerLink_eq, hj.realizes, nofun, nofun⟩

/-- Words and counts that are given out have the schema of words with their counts. -/
lemma meets_flush {c : WordCount} {refuses : Error → Prop} (hc : c.schema = wordCountSchema) :
    c.flush.1.Meets (fun given => ∀ x ∈ given, x.schema = wordCountSchema) refuses ∧
      c.flush.2.column = c.column ∧ c.flush.2.schema = wordCountSchema := by
  rw [WordCount.flush_eq hc]
  refine ⟨fun x hx => ?_, rfl, hc⟩
  obtain ⟨entry, -, rfl⟩ := List.mem_map.mp hx
  rfl

/-- A counter of words keeps to its schemas. -/
lemma meets_count {w : WordCount} {own : Attribute} (hschema : w.schema = wordCountSchema)
    (hown : a.attribute? w.column = some own) (htype : own.type.isTextual = true)
    (haccepts : ∀ t link, accepts (.tuple t link) → t.schema = a) :
    Worker.Meets accepts (·.schema = wordCountSchema) kind.Fails (count w) := by
  let I (c : WordCount) : Prop := c.column = w.column ∧ c.schema = wordCountSchema
  refine ⟨fun v => ∃ c, v = count c ∧ I c, ⟨w, rfl, rfl, hschema⟩, ?_⟩
  rintro _ ⟨c, rfl, hc⟩
  refine ⟨⟨⟨c, rfl, hc⟩, trivial⟩, fun now input hinput => ?_, ⟨c, rfl, hc⟩, trivial⟩
  suffices h : I (WordCount.process now input c).2 ∧ (WordCount.process now input c).1.Meets
      (fun given => ∀ x ∈ given, x.schema = wordCountSchema) (kind.Fails (.process input)) from
    ⟨⟨_, rfl, h.1⟩, h.2⟩
  cases input with
  | exhausted link =>
    obtain ⟨hgiven, hcolumn, hschema⟩ := meets_flush hc.2
    exact ⟨⟨hcolumn.trans hc.1, hschema⟩, hgiven⟩
  | tuple t link =>
    have hcount := WordCount.count_eq (w := c) (t := t)
      (by rw [haccepts t link hinput, hc.1, hown]) htype
    rw [WordCount.process, hcount]
    dsimp only
    split_ifs
    · obtain ⟨hgiven, hcolumn, hschema⟩ := meets_flush (c := { c with
        counts := c.counts.addAll (t.schema.value t.fields c.column).words, taken := c.taken + 1 })
        hc.2
      exact ⟨⟨hcolumn.trans hc.1, hschema⟩, hgiven⟩
    · exact ⟨hc, List.forall_mem_nil _⟩

lemma meets_give {c : WordCloud} {refuses : Error → Prop}
    (hc : ∃ shown : Tally, c.tracker.previous = shown.map Tally.tuple) (wanted : Bool) (now : Nat) :
    let made := c.give (c.tracker.updateIf wanted now fun _ => WordCloud.snapshot c.counts c.limit)
    (∃ shown : Tally, made.2.tracker.previous = shown.map Tally.tuple) ∧
      made.1.Meets (fun given => ∀ x ∈ given, x.schema = wordCloudSchema) refuses := by
  obtain ⟨shown, hshown⟩ := hc
  rw [WordCloud.give_updateIf hshown]
  cases wanted with
  | false => exact ⟨⟨shown, hshown⟩, List.forall_mem_nil _⟩
  | true => exact ⟨⟨c.counts.entries.top c.limit, rfl⟩, fun x => Tally.schema_of_mem_changes⟩

/-- A word cloud keeps to its schemas. -/
lemma meets_cloud {c : WordCloud} {limit : Nat} {word n : Attribute}
    (hprevious : c.tracker.previous = [])
    (hword : a.attribute? wordName = some word) (hstring : word.type = .string)
    (hn : a.attribute? countName = some n) (hinteger : n.type = .integer)
    (haccepts : ∀ t link, accepts (.tuple t link) → t.schema = a) :
    Worker.Meets accepts (·.schema = wordCloudSchema) (OperatorKind.wordCloud limit).Fails
      (cloud c) := by
  let I (c : WordCloud) : Prop := ∃ shown : Tally, c.tracker.previous = shown.map Tally.tuple
  refine ⟨fun w => ∃ c, w = cloud c ∧ I c, ⟨c, rfl, [], hprevious⟩, ?_⟩
  rintro _ ⟨c, rfl, hc⟩
  refine ⟨⟨⟨c, rfl, hc⟩, trivial⟩, fun now input hinput => ?_, ⟨_, rfl, hc⟩, trivial⟩
  suffices h : I (WordCloud.process now input c).2 ∧ (WordCloud.process now input c).1.Meets
      (fun given => ∀ x ∈ given, x.schema = wordCloudSchema)
      ((OperatorKind.wordCloud limit).Fails (.process input)) from ⟨⟨_, rfl, h.1⟩, h.2⟩
  match input with
  | .exhausted link => exact meets_give hc _ now
  | .tuple t link =>
    have hschema := haccepts t link hinput
    have hcount := c.count_spec (t := t) (by rw [hschema, hword]) hstring (by rw [hschema, hn])
      hinteger
    rw [WordCloud.process]
    match hresult : c.count t with
    | .ok c' =>
      rw [hresult] at hcount
      obtain ⟨entry, -, -, rfl⟩ := hcount
      exact meets_give (c := { c with
        counts := c.counts.add entry.1 entry.2, tracker := c.tracker.record }) hc _ now
    | .error e =>
      rw [hresult] at hcount
      refine ⟨hc, t, link, rfl, ?_⟩
      obtain ⟨hnull, rfl⟩ | ⟨hnull, rfl⟩ := hcount
      · exact .word hnull
      · exact .count hnull

end StandardWorker

namespace Operator

variable {id : OperatorId} {input : Schema} {name : String} {type : AttributeType}

lemma requireTyped_eq_ok (h : requireTyped id input name type = .ok ()) :
    ∃ own, input.attribute? name = some own ∧ own.type = type := by
  rw [requireTyped] at h
  split at h
  · cases h
  · next own hown =>
    split_ifs at h with htype
    exact ⟨own, hown, htype⟩

lemma cloudSchema_eq_ok {limit : Nat} {output : Schema}
    (h : unarySchema id input (.wordCloud limit) = .ok output) :
    output = wordCloudSchema ∧ ∃ word n, input.attribute? wordName = some word ∧
      word.type = .string ∧ input.attribute? countName = some n ∧ n.type = .integer := by
  rw [unarySchema] at h
  split_ifs at h
  · cases h
  obtain ⟨_, hwords, h⟩ := seq_eq_ok_iff.mp h
  obtain ⟨_, hcounts, houtput⟩ := seq_eq_ok_iff.mp h
  cases houtput
  obtain ⟨word, hword, hstring⟩ := requireTyped_eq_ok hwords
  obtain ⟨n, hn, hinteger⟩ := requireTyped_eq_ok hcounts
  exact ⟨rfl, word, n, hword, hstring, hn, hinteger⟩

end Operator

namespace StandardFactory

variable {r : Request} {make : StandardFactory}

lemma schema_of_accepts {a : Schema} (hinputs : r.inputs = [a]) {t : Tuple} {link : Link}
    (h : r.Accepts (.tuple t link)) : t.schema = a := by
  have hmem : t.schema ∈ r.inputs := (List.of_mem_zip h).2
  rw [hinputs] at hmem
  exact List.mem_singleton.mp hmem

/-- A join that was made for the schemas of its inputs keeps to its schemas. -/
lemma join_meets {tables : TableSchemas} {innerColumn outerColumn : String} {threshold : Nat}
    (hkind : r.operator.kind = .join innerColumn outerColumn threshold) {w : StandardWorker}
    (hmake : join r = .ok (.worker w)) (hnodup : r.links.Nodup)
    (hlength : r.links.length = r.inputs.length)
    (hschema : r.operator.outputSchema tables r.inputs = .ok r.output) :
    Worker.Meets r.Accepts (·.schema = r.output) r.operator.kind.Fails w := by
  have hinputs := Operator.length_inputs hschema
  rw [hkind] at hinputs
  obtain ⟨a, b, hab⟩ := List.length_eq_two.mp hinputs
  obtain ⟨inner, outer, hlinks⟩ := List.length_eq_two.mp (hlength.trans hinputs)
  have hne : inner ≠ outer := by simpa [hlinks] using hnodup
  obtain ⟨j, hjoin, hj⟩ := exists_join
    (s := ⟨⟨innerColumn, outerColumn, threshold⟩, a, b, inner, outer⟩) hkind hlinks hab hschema
  rw [hjoin] at hmake
  cases hmake
  refine StandardWorker.meets_join hj.holds hne fun input hinput => ?_
  match input with
  | .tuple t link =>
    refine ⟨?_, List.not_mem_nil⟩
    simpa [Request.Accepts, hlinks, hab] using hinput
  | .exhausted link => simpa [Request.Accepts, Joining.Expects, hlinks] using hinput

/-- A worker that was made for the schemas of its inputs keeps to its schemas. -/
theorem worker_meets {tables : TableSchemas} {w : StandardWorker}
    (hfactory : r.operator.kind.factory? engine = some make) (hmake : make r = .ok (.worker w))
    (hnodup : r.links.Nodup) (hlength : r.links.length = r.inputs.length)
    (hschema : r.operator.outputSchema tables r.inputs = .ok r.output) :
    Worker.Meets r.Accepts (·.schema = r.output) r.operator.kind.Fails w := by
  have hinputs := Operator.length_inputs hschema
  by_cases hrows : r.operator.kind.isRowWise = true
  · rw [OperatorKind.inputArity_of_isRowWise hrows] at hinputs
    obtain ⟨a, ha⟩ := List.length_eq_one_iff.mp hinputs
    rw [ha] at hschema
    obtain ⟨f, happlies, hhandles⟩ := exists_handles hfactory hmake ha hschema hrows
    exact happlies.meets hhandles fun t link => schema_of_accepts ha
  obtain ⟨⟨id, kind⟩, inputs, links, output, worker, context⟩ := r
  match kind with
  | .join innerColumn outerColumn threshold =>
    cases hfactory
    exact join_meets rfl hmake hnodup hlength hschema
  | .wordCountPartial column =>
    obtain ⟨a, rfl⟩ := List.length_eq_one_iff.mp hinputs
    obtain ⟨_, htextual, houtput⟩ := seq_eq_ok_iff.mp hschema
    cases houtput
    obtain ⟨own, hown, htype⟩ := (Operator.requireTextual_eq_ok_iff _).mp htextual
    cases hfactory
    cases hmake
    exact StandardWorker.meets_count rfl hown htype fun t link => schema_of_accepts rfl
  | .wordCloud limit =>
    obtain ⟨a, rfl⟩ := List.length_eq_one_iff.mp hinputs
    obtain ⟨houtput, word, n, hword, hstring, hn, hinteger⟩ := Operator.cloudSchema_eq_ok hschema
    cases houtput
    cases hfactory
    cases hmake
    exact StandardWorker.meets_cloud rfl hword hstring hn hinteger fun t link =>
      schema_of_accepts rfl
  | .scanSource _ =>
    cases hfactory
    cases hmake
  | .keywordSource table query columns matching result =>
    cases hfactory
    simp only [keywordSource] at hmake
    split_ifs at hmake
    · cases hmake
    · obtain ⟨_, -, hmade⟩ := seq_eq_ok_iff.mp hmake
      cases hmade
  | .entityMatcher .. | .userFunction _ => cases hfactory
  | .keywordMatcher .. | .patternMatcher .. | .fuzzyMatcher .. | .projection _ | .typeCasting ..
  | .tupleSink => exact (hrows rfl).elim

end StandardFactory

namespace TableScan

lemma meets_rows {catalog : Catalog} {name : String} {table : Table}
    (hscan : catalog.scan name = .ok table.rows) :
    Source.Meets (·.schema = table.schema) (fun _ _ => False)
      (⟨catalog, name, none, []⟩ : TableScan) := by
  refine ⟨fun s => ∃ rest, s = ⟨catalog, name, none, rest⟩ ∧ ∀ x ∈ rest, x.schema = table.schema,
    ⟨[], rfl, List.forall_mem_nil _⟩, ?_⟩
  rintro _ ⟨rest, rfl, hrest⟩
  refine ⟨?_, ⟨⟨rest.tail, rfl, fun x hx => hrest x (List.mem_of_mem_tail hx)⟩,
    fun x hx => hrest x (List.mem_of_mem_head? hx)⟩, ⟨[], rfl, List.forall_mem_nil _⟩, trivial⟩
  rw [start_eq hscan]
  exact ⟨⟨_, rfl, table.bound⟩, trivial⟩

/-- The first row with matches is one of the schema of the matcher. -/
lemma firstMatch_spec {m : Matcher} {a : Schema}
    (hm : ∀ x : Tuple, x.schema = a → ∃ given, m.apply x = .ok given ∧
      ∀ y ∈ given, y.schema = m.schema) {rest : List Tuple} (hrest : ∀ x ∈ rest, x.schema = a) :
    ∃ given rest', firstMatch m rest = (.ok given, rest') ∧ (∀ y ∈ given, y.schema = m.schema) ∧
      ∀ x ∈ rest', x.schema = a := by
  induction rest with
  | nil => exact ⟨none, [], rfl, by simp, List.forall_mem_nil _⟩
  | cons row rest ih =>
    obtain ⟨hrow, hrest⟩ := List.forall_mem_cons.mp hrest
    obtain ⟨given, happly, hgiven⟩ := hm row hrow
    cases given with
    | none =>
      obtain ⟨given, rest', heq, hall⟩ := ih hrest
      exact ⟨given, rest', by rw [firstMatch, happly, heq], hall⟩
    | some y => exact ⟨some y, rest, by rw [firstMatch, happly], hgiven, hrest⟩

/-- A scan with a matcher keeps to the schema of the matcher. -/
lemma meets_matches {catalog : Catalog} {name : String} {table : Table} {m : Matcher}
    (hscan : catalog.scan name = .ok table.rows)
    (hm : ∀ x : Tuple, x.schema = table.schema → ∃ given, m.apply x = .ok given ∧
      ∀ y ∈ given, y.schema = m.schema) :
    Source.Meets (·.schema = m.schema) (fun _ _ => False)
      (⟨catalog, name, some m, []⟩ : TableScan) := by
  refine ⟨fun s => ∃ rest, s = ⟨catalog, name, some m, rest⟩ ∧ ∀ x ∈ rest, x.schema = table.schema,
    ⟨[], rfl, List.forall_mem_nil _⟩, ?_⟩
  rintro _ ⟨rest, rfl, hrest⟩
  refine ⟨?_, ?_, ⟨[], rfl, List.forall_mem_nil _⟩, trivial⟩
  · rw [start_eq hscan]
    exact ⟨⟨_, rfl, table.bound⟩, trivial⟩
  · obtain ⟨given, rest', hfirst, hgiven, hrest'⟩ := firstMatch_spec hm hrest
    have hnext : Source.next (⟨catalog, name, some m, rest⟩ : TableScan) =
        (.ok given, ⟨catalog, name, some m, rest'⟩) := by
      simp [Source.next, next, hfirst]
    rw [hnext]
    exact ⟨⟨rest', rfl, hrest'⟩, hgiven⟩

end TableScan

namespace StandardFactory

variable {r : Request} {make : StandardFactory}

/-- A source that was made for the tables of its schema keeps to its schema and never fails. -/
theorem source_meets {s : TableScan} (hfactory : r.operator.kind.factory? engine = some make)
    (hmake : make r = .ok (.source s))
    (hschema : r.operator.outputSchema r.context.catalog.schemas [] = .ok r.output) :
    Source.Meets (·.schema = r.output) (fun _ _ => False) s := by
  obtain ⟨⟨id, kind⟩, inputs, links, output, worker, ⟨config, catalog⟩⟩ := r
  match kind with
  | .scanSource name =>
    cases hfactory
    cases hmake
    obtain ⟨table, -, rfl, hscan⟩ := exists_table hschema
    exact TableScan.meets_rows hscan
  | .keywordSource name query columns matching result =>
    cases hfactory
    obtain ⟨a, ha, hschema⟩ := seq_eq_ok_iff.mp hschema
    obtain ⟨table, -, rfl, hscan⟩ := exists_table ha
    obtain ⟨hcolumns, houtput⟩ := Operator.matcherSchema_eq_ok hschema
    obtain ⟨-, hmade⟩ := keywordSource_eq_ok rfl hmake
    cases hmade
    let m : Matcher := ⟨.keywords query matching, columns, output⟩
    refine TableScan.meets_matches (m := m) hscan fun x hx => ?_
    obtain ⟨given, hgiven, -, hall⟩ := Matcher.exists_apply (m := m) hcolumns houtput hx
    exact ⟨given, hgiven, hall⟩
  | .keywordMatcher .. | .patternMatcher .. | .fuzzyMatcher .. | .projection _ | .typeCasting ..
  | .tupleSink | .entityMatcher .. | .userFunction _ | .join .. | .wordCountPartial _
  | .wordCloud _ => cases hschema

end StandardFactory

end Dataflow
