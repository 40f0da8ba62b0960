import Dataflow.Proofs.Executor.Crews
import Dataflow.Proofs.Matching.Keywords

/-!
# Spans stand in their texts

Every span that is found in the text of an attribute is a part of it that is not empty. An operator
that searches gives a tuple exactly if something is found in one of its attributes, and adds all
that is found as a list.
-/

namespace Dataflow

variable {engine : PatternEngine}

/-- A span is a part of a text that is not empty, between two places of it. -/
structure Span.IsPart (s : Span) (text : String) : Prop where
  lt : s.start < s.stop
  le : s.stop ≤ text.utf8ByteSize
  start_isValid : (⟨s.start⟩ : String.Pos.Raw).IsValid text
  stop_isValid : (⟨s.stop⟩ : String.Pos.Raw).IsValid text
  slice? : slice? text s.start s.stop = some s.value

/-- A span names one of some attributes and is a part of the text that a tuple has there. -/
structure Span.StandsIn (s : Span) (t : Tuple) (columns : List String) : Prop where
  column_mem : s.column ∈ columns
  exists_text : ∃ text, t.getText? s.column = .ok (some text) ∧ s.IsPart text

lemma Span.isPart_ofText {column text key : String} {start stop : Nat}
    (h : start < stop ∧ ∃ part, Dataflow.slice? text start stop = some part) :
    (Span.ofText column text key start stop).IsPart text := by
  obtain ⟨hlt, part, hpart⟩ := h
  obtain ⟨-, hstart, hstop⟩ := exists_slice?_iff.mp ⟨part, hpart⟩
  exact ⟨hlt, le_utf8ByteSize hstop, hstart, hstop, by rw [ofText, textBetween_eq hpart, hpart]⟩

namespace Finder

variable {column text query : String}

lemma isPart_toSpan {t : Token} (h : t ∈ tokens text) : (t.toSpan column text).IsPart text :=
  Span.isPart_ofText (exists_slice?_of_mem_tokens h)

/-- What a sound finder finds in an attribute are parts of its text. -/
theorem isPart_of_mem_find {finder : Finder} (h : finder.IsSound) {s : Span}
    (hs : s ∈ finder.find column text) : s.column = column ∧ s.IsPart text := by
  match finder with
  | .keywords query .conjunction =>
    rw [find, findAllTerms_eq] at hs
    split_ifs at hs
    · obtain ⟨t, ht, rfl⟩ := List.mem_map.mp hs
      exact ⟨rfl, isPart_toSpan (List.mem_of_mem_filter ht)⟩
    · cases hs
  | .keywords query .phrase =>
    obtain ⟨i, -, first, last, hfirst, hlast, rfl⟩ :=
      exists_of_forall₂_right (forall₂_findPhrase h (tokens text)) hs
    refine ⟨rfl, Span.isPart_ofText ?_⟩
    exact exists_slice?_run (fun t => exists_slice?_of_mem_tokens) (pairwise_tokens text)
      (Nat.le_add_right ..) hfirst hlast
  | .keywords query .substring =>
    have hquery := ne_empty_of_terms h
    have hpos := utf8ByteSize_pos hquery
    obtain ⟨places, hsearches, hplaces⟩ := exists_searches_findSubstring hquery column text
    rw [find, hplaces] at hs
    obtain ⟨place, hplace, rfl⟩ := List.mem_map.mp hs
    obtain ⟨part, hpart, -⟩ := (hsearches.leftmost hquery).occurs place hplace
    exact ⟨rfl, Span.isPart_ofText ⟨Nat.lt_add_of_pos_right hpos, part, hpart⟩⟩
  | .pattern key search =>
    obtain ⟨hs, hne⟩ := List.mem_filter.mp hs
    obtain ⟨m, hm, rfl⟩ := List.mem_map.mp hs
    obtain ⟨part, hpart⟩ := h text m hm
    refine ⟨rfl, Span.isPart_ofText ⟨lt_of_slice? hpart ?_, part, hpart⟩⟩
    rintro rfl
    simp [Span.ofText, textBetween_eq hpart] at hne
  | .fuzzy terms threshold =>
    rw [find, findShare] at hs
    split_ifs at hs
    · cases hs
    · obtain ⟨t, ht, rfl⟩ := List.mem_map.mp hs
      exact ⟨rfl, isPart_toSpan (List.mem_of_mem_filter ht)⟩

/-- What is found in several attributes of a tuple stands there. -/
lemma standsIn_of_findIn {finder : Finder} (h : finder.IsSound) {t : Tuple}
    {columns : List String} {spans : List Span} (hfind : finder.findIn t columns = .ok spans) :
    ∀ s ∈ spans, s.StandsIn t columns := by
  obtain ⟨found, hfound, hspans⟩ := seq_eq_ok_iff.mp hfind
  cases hspans
  intro s hs
  obtain ⟨part, hpart, hs⟩ := List.mem_flatten.mp hs
  obtain ⟨column, hcolumn, hread⟩ := exists_of_forall₂_right (mapM_eq_ok_iff.mp hfound) hpart
  obtain ⟨text?, htext, hread⟩ := seq_eq_ok_iff.mp hread
  cases text? with
  | none =>
    cases hread
    cases hs
  | some text =>
    cases hread
    obtain ⟨rfl, hstands⟩ := isPart_of_mem_find h hs
    exact ⟨hcolumn, text, htext, hstands⟩

/-- What a search in some attributes makes of a tuple: it is dropped if nothing is found, and else
it is kept, with all that is found in one more field. -/
def Keeps (finder : Finder) (columns : List String) (output : Schema) (t : Tuple)
    (kept : Option Tuple) : Prop :=
  ∃ spans, finder.findIn t columns = .ok spans ∧ (∀ s ∈ spans, s.StandsIn t columns) ∧
    match kept with
    | none => spans = []
    | some x => spans ≠ [] ∧ x.schema = output ∧ x.fields = t.fields ++ [.list spans]

end Finder

lemma Matcher.keeps_of_apply {m : Matcher} (h : m.finder.IsSound) {t : Tuple}
    {kept : Option Tuple} (happly : m.apply t = .ok kept) :
    m.finder.Keeps m.columns m.schema t kept := by
  obtain ⟨spans, hspans, happly⟩ := seq_eq_ok_iff.mp happly
  refine ⟨spans, hspans, Finder.standsIn_of_findIn h hspans, ?_⟩
  cases spans with
  | nil =>
    cases happly
    rfl
  | cons s spans =>
    obtain ⟨x, hx, hkept⟩ := seq_eq_ok_iff.mp happly
    cases hkept
    exact ⟨List.cons_ne_nil s spans, Tuple.bind_eq_ok_iff.mp hx⟩

lemma Matcher.exists_apply_eq {m : Matcher} {id : OperatorId} {a : Schema} {result : String}
    (hschema : Operator.matcherSchema id a m.columns result = .ok m.schema) {t : Tuple}
    (ht : t.schema = a) : ∃ kept, m.apply t = .ok kept := by
  obtain ⟨hcolumns, hattributes⟩ := Operator.matcherSchema_eq_ok hschema
  obtain ⟨kept, hkept, -⟩ := m.exists_apply hcolumns hattributes ht
  exact ⟨kept, hkept⟩

/-- A scan passes over the rows that its matcher drops, up to the first one that it keeps. -/
lemma TableScan.exists_skipped {m : Matcher} {rows rest : List Tuple} {given : Option Tuple}
    (h : firstMatch m rows = (.ok given, rest)) :
    ∃ skipped, (∀ t ∈ skipped, m.apply t = .ok none) ∧ match given with
      | none => rows = skipped ∧ rest = []
      | some x => ∃ t, rows = skipped ++ t :: rest ∧ m.apply t = .ok (some x) := by
  induction rows with
  | nil =>
    cases h
    exact ⟨[], List.forall_mem_nil _, rfl, rfl⟩
  | cons row rows ih =>
    rw [firstMatch] at h
    rcases happly : m.apply row with e | _ | x
    · rw [happly] at h
      cases h
    · rw [happly] at h
      obtain ⟨skipped, hskipped, hgiven⟩ := ih h
      refine ⟨row :: skipped, List.forall_mem_cons.mpr ⟨happly, hskipped⟩, ?_⟩
      cases given with
      | none => exact ⟨by rw [hgiven.1], hgiven.2⟩
      | some x =>
        obtain ⟨t, rfl, ht⟩ := hgiven
        exact ⟨t, rfl, ht⟩
    · rw [happly] at h
      cases h
      exact ⟨[], List.forall_mem_nil _, row, rfl, happly⟩

/-- A scan with a matcher keeps of its table what the matcher keeps. -/
lemma TableScan.exists_yields_keeps {catalog : Catalog} {name result : String} {m : Matcher}
    {id : OperatorId} {a : Schema} (ha : catalog.schemas name = .ok a)
    (h : m.finder.IsSound)
    (hschema : Operator.matcherSchema id a m.columns result = .ok m.schema) :
    ∃ table kept, catalog.table name = .ok table ∧
      List.Forall₂ (m.finder.Keeps m.columns m.schema) table.rows kept ∧
      (Source.start (⟨catalog, name, some m, []⟩ : TableScan)).1 = .ok () ∧
      Source.Yields (Source.start (⟨catalog, name, some m, []⟩ : TableScan)).2
        ⟨kept.reduceOption, none⟩ := by
  obtain ⟨table, htable, rfl, hscan⟩ := StandardFactory.exists_table ha
  have happly (t : Tuple) (ht : t ∈ table.rows) : m.apply t = .ok (m.apply t).toOption.join := by
    obtain ⟨kept, hkept⟩ := Matcher.exists_apply_eq hschema (table.bound t ht)
    rw [hkept]
    rfl
  refine ⟨table, table.rows.map fun t => (m.apply t).toOption.join, htable, ?_, ?_, ?_⟩
  · rw [List.forall₂_map_right_iff, List.forall₂_same]
    exact fun t ht => Matcher.keeps_of_apply h (happly t ht)
  · rw [start_eq hscan]
  · have hkept : (table.rows.map fun t => (m.apply t).toOption.join).reduceOption =
        table.rows.filterMap fun t => (m.apply t).toOption.join := List.filterMap_map
    rw [start_eq hscan, hkept]
    exact yields_filterMap _ _ happly

namespace StandardFactory

variable {r : Request} {make : StandardFactory} {executor : Executor TableScan StandardWorker}
  {finder : Finder} {columns : List String}

/-- An operator that searches runs as a matcher or as a scan with a matcher, and its finder
takes no bad slice if matches are in bounds. Its schema has one more attribute than the one it
searches. -/
lemma exists_search (hkind : r.operator.kind.finder? engine = some (finder, columns))
    (hfactory : r.operator.kind.factory? engine = some make) (hmake : make r = .ok executor) :
    (r.operator.kind.SearchesInBounds engine → finder.IsSound) ∧ ∃ result,
      (executor = .worker (.matcher ⟨finder, columns, r.output⟩) ∧ ∀ tables a,
          r.operator.outputSchema tables [a] =
            Operator.matcherSchema r.operator.id a columns result) ∨
        ∃ table, executor =
            .source ⟨r.context.catalog, table, some ⟨finder, columns, r.output⟩, []⟩ ∧
          ∀ tables, r.operator.outputSchema tables [] =
            (tables table >>= fun a =>
              Operator.matcherSchema r.operator.id a columns result) := by
  by_cases hmatcher : r.operator.kind.isMatcher = true
  · obtain ⟨found, searched, result, hfound, hsound, hmade, houtput⟩ :=
      exists_matcher hmatcher hfactory hmake
    cases hfound.symm.trans hkind
    exact ⟨hsound, result, .inl ⟨hmade, houtput⟩⟩
  · obtain ⟨⟨id, kind⟩, inputs, links, output, worker, context⟩ := r
    cases kind with
    | keywordSource table query columns matching result =>
      cases hkind
      cases hfactory
      obtain ⟨hterms, hmade⟩ := keywordSource_eq_ok rfl hmake
      exact ⟨fun _ => hterms, result, .inr ⟨table, hmade, fun tables => rfl⟩⟩
    | keywordMatcher | patternMatcher | fuzzyMatcher => exact absurd rfl hmatcher
    | _ => cases hkind

/-- What a search gives, whatever it looks for. Of the engine for patterns it is only known that it
reports matches in bounds. Its finder never takes a bad slice, in whatever text.
A worker that searches keeps a tuple exactly if something is found in its attributes and adds all
that is found, of which every span stands in one of the attributes; it does so for every tuple of
its input. A scan that searches passes over the rows in which nothing is found, gives the others in
the same way, and gives all of its table. -/
theorem spans_stand (hkind : r.operator.kind.finder? engine = some (finder, columns))
    (hfactory : r.operator.kind.factory? engine = some make) (hmake : make r = .ok executor)
    (hbounds : r.operator.kind.SearchesInBounds engine) :
    (∀ column text found, finder.findInto? column text found =
      some (found ++ finder.find column text)) ∧
    match executor with
    | .worker w => ∃ f, w.Applies f ∧
      (∀ t given, f t = .ok given →
        ∃ kept, given = kept.toList ∧ finder.Keeps columns r.output t kept) ∧
      ∀ tables a, r.operator.outputSchema tables [a] = .ok r.output → ∀ t : Tuple, t.schema = a →
        ∃ given, f t = .ok given
    | .source s =>
      (∀ rows given s', Source.next { s with rest := rows } = (.ok given, s') →
        ∃ skipped, (∀ t ∈ skipped, finder.Keeps columns r.output t none) ∧ match given with
          | none => rows = skipped ∧ s' = { s with rest := [] }
          | some x => ∃ t rest, rows = skipped ++ t :: rest ∧ s' = { s with rest := rest } ∧
            finder.Keeps columns r.output t (some x)) ∧
      (r.operator.outputSchema r.context.catalog.schemas [] = .ok r.output →
        ∃ table kept, r.context.catalog.table s.table = .ok table ∧
          List.Forall₂ (finder.Keeps columns r.output) table.rows kept ∧
          (Source.start s).1 = .ok () ∧
          Source.Yields (Source.start s).2 ⟨kept.reduceOption, none⟩) := by
  obtain ⟨hsound, hmade⟩ := exists_search hkind hfactory hmake
  have hsound := hsound hbounds
  obtain ⟨result, ⟨rfl, houtput⟩ | ⟨name, rfl, houtput⟩⟩ := hmade
  · refine ⟨finder.findInto?_eq hsound, fun t => return (← Matcher.apply _ t).toList,
      ⟨fun _ _ _ => rfl, fun _ _ => rfl, rfl⟩, fun t given hgiven => ?_, fun tables a ha t ht => ?_⟩
    · obtain ⟨kept, hkept, hgiven⟩ := seq_eq_ok_iff.mp hgiven
      cases hgiven
      exact ⟨kept, rfl, Matcher.keeps_of_apply hsound hkept⟩
    · rw [houtput] at ha
      obtain ⟨kept, hkept⟩ :=
        Matcher.exists_apply_eq (m := ⟨finder, columns, r.output⟩) ha ht
      exact ⟨kept.toList, seq_eq_ok_iff.mpr ⟨kept, hkept, rfl⟩⟩
  · refine ⟨finder.findInto?_eq hsound, fun rows given s' hnext => ?_, fun hschema => ?_⟩
    · obtain ⟨hfirst, rfl⟩ := Prod.mk.inj hnext
      obtain ⟨skipped, hskipped, hgiven⟩ := TableScan.exists_skipped (Prod.ext hfirst rfl)
      refine ⟨skipped, fun t ht => Matcher.keeps_of_apply hsound (hskipped t ht), ?_⟩
      cases given with
      | none => exact ⟨hgiven.1, by rw [← hgiven.2]⟩
      | some x =>
        obtain ⟨t, hrows, ht⟩ := hgiven
        exact ⟨t, _, hrows, rfl, Matcher.keeps_of_apply hsound ht⟩
    · rw [houtput] at hschema
      obtain ⟨a, ha, hschema⟩ := seq_eq_ok_iff.mp hschema
      exact TableScan.exists_yields_keeps (m := ⟨finder, columns, r.output⟩) ha hsound hschema

end StandardFactory

/-- An engine for patterns of letters and digits, which stand for themselves. -/
def PatternEngine.literals : PatternEngine where
  compile pattern :=
    if pattern.toList ≠ [] ∧ pattern.toList.all Char.isAlphanum then
      .ok fun text => occurrences pattern.toList text.toList
    else .error "not a literal"

lemma PatternEngine.literals_inBounds : literals.InBounds := by
  intro pattern search hcompile text m hm
  simp only [literals] at hcompile
  split_ifs at hcompile with hpattern
  cases hcompile
  obtain ⟨places, hsearches, hplaces⟩ := exists_searches_occurrences hpattern.1 text.toList
  beta_reduce at hm
  rw [hplaces] at hm
  obtain ⟨place, hplace, rfl⟩ := List.mem_map.mp hm
  obtain ⟨before, after, htext, rfl⟩ := hsearches.occursAt place hplace
  rw [Nat.zero_add]
  exact ⟨_, slice?_eq_of_toList htext⟩

namespace StandardFactory

/-- A search for a pattern. -/
def vitalRequest : Request where
  operator := ⟨"find", .patternMatcher "vital" ["body"] "hits"⟩
  inputs := [⟨[⟨"body", .text⟩], by decide⟩]
  links := [⟨"scan", "find"⟩]
  output := ⟨[⟨"body", .text⟩, ⟨"hits", .list⟩], by decide⟩
  worker := 0
  context := ⟨{}, ⟨[]⟩⟩

/-- A text in which quotes and a letter with an accent stand before what is found. -/
def accentedText : Tuple :=
  ⟨⟨[⟨"body", .text⟩], by decide⟩, [.text "«Élan» vital"], by decide⟩

/-- The span is counted in bytes, of which the quotes and the accented letter have two. -/
theorem accented_spans_stand : ∃ w x,
    patternMatcher .literals vitalRequest = .ok (.worker w) ∧
    (∀ now link, Worker.process now (.tuple accentedText link) w = (.ok [x], w)) ∧
    x.fields = [.text "«Élan» vital", .list [⟨"body", 10, 15, "vital", "vital"⟩]] := by
  obtain ⟨m, hmake⟩ : ∃ m, patternMatcher .literals vitalRequest = .ok (.worker (.matcher m)) :=
    ⟨_, rfl⟩
  obtain ⟨-, f, happlies, hkeeps, htotal⟩ :=
    spans_stand (r := vitalRequest) rfl rfl hmake PatternEngine.literals_inBounds
  obtain ⟨given, hgiven⟩ := htotal (fun _ => .ok .empty) _ rfl accentedText rfl
  obtain ⟨kept, rfl, spans, hspans, -, hkept⟩ := hkeeps _ _ hgiven
  have hfind : Finder.findIn
      (.pattern "vital" fun text => occurrences "vital".toList text.toList) accentedText ["body"] =
        .ok [⟨"body", 10, 15, "vital", "vital"⟩] := by
    decide +kernel
  obtain rfl := Except.ok.inj (hfind.symm.trans hspans)
  cases kept with
  | none => cases hkept
  | some x =>
    exact ⟨_, x, hmake, fun now link => by rw [happlies.tuple, hgiven]; rfl, hkept.2.2⟩

end StandardFactory

end Dataflow
