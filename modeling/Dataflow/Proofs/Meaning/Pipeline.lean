import Dataflow.Pattern.Search
import Dataflow.Proofs.Counting.Batches
import Dataflow.Proofs.Counting.Cloud
import Dataflow.Proofs.Meaning.Runs
import Dataflow.Proofs.Tree.Chain

/-!
# Pipelines that show the most frequent words

A scan of a table, counters of the words of a column, a word cloud and a sink. Whatever the number
of counters, the size of their batches and the times that the clock shows, a run gives changes that
lead to the most frequent words of the column, each with the number of its occurrences.
-/

namespace Dataflow

variable {engine : PatternEngine}

/-- Operators that show the most frequent words of a column of a table. -/
structure WordPipeline where
  scan : OperatorId
  count : OperatorId
  cloud : OperatorId
  sink : OperatorId
  table : String
  column : String
  limit : Nat

namespace WordPipeline

/-- The operators. -/
def operators (w : WordPipeline) : List Operator :=
  [⟨w.scan, .scanSource w.table⟩, ⟨w.count, .wordCountPartial w.column⟩,
    ⟨w.cloud, .wordCloud w.limit⟩, ⟨w.sink, .tupleSink⟩]

/-- The links. -/
def links (w : WordPipeline) : List Link :=
  [⟨w.scan, w.count⟩, ⟨w.count, w.cloud⟩, ⟨w.cloud, w.sink⟩]

variable {w : WordPipeline} {v : ValidPlan}

/-- The node of the scan. -/
def scanNode (w : WordPipeline) : PhysicalNode :=
  .node ⟨w.scan, .scanSource w.table⟩ 1 []

/-- The node of the counters, above the scan. -/
def countNode (w : WordPipeline) (workers : Nat) : PhysicalNode :=
  .node ⟨w.count, .wordCountPartial w.column⟩ (max workers 1) [.direct ⟨w.scan, w.count⟩ w.scanNode]

/-- The node of the word cloud, above the counters. -/
def cloudNode (w : WordPipeline) (workers : Nat) : PhysicalNode :=
  .node ⟨w.cloud, .wordCloud w.limit⟩ 1 [.direct ⟨w.count, w.cloud⟩ (w.countNode workers)]

/-- The node of the sink, above the word cloud. -/
def sinkNode (w : WordPipeline) (workers : Nat) : PhysicalNode :=
  .node ⟨w.sink, .tupleSink⟩ 1 [.direct ⟨w.cloud, w.sink⟩ (w.cloudNode workers)]

lemma nodup_names (hoperators : v.plan.operators.Perm w.operators) :
    (w.scan ≠ w.count ∧ w.scan ≠ w.cloud ∧ w.scan ≠ w.sink) ∧
      (w.count ≠ w.cloud ∧ w.count ≠ w.sink) ∧ w.cloud ≠ w.sink := by
  have hids := hoperators.map Operator.id
  have hnodup : [w.scan, w.count, w.cloud, w.sink].Nodup := hids.nodup_iff.mp v.plan.nodup_ids
  simpa using hnodup

lemma length_consumersOf_le (hoperators : v.plan.operators.Perm w.operators)
    (hlinks : v.plan.links.Perm w.links) (id : OperatorId) :
    (v.plan.consumersOf id).length ≤ 1 := by
  obtain ⟨⟨hcount, hcloud, -⟩, ⟨hcloud', -⟩, -⟩ := nodup_names hoperators
  rw [Plan.length_consumersOf, hlinks.countP_eq]
  simp only [links, List.countP_cons, List.countP_nil, decide_eq_true_eq]
  split_ifs with h₁ h₂ h₃ h₃ <;> simp_all

lemma links_into (hoperators : v.plan.operators.Perm w.operators)
    (hlinks : v.plan.links.Perm w.links) :
    v.plan.links.filter (·.consumer = w.scan) = [] ∧
      v.plan.links.filter (·.consumer = w.count) = [⟨w.scan, w.count⟩] ∧
      v.plan.links.filter (·.consumer = w.cloud) = [⟨w.count, w.cloud⟩] ∧
      v.plan.links.filter (·.consumer = w.sink) = [⟨w.cloud, w.sink⟩] := by
  obtain ⟨⟨hcount, hcloud, hsink⟩, ⟨hcloud', hsink'⟩, hsink''⟩ := nodup_names hoperators
  have hinto (id : OperatorId) : (v.plan.links.filter (·.consumer = id)).Perm
      (w.links.filter (·.consumer = id)) := hlinks.filter _
  refine ⟨List.perm_nil.mp ?_, List.perm_singleton.mp ?_, List.perm_singleton.mp ?_,
    List.perm_singleton.mp ?_⟩
  · simpa [links, hcount.symm, hcloud.symm, hsink.symm] using hinto w.scan
  · simpa [links, hcloud'.symm, hsink'.symm] using hinto w.count
  · simpa [links, hcloud', hsink''.symm] using hinto w.cloud
  · simpa [links, hsink', hsink''] using hinto w.sink

lemma sink_eq (hoperators : v.plan.operators.Perm w.operators)
    (hlinks : v.plan.links.Perm w.links) : v.sink = w.sink := by
  obtain ⟨⟨-, -, hsink⟩, ⟨-, hsink'⟩, hsink''⟩ := nodup_names hoperators
  have hmem : (⟨w.sink, .tupleSink⟩ : Operator) ∈ v.plan.operators := by
    simp [hoperators.mem_iff, operators]
  refine ((v.eq_sink_iff hmem).mpr fun consumer hfeeds => ?_).symm
  have hlink := hlinks.mem_iff.mp hfeeds
  simp [links, hsink.symm, hsink'.symm, hsink''.symm] at hlink

/-- The physical plan of the pipeline. -/
theorem physical_eq (hoperators : v.plan.operators.Perm w.operators)
    (hlinks : v.plan.links.Perm w.links) (workers : Nat) :
    v.physical workers = .ok ⟨w.sinkNode workers, []⟩ := by
  obtain ⟨hscan, hcount, hcloud, hsink⟩ := links_into hoperators hlinks
  match hphysical : v.physical workers with
  | .error e =>
    obtain ⟨operator, hoperator, herror⟩ := ValidPlan.exists_refused hphysical
    rw [hoperators.mem_iff] at hoperator
    simp only [operators, List.mem_cons, List.not_mem_nil, or_false] at hoperator
    rcases hoperator with rfl | rfl | rfl | rfl <;> cases herror
  | .ok ⟨root, connectors⟩ =>
    have hrealizes := ValidPlan.realizes_of_physical hphysical
    have hnone := hrealizes.connectors_eq_nil (length_consumersOf_le hoperators hlinks)
    have hmem (operator : Operator) (h : operator ∈ w.operators) : operator ∈ v.plan.operators :=
      hoperators.mem_iff.mpr h
    have hroot : root.id = w.sink := hrealizes.root_eq.trans (sink_eq hoperators hlinks)
    have hall : root.all ⊆ PhysicalPlan.nodes ⟨root, connectors⟩ := List.subset_append_left ..
    have hself {n : PhysicalNode} (h : n.all ⊆ PhysicalPlan.nodes ⟨root, connectors⟩) :
        n ∈ PhysicalPlan.nodes ⟨root, connectors⟩ := h (by simp [n.all_eq])
    -- From the sink upwards, each node has one input, and that comes from a node of its own.
    obtain ⟨cloud, hfed, hid, hcloud'⟩ := hrealizes.exists_direct hnone hall hroot hsink
    obtain ⟨count, hfed', hid', hcount'⟩ := hrealizes.exists_direct hnone hcloud' hid hcloud
    obtain ⟨scan, hfed'', hid'', hscan'⟩ := hrealizes.exists_direct hnone hcount' hid' hcount
    have hunfed := hrealizes.inputs_eq_nil (hself hscan') hid'' hscan
    rw [hrealizes.node_eq (hself hscan') (hmem ⟨w.scan, .scanSource w.table⟩ (by simp [operators]))
      hid'' rfl hunfed] at hfed''
    rw [hrealizes.node_eq (hself hcount') (hmem ⟨w.count, .wordCountPartial w.column⟩
      (by simp [operators])) hid' rfl hfed''] at hfed'
    rw [hrealizes.node_eq (hself hcloud') (hmem ⟨w.cloud, .wordCloud w.limit⟩
      (by simp [operators])) hid rfl hfed'] at hfed
    rw [hrealizes.node_eq (hself hall) (hmem ⟨w.sink, .tupleSink⟩ (by simp [operators]))
      hroot rfl hfed, show connectors = [] from hnone]
    rfl

variable {context : Context} {table : Table}

/-- The counter of words that each worker of the pipeline begins with. -/
def counter (w : WordPipeline) (context : Context) : WordCount where
  column := w.column
  batchSize := context.config.batchSize
  schema := wordCountSchema

/-- The word cloud that the pipeline begins with. -/
def wordCloud (w : WordPipeline) (context : Context) : WordCloud where
  limit := w.limit
  tracker := { interval := context.config.updateInterval * 1000000 }

/-- The tree of the pipeline before it is opened. -/
def tree (w : WordPipeline) (workers : Nat) (context : Context) (scanned : Schema)
    (clock : Nat → Nat) : Tree TableScan StandardWorker where
  nodes := [
    { operator := ⟨w.scan, .scanSource w.table⟩
      schema := scanned
      crew := .source ⟨context.catalog, w.table, none, []⟩ false },
    { operator := ⟨w.count, .wordCountPartial w.column⟩
      schema := wordCountSchema
      crew := .team
        { slots := [⟨⟨w.scan, w.count⟩, .node 0, false⟩]
          workers := List.replicate (max workers 1) (.count (w.counter context)) } },
    { operator := ⟨w.cloud, .wordCloud w.limit⟩
      schema := wordCloudSchema
      crew := .team
        { slots := [⟨⟨w.count, w.cloud⟩, .node 1, false⟩]
          workers := [.cloud (w.wordCloud context)] } },
    { operator := ⟨w.sink, .tupleSink⟩
      schema := wordCloudSchema
      crew := .team
        { slots := [⟨⟨w.cloud, w.sink⟩, .node 2, false⟩]
          workers := [.sink] } }]
  junctions := []
  root := 3
  metrics := .empty
  clock := clock

/-- The tree of the pipeline is built if the table has the column and it is textual, and if any
words are to be kept. -/
theorem tree?_eq (engine : PatternEngine) {own : Attribute}
    (htable : context.catalog.table w.table = .ok table)
    (hown : table.schema.attribute? w.column = some own) (htext : own.type.isTextual = true)
    (hlimit : 0 < w.limit) (workers : Nat) (clock : Nat → Nat) :
    PhysicalPlan.tree? ⟨w.sinkNode workers, []⟩ (.standard engine) context clock =
      some (.ok (w.tree workers context table.schema clock)) := by
  have hscan : (⟨w.scan, .scanSource w.table⟩ : Operator).outputSchema context.catalog.schemas [] =
      .ok table.schema := by
    change context.catalog.schemas w.table = _
    rw [Catalog.schemas, htable]
    rfl
  have hcount : (⟨w.count, .wordCountPartial w.column⟩ : Operator).outputSchema
      context.catalog.schemas [table.schema] = .ok wordCountSchema := by
    change Operator.unarySchema w.count table.schema (.wordCountPartial w.column) = _
    rw [Operator.unarySchema, Operator.requireTextual, hown]
    simp only [htext]
    rfl
  have hcloud : (⟨w.cloud, .wordCloud w.limit⟩ : Operator).outputSchema context.catalog.schemas
      [wordCountSchema] = .ok wordCloudSchema := by
    change Operator.unarySchema w.cloud wordCountSchema (.wordCloud w.limit) = _
    rw [Operator.unarySchema, if_neg hlimit.ne']
    rfl
  have hcrew : Scaffold.createCrew (.standard engine) context ⟨w.count, .wordCountPartial w.column⟩
      (max workers 1) [⟨⟨w.scan, w.count⟩, .node 0, false⟩] [table.schema] wordCountSchema =
      .ok (.team
        { slots := [⟨⟨w.scan, w.count⟩, .node 0, false⟩]
          workers := List.replicate (max workers 1) (.count (w.counter context)) }) := by
    rw [createCrew_team rfl (List.cons_ne_nil _ _) rfl, max_eq_left (le_max_right ..)]
    rfl
  let t := w.tree workers context table.schema clock
  refine PhysicalPlan.tree?_of_buildNode fun connect => ?_
  let build (n : PhysicalNode) :=
    (Scaffold.buildNode (.standard engine) context connect n).outcome ⟨[], []⟩
  have hscanned : build w.scanNode = some (.ok 0, ⟨t.nodes.take 1, []⟩) :=
    Scaffold.outcome_buildNode_source hscan (createCrew_source rfl rfl)
  have hcounted : build (w.countNode workers) = some (.ok 1, ⟨t.nodes.take 2, []⟩) :=
    Scaffold.outcome_buildNode_direct hscanned rfl hcount hcrew
  have hclouded : build (w.cloudNode workers) = some (.ok 2, ⟨t.nodes.take 3, []⟩) :=
    Scaffold.outcome_buildNode_direct hcounted rfl hcloud
      (createCrew_team rfl (List.cons_ne_nil _ _) rfl)
  exact Scaffold.outcome_buildNode_direct hclouded rfl rfl
    (createCrew_team rfl (List.cons_ne_nil _ _) rfl)

/-- The words of the column, as often as they occur in the rows of a table. -/
def words (w : WordPipeline) (table : Table) : List String :=
  table.rows.flatMap (·.words w.column)

/-- What the changes of the pipeline lead to. -/
def Converges (w : WordPipeline) (table : Table) (given : List Tuple) : Prop :=
  ∃ r : Tally, replay ∅ given = some (r.map Tally.tuple).toFinset ∧
    r.MostFrequent w.limit (w.words table)

/-- The counters give counts of all words of the column. -/
lemma yields_counts {own : Attribute} (context : Context)
    (hown : table.schema.attribute? w.column = some own) (htext : own.type.isTextual = true)
    (hbound : ∀ word, ((w.words table).count word : Int) ≤ int32Max) (workers started : Nat) :
    ∃ entries : Tally, ({
        slots := [⟨⟨w.scan, w.count⟩, .node 0, false⟩]
        workers := List.replicate (max workers 1) (.count (w.counter context))
        started } : Team StandardWorker).Yields [⟨table.rows, none⟩]
        ⟨entries.map Tally.tuple, none⟩ ∧
      (∀ entry ∈ entries, 0 < entry.2.toInt) ∧ entries.words.Perm (w.words table) := by
  let cs := List.replicate (max workers 1) (w.counter context)
  let team : Team StandardWorker :=
    { slots := [⟨⟨w.scan, w.count⟩, .node 0, false⟩], workers := cs.map .count, started }
  have hcs (c : WordCount) (hc : c ∈ cs) : c = w.counter context := List.eq_of_mem_replicate hc
  have hcounts (c : WordCount) (hc : c ∈ cs) : c.Counts w.column :=
    hcs c hc ▸ ⟨rfl, rfl, Tally.proper_nil⟩
  have hnone : cs.flatMap (·.counts.entries.words) = [] := by
    rw [List.flatMap_eq_nil_iff]
    intro c hc
    rw [hcs c hc]
    rfl
  have hturn : team.nextWorker < cs.length := by simp [team, cs]
  have hleft : (⟨⟨w.scan, w.count⟩, .node 0, false⟩ : Slot).exhausted = false := rfl
  have hslots : team.slots = [⟨⟨w.scan, w.count⟩, .node 0, false⟩] := rfl
  obtain ⟨entries, hyields, hpos, hperm⟩ := Team.yields_counts hleft hcounts
    (fun row hrow => ⟨own, table.bound row hrow ▸ hown, htext⟩)
    (by rw [hnone]; exact hbound) hslots rfl hturn rfl
  rw [hnone] at hperm
  refine ⟨entries, ?_, hpos, hperm⟩
  simpa [team, cs] using hyields

/-- The word cloud promises changes that lead to the most frequent words. -/
lemma promises {entries : Tally} (hpos : ∀ entry ∈ entries, 0 < entry.2.toInt)
    (hperm : entries.words.Perm (w.words table))
    (hbound : ∀ word, ((w.words table).count word : Int) ≤ int32Max) (link : Link) :
    Worker.Promises link (entries.map Tally.tuple) (w.Converges table)
      (StandardWorker.cloud (w.wordCloud context)) := by
  have hshows : (w.wordCloud context).Shows [] [] :=
    ⟨WordCloud.displays_nil _ _, Tally.proper_nil, .nil⟩
  refine (hshows.promises hpos fun word => ?_).imp ?_
  · rw [List.nil_append, hperm.count_eq]
    exact hbound word
  · rintro given ⟨k, hproper, hwords, hreplay⟩
    exact ⟨k.top w.limit, hreplay, hproper.mostFrequent_top (hwords.trans hperm) w.limit⟩

section Open

variable {own : Attribute} {workers : Nat} {clock : Nat → Nat} {t : Tree TableScan StandardWorker}

/-- What feeds the word cloud and the counters: rows, and batches of counts. -/
def forecast (table : Table) (entries : Tally) : Forecast
  | .node 0 => ⟨table.rows, none⟩
  | .node 1 => ⟨entries.map Tally.tuple, none⟩
  | _ => .done

/-- In the open tree the word cloud serves changes that lead to the most frequent words. -/
lemma serves (hown : table.schema.attribute? w.column = some own)
    (htable : context.catalog.table w.table = .ok table) (htext : own.type.isTextual = true)
    (hbound : ∀ word, ((w.words table).count word : Int) ≤ int32Max)
    (hsound : (w.tree workers context table.schema clock).ledger.wiring.Sound)
    (hprimed : (w.tree workers context table.schema clock).Primed t)
    (hopened : ∀ node ∈ t.nodes, node.phase = .opened)
    (hw : t.ledger.wiring = (w.tree workers context table.schema clock).ledger.wiring) :
    Tree.Serves (w.tree workers context table.schema clock).ledger.wiring 2 (w.Converges table)
      t := by
  obtain ⟨scan, started, hphase, hscan⟩ := hprimed.exists_source hw hopened
    (show _[0]? = some _ from rfl) rfl
  obtain ⟨count, started', hphase', hcount⟩ := hprimed.exists_team hw hopened
    (show _[1]? = some _ from rfl) rfl
  obtain ⟨cloud, started'', hphase'', hcloud⟩ := hprimed.exists_team hw hopened
    (show _[2]? = some _ from rfl) rfl
  obtain ⟨entries, hyields, hpos, hperm⟩ :=
    yields_counts context hown htext hbound workers started'
  have hrows : (Source.start (⟨context.catalog, w.table, none, []⟩ : TableScan)).2 =
      ⟨context.catalog, w.table, none, table.rows⟩ := by
    simp [Source.start, TableScan.start, Catalog.scan, htable]
  have hpoised : Tree.Poised (w.tree workers context table.schema clock).ledger.wiring
      (forecast table entries) 2 cloud
      { slots := [⟨⟨w.count, w.cloud⟩, .node 1, false⟩]
        workers := [.cloud (w.wordCloud context)]
        started := started'' } [⟨entries.map Tally.tuple, none⟩] t := by
    refine ⟨hw, hphase'', hcloud, rfl, fun a hne hle => ?_⟩
    rcases a with ((_ | _ | _ | k) | _) | c
    · intro node hnode
      rw [hscan, hrows] at hnode
      cases hnode
      exact ⟨hphase, TableScan.yields_rows ..⟩
    · intro node hnode
      rw [hcount] at hnode
      cases hnode
      exact ⟨hphase', hyields⟩
    · exact absurd rfl hne
    · simp only [Wiring.level] at hle
      omega
    · trivial
    · intro junction hc
      have hjoints := congrArg (·.joints) hw
      have hnone : t.junctions = [] := List.map_eq_nil_iff.mp (List.map_eq_nil_iff.mp hjoints)
      rw [hnone] at hc
      cases hc
  exact hpoised.serves hsound rfl rfl rfl rfl (promises hpos hperm hbound _)

end Open

/-- A pipeline that keeps any words of a textual column of a table is built, and a run of it comes
to one result if it may go deep enough: changes that take out only what is there, and that lead to
the most frequent words of the column with their numbers of occurrences. The number of workers, the
settings, and the times that the clock shows do not matter, as long as no word occurs more often
than counts can tell. -/
theorem complete_converges {own : Attribute} (hoperators : v.plan.operators.Perm w.operators)
    (hlinks : v.plan.links.Perm w.links) (hlimit : 0 < w.limit)
    (htable : context.catalog.table w.table = .ok table)
    (hown : table.schema.attribute? w.column = some own) (htext : own.type.isTextual = true)
    (hbound : ∀ word, ((w.words table).count word : Int) ≤ int32Max)
    (workers : Nat) (clock : Nat → Nat) :
    ∃ physical t given, v.physical workers = .ok physical ∧
      physical.tree? (.standard engine) context clock = some (.ok t) ∧
      (∃ depth₀, ∀ depth, depth₀ ≤ depth →
        ((Tree.complete depth).outcome t).map Prod.fst = some (.ok given)) ∧
      (∀ depth result t', (Tree.complete depth).outcome t = some (result, t') →
        result = .ok given) ∧
      ∃ r : Tally, replay ∅ given = some (r.map Tally.tuple).toFinset ∧
        r.MostFrequent w.limit (w.words table) := by
  have hphysical := physical_eq hoperators hlinks workers
  have htree := tree?_eq engine htable hown htext hlimit workers clock
  have hrealizes := ValidPlan.realizes_of_physical hphysical
  have hfresh := PhysicalPlan.fresh_of_tree? htree
  have hwilling := (PhysicalPlan.resembles_of_tree? hrealizes.linked htree).willing hrealizes
  obtain ⟨result, ⟨given, hconverges, rfl⟩, hends, hsame⟩ := hfresh.exists_complete hwilling
    (Q := fun result => ∃ given, w.Converges table given ∧ result = .ok given)
    fun t hprimed hopen hw => by
      have hopened := Tree.phase_of_opened hopen
      have hserves := serves hown htable htext hbound hfresh.sound hprimed hopened hw
      obtain ⟨sink, started, hphase, hsink⟩ := hprimed.exists_team hw hopened
        (show _[3]? = some _ from rfl) rfl
      have hrelays : t.Relays (w.tree workers context table.schema clock).ledger.wiring 2 :=
        ⟨hw, Nat.lt_succ_self 2, sink, _, .sink, started, hsink, hphase,
          fun _ _ _ => rfl, fun _ _ => rfl⟩
      obtain ⟨depth, hdrain⟩ := hrelays.exists_drain hserves []
      exact ⟨depth, hdrain⟩
  exact ⟨_, _, given, hphysical, htree, hends, hsame, hconverges⟩

/-- The most frequent word of some posts. -/
def postWords : WordPipeline where
  scan := "scan"
  count := "count"
  cloud := "cloud"
  sink := "sink"
  table := "posts"
  column := "text"
  limit := 1

/-- The plan of the pipeline. -/
def postWordsPlan : ValidPlan where
  plan :=
    { operators := [⟨"cloud", .wordCloud 1⟩, ⟨"count", .wordCountPartial "text"⟩,
        ⟨"scan", .scanSource "posts"⟩, ⟨"sink", .tupleSink⟩]
      links := [⟨"cloud", "sink"⟩, ⟨"count", "cloud"⟩, ⟨"scan", "count"⟩]
      ascending := by
        unfold Ascending
        decide
      distinct := by decide }
  order := ["scan", "count", "cloud", "sink"]
  sink := "sink"
  checked := by decide +kernel

/-- The schema of the posts. -/
def postSchema : Schema :=
  ⟨[⟨"text", .text⟩], by decide⟩

/-- The posts. -/
def posts : Table where
  schema := postSchema
  rows := [⟨postSchema, [.text "Lean is lean."], by decide⟩, ⟨postSchema, [.null], by decide⟩,
    ⟨postSchema, [.text "A proof is a proof is a PROOF!"], by decide⟩]
  bound := by decide

/-- The tables and settings of the pipeline: a batch may be empty. -/
def postContext : Context where
  config := { batchSize := 0, updateInterval := 1 }
  catalog := ⟨[("posts", posts)]⟩

/-- The most frequent word of the posts is found by two counters. -/
theorem postWords_converges : ∃ physical t given,
    postWordsPlan.physical 2 = .ok physical ∧
    physical.tree? (.standard Pattern.engine) postContext (· * 1000000000) = some (.ok t) ∧
    (∃ depth₀, ∀ depth, depth₀ ≤ depth →
      ((Tree.complete depth).outcome t).map Prod.fst = some (.ok given)) ∧
    replay ∅ given = some {Tally.tuple ("proof", 3)} := by
  have hoperators : postWordsPlan.plan.operators.Perm postWords.operators := by decide
  have hlinks : postWordsPlan.plan.links.Perm postWords.links := by decide
  have hlimit : 0 < postWords.limit := by decide
  have htable : postContext.catalog.table postWords.table = .ok posts := rfl
  have hown : posts.schema.attribute? postWords.column = some ⟨"text", .text⟩ := rfl
  have hwords : postWords.words posts = ["lean", "lean", "proof", "proof", "proof"] := by
    decide +kernel
  have hbound (word : String) : ((postWords.words posts).count word : Int) ≤ int32Max := by
    have hle : (postWords.words posts).count word ≤ (postWords.words posts).length :=
      List.count_le_length
    rw [hwords, List.length_cons, List.length_cons, List.length_cons] at hle
    rw [hwords]
    simp only [int32Max, List.length_cons, List.length_nil] at hle ⊢
    omega
  obtain ⟨physical, t, given, hphysical, htree, hends, -, r, hreplay, hr⟩ :=
    complete_converges hoperators hlinks hlimit htable hown rfl hbound 2 (· * 1000000000)
  refine ⟨physical, t, given, hphysical, htree, hends, ?_⟩
  rw [hwords] at hr
  have hlength : r.length = 1 := by
    rw [hr.length_eq]
    decide
  obtain ⟨⟨word, n⟩, rfl⟩ := List.length_eq_one_iff.mp hlength
  have hmem := List.mem_singleton_self (word, n)
  obtain ⟨hword, hcount⟩ := hr.count_eq _ hmem
  have hgreatest := hr.greatest _ hmem "proof"
  have hone : word = "lean" ∨ word = "proof" := by simpa using hword
  rcases hone with rfl | rfl
  · simp at hgreatest
  · have hthree : n.toInt = (3 : Int32).toInt := hcount.trans rfl
    obtain rfl : n = 3 := Int32.toInt_inj.mp hthree
    simpa using hreplay

end WordPipeline

end Dataflow
