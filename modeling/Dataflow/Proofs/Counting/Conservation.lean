import Dataflow.Pattern.Search
import Dataflow.Proofs.Counting.Tasks
import Dataflow.Proofs.Meaning.Runs
import Dataflow.Proofs.Tree.Discipline
import Dataflow.Proofs.Tree.Shares

/-!
# Counting in parts keeps all words

An operator that counts words in parts deals the tuples of its input to its workers, and these give
reports of batches. Whatever the tuples are, however many workers there are and however large a
batch is, the reports that the operator has given at its end count every word as often as it occurs,
except for the words that are too common to be counted.
-/

namespace Dataflow

variable {engine : PatternEngine}

open WordCount

variable {v : ValidPlan} {context : Context} {workers : Nat} {clock : Nat → Nat}
  {physical : PhysicalPlan} {t₀ t t' : Tree TableScan StandardWorker} {depth q n : Nat}
  {node : Node TableScan StandardWorker} {column : String} {answers : List (Option Tuple)}
  {link : Link} {rows : List Tuple}

lemma count_counted (rows : List Tuple) (word : String) :
    (counted column rows).count word =
      if word ∈ stopWords then 0 else ((texts column rows).flatMap terms).count word := by
  have hcounted : counted column rows =
      ((texts column rows).flatMap terms).filter fun term => !stopWords.contains term := by
    rw [List.filter_flatMap]
    rfl
  rw [hcounted]
  split_ifs with hstop
  · rw [List.count_eq_zero, List.mem_filter]
    simp [hstop]
  · exact List.count_filter (by simpa using hstop)

/-- All reports of a team of workers, from one worker after another. -/
def reports (column : String) (n size : Nat) (rows : List Tuple) : Tally :=
  (List.range n).flatMap fun k =>
    (List.range ((share n k rows).length / size + 1)).flatMap fun j =>
      numbered (counted column (batch size j (share n k rows)))

lemma perm_counted_batches {size : Nat} (hn : 0 < n) (hsize : 0 < size) :
    ((List.range n).flatMap fun k =>
      (List.range ((share n k rows).length / size + 1)).flatMap fun j =>
        counted column (batch size j (share n k rows))).Perm (counted column rows) := by
  have hshare (k : Nat) : ((List.range ((share n k rows).length / size + 1)).flatMap fun j =>
      counted column (batch size j (share n k rows))) = counted column (share n k rows) := by
    rw [← counted_flatMap, flatMap_batches hsize]
  simp only [hshare]
  rw [← counted_flatMap]
  exact counted_perm (flatMap_share_perm hn rows) column

lemma mem_reports_iff {size : Nat} (hn : 0 < n) (hsize : 0 < size) {word : String} :
    word ∈ (reports column n size rows).map Prod.fst ↔ word ∈ counted column rows := by
  rw [← (perm_counted_batches hn hsize).mem_iff]
  simp only [reports, List.map_flatMap, List.mem_flatMap, Tally.mem_map_fst_numbered]

lemma total_reports {size : Nat} (hn : 0 < n) (hsize : 0 < size) {word : String}
    (h : ∀ k j, ((counted column (batch size j (share n k rows))).count word : Int) ≤ int32Max) :
    Tally.total (reports column n size rows) word = (counted column rows).count word := by
  rw [← (perm_counted_batches hn hsize).count_eq]
  exact Tally.total_flatMap fun k => Tally.total_flatMap fun j => Tally.total_numbered (h k j)

/-- The team of an operator that counts words in parts, before it was fed: one counter for each
worker. -/
structure Counters (column : String) (batchSize n : Nat) (link : Link)
    (team : Team StandardWorker) : Prop extends team.Unfed where
  slots_eq : ∃ supply, team.slots = [⟨link, supply, false⟩]
  workers_eq : team.workers = List.replicate n (.count (after column batchSize []))

/-- In a tree that was just opened, an operator that counts words in parts has such a team. -/
lemma ValidPlan.exists_counters (hphysical : v.physical workers = .ok physical)
    (htree : physical.tree? (.standard engine) context clock = some (.ok t₀))
    (hstart : (Tree.start depth).outcome t₀ = some (.ok (), t))
    (hnode : t.nodes[q]? = some node) (hkind : node.operator.kind = .wordCountPartial column) :
    ∃ link team, t.HasTeam q team ∧
      Counters column context.config.batchSize (max workers 1) link team := by
  have hrealizes := realizes_of_physical hphysical
  have hresembles := PhysicalPlan.resembles_of_tree? hrealizes.linked htree
  have hfresh := PhysicalPlan.fresh_of_tree? htree
  obtain ⟨-, hprimed, -⟩ :=
    (hfresh.after_start (hresembles.willing hrealizes) depth).of_outcome hstart
  obtain ⟨⟨⟨id, kind⟩, schema, phase, crew⟩, hnode₀, hoperator, hcrew⟩ := hprimed.nodes q node hnode
  obtain rfl : kind = .wordCountPartial column :=
    (congrArg Operator.kind hoperator).symm.trans hkind
  obtain ⟨slots, inputs, hworks⟩ := hresembles.exists_works hrealizes hnode₀
  obtain ⟨count, hcount, hcreate⟩ := hworks.crew
  obtain ⟨a, rfl⟩ := List.length_eq_one_iff.mp (Operator.length_inputs hworks.schema)
  obtain ⟨⟨link, supply, exhausted⟩, rfl⟩ := List.length_eq_one_iff.mp hworks.givers.length_eq
  obtain rfl : exhausted = false := hworks.fresh _ (List.mem_singleton_self _)
  obtain ⟨make, hfactory, ⟨hnil, -⟩ | ⟨-, w, hmake, hteam⟩⟩ := createCrew_eq_ok hcreate
  · cases hnil
  obtain ⟨_, -, hschema⟩ := seq_eq_ok_iff.mp hworks.schema
  cases hschema
  cases hcount
  cases hfactory
  cases hmake
  let built : Team StandardWorker :=
    { slots := [⟨link, supply, false⟩]
      workers := List.replicate (max workers 1)
        (.count (after column context.config.batchSize [])) }
  replace hteam : crew = .team built := by
    refine hteam.trans ?_
    rw [max_eq_left (le_max_right ..)]
    simp only [built, after_nil]
    rfl
  simp only [hteam] at hcrew
  generalize hnew : node.crew = now at hcrew
  cases hcrew with
  | team _ started =>
    refine ⟨link, { built with started := started }, ⟨node, hnode, hnew⟩, ⟨⟨rfl, rfl, rfl, ?_, ?_⟩,
      ⟨supply, rfl⟩, rfl⟩⟩
    · simp [built]
    · simp [built]

section Reached

variable {batchSize : Nat} {team team' : Team StandardWorker} {history : List Moment}
  {given : List Tuple}

/-- What each counter of a team has done, and how it is then. -/
lemma Counters.exists_rows (h : Counters column batchSize n link team) (hn : 0 < n)
    (hreached : team.Reached history given team') :
    ∃ rows, history.filterMap (Moment.givenBy? 0) =
        rows.map some ++ (if hasEnded 0 history then [none] else []) ∧
      (∀ k < n, ∃ ts, team'.workers[k]? = some (.count (after column batchSize ts)) ∧
        tasksOf k history =
          tasks column (max batchSize 1) link (share n k rows) (hasEnded 0 history)) ∧
      ((List.range n).flatMap fun k => (tasksOf k history).flatMap Prod.snd).Perm
        (history.flatMap Moment.made) := by
  obtain ⟨supply, hslots⟩ := h.slots_eq
  have hdeliveries := hreached.deliveries
  rw [hslots, h.workers_eq, List.length_replicate] at hdeliveries
  obtain ⟨rows, hrows, hinputs, hmade⟩ := hdeliveries.exists_shares hn
  refine ⟨rows, hrows, fun k hk => ?_, hmade⟩
  obtain ⟨w, hw, htook⟩ := hreached.served.took k (.count (after column batchSize [])) (by
    rw [h.workers_eq]
    exact List.getElem?_replicate_of_lt hk)
  obtain ⟨c, rfl, hcounter⟩ := took_of_count htook
  obtain ⟨htasks, rfl⟩ := eq_of_took hcounter (hinputs k hk)
  exact ⟨_, hw, htasks⟩

/-- A team that has nothing left to give has given all reports. -/
lemma Counters.perm_reports (h : Counters column batchSize n link team)
    (hreached : team.Reached history given team') (hfinished : team'.Finished)
    (htasks : ∀ k < n, tasksOf k history =
      tasks column (max batchSize 1) link (share n k rows) (hasEnded 0 history))
    (hmade : ((List.range n).flatMap fun k => (tasksOf k history).flatMap Prod.snd).Perm
      (history.flatMap Moment.made)) :
    hasEnded 0 history = true ∧
      given.Perm ((reports column n (max batchSize 1) rows).map Tally.tuple) := by
  obtain ⟨supply, hslots⟩ := h.slots_eq
  have hended : hasEnded 0 history = true :=
    decide_eq_true (hreached.all_ended hfinished.pick?_eq (by simp [hslots]))
  have hgiven := hreached.made_eq
  rw [hfinished.pending_eq, List.append_nil] at hgiven
  have hreports : ((List.range n).flatMap fun k => (tasksOf k history).flatMap Prod.snd) =
      (reports column n (max batchSize 1) rows).map Tally.tuple := by
    rw [reports, List.map_flatMap]
    refine List.flatMap_congr fun k hk => ?_
    rw [htasks k (List.mem_range.mp hk), hended, flatMap_tasks, List.map_flatMap]
    rfl
  rw [hgiven, ← hreports]
  exact ⟨hended, hmade.symm⟩

/-- No counter of a team fails at the end, nor at a tuple whose text it can read. -/
lemma Counters.exists_process (h : Counters column batchSize n link team) (hn : 0 < n)
    (hreached : team.Reached history given team') {w : StandardWorker} (hw : w ∈ team'.workers)
    (now : Nat) (input : Input)
    (hinput : ∀ x link, input = .tuple x link → ∃ text, x.getText? column = .ok text) :
    ∃ made w', Worker.process now input w = (.ok made, w') := by
  obtain ⟨rows, -, hworkers, -⟩ := h.exists_rows hn hreached
  obtain ⟨k, hk⟩ := List.mem_iff_getElem?.mp hw
  have hlt := (List.getElem?_eq_some_iff.mp hk).1
  rw [hreached.workers_eq, h.workers_eq, List.length_replicate] at hlt
  obtain ⟨ts, hts, -⟩ := hworkers k hlt
  obtain rfl := Option.some.inj (hk.symm.trans hts)
  have hcount (c : WordCount) : Worker.process now input (StandardWorker.count c) =
      ((c.process now input).1, .count (c.process now input).2) := rfl
  match input with
  | .tuple x link => exact ⟨_, _, by rw [hcount, process_tuple (hinput x link rfl)]⟩
  | .exhausted link => exact ⟨_, _, by rw [hcount, process_exhausted]⟩

end Reached

/-- Every word is counted as often as it occurs, unless it is too common; then it is not counted at
all. -/
structure Tally.Conserves (entries : Tally) (words : List String) : Prop where
  mem_iff : ∀ word, word ∈ entries.map Prod.fst ↔ word ∉ stopWords ∧ word ∈ words
  total_eq : ∀ word, word ∉ stopWords → entries.total word = words.count word

/-- In whatever order the reports of a team are given, they count all words, unless a batch has a
word too often. -/
lemma conserves_of_perm {size : Nat} {entries : Tally} (hn : 0 < n) (hsize : 0 < size)
    (hperm : entries.Perm (reports column n size rows))
    (h : ∀ k j word,
      ((counted column (batch size j (share n k rows))).count word : Int) ≤ int32Max) :
    entries.Conserves ((texts column rows).flatMap terms) where
  mem_iff word := by
    rw [(hperm.map Prod.fst).mem_iff, mem_reports_iff hn hsize, ← List.count_pos_iff,
      count_counted]
    split_ifs with hstop
    · simp [hstop]
    · rw [List.count_pos_iff, and_iff_right hstop]
  total_eq word hstop := by
    rw [Tally.total_perm hperm, total_reports hn hsize fun k j => h k j word, count_counted,
      if_neg hstop]

/-- What is in another order than what comes from a list comes from a list in another order. -/
lemma exists_eq_map_of_perm {α β : Type} {f : α → β} {xs : List α} {ys : List β}
    (h : ys.Perm (xs.map f)) : ∃ xs' : List α, ys = xs'.map f ∧ xs'.Perm xs := by
  have hsame : List.Forall₂ (fun y x => y = f x) (xs.map f) xs := by
    rw [List.forall₂_map_left_iff, List.forall₂_same]
    exact fun _ _ => rfl
  obtain ⟨xs', heq, hperm⟩ := List.perm_comp_forall₂ h hsame
  refine ⟨xs', ?_, hperm⟩
  rw [← List.forall₂_eq_eq_eq, List.forall₂_map_right_iff]
  exact heq

/-- **Counting in parts keeps all words.** Whatever an operator that counts words in parts is asked,
each of its workers has its share of the tuples that the input gave, and makes a report of a batch
after as many tuples as a batch has, one if it should have none, and one more when the input has
ended. A report has the different words of the batch in the order in which they come in. When the
operator has answered that it has nothing left to give, the counts that it gave add up to the
numbers of the words in all texts, as long as no word comes more often in a batch than 32 bits can
count. -/
theorem ValidPlan.partial_counts_conserve (hphysical : v.physical workers = .ok physical)
    (htree : physical.tree? (.standard engine) context clock = some (.ok t₀))
    (hstart : (Tree.start depth).outcome t₀ = some (.ok (), t))
    (hnode : t.nodes[q]? = some node) (hkind : node.operator.kind = .wordCountPartial column)
    (hcalled : Tree.Called q t answers t') :
    ∃ (link : Link) (history : List Moment) (rows : List Tuple) (ended : Bool),
      Tree.Watched q t history answers t' ∧
      t'.callsOf q = t.callsOf q ++ history.filterMap (Moment.call? q) ∧
      history.filterMap (Moment.givenBy? 0) = rows.map some ++ (if ended then [none] else []) ∧
      (∀ k < max workers 1, tasksOf k history =
        tasks column (max context.config.batchSize 1) link (share (max workers 1) k rows) ended) ∧
      (∀ team, t'.HasTeam q team → ∀ w ∈ team.workers, ∀ now input,
        (∀ x link, input = .tuple x link → ∃ text, x.getText? column = .ok text) →
          ∃ made w', Worker.process now input w = (.ok made, w')) ∧
      (none ∈ answers → ended = true ∧ ∃ entries : Tally,
        answers.reduceOption = entries.map Tally.tuple ∧
        ((∀ k j word, ((counted column (batch (max context.config.batchSize 1) j
            (share (max workers 1) k rows))).count word : Int) ≤ int32Max) →
          entries.Conserves ((texts column rows).flatMap terms))) := by
  have hfresh := PhysicalPlan.fresh_of_tree? htree
  have hsound : t.ledger.wiring.Sound :=
    ((Tree.advances_start hfresh.orderly).of_outcome hstart).wiring_eq ▸ hfresh.sound
  obtain ⟨link, team, hteam, hcounters⟩ := exists_counters hphysical htree hstart hnode hkind
  obtain ⟨history, team', hwatched, hbecomes, hreached, hfinished⟩ :=
    hcalled.watched hsound hteam hcounters.toUnfed
  have hn : 0 < max workers 1 := Nat.lt_of_lt_of_le Nat.one_pos (le_max_right ..)
  have hsize : 0 < max context.config.batchSize 1 :=
    Nat.lt_of_lt_of_le Nat.one_pos (le_max_right ..)
  obtain ⟨rows, hrows, hworkers, hmade⟩ := hcounters.exists_rows hn hreached
  have htasks := fun k hk => (hworkers k hk).choose_spec.2
  refine ⟨link, history, rows, hasEnded 0 history, hwatched, hbecomes.callsOf_eq, hrows, htasks,
    ?_, fun hnone => ?_⟩
  · intro team hteam' w hw
    obtain rfl := hbecomes.hasTeam.unique hteam'
    exact hcounters.exists_process hn hreached hw
  obtain ⟨hended, hperm⟩ := hcounters.perm_reports hreached (hfinished hnone) htasks hmade
  obtain ⟨entries, hentries, hperm⟩ := exists_eq_map_of_perm hperm
  exact ⟨hended, entries, hentries, conserves_of_perm hn hsize hperm⟩

/-- Asks a node for some tuples, one after another. -/
def Tree.ask {σ ω : Type} [Source σ] [Worker ω] (depth q : Nat) :
    Nat → Drive σ ω (List (Option Tuple))
  | 0 => return []
  | n + 1 => do
    let given ← nextNode depth q
    return given :: (← ask depth q n)

lemma Tree.Called.gives_ask {σ ω : Type} [Source σ] [Worker ω] {t t₁ : Tree σ ω}
    (h : Called q t answers t₁) (depth rounds : Nat) :
    (ask depth q rounds : Drive σ ω _).Gives t₁ fun more t' => Called q t (answers ++ more) t' := by
  induction rounds generalizing t₁ answers with
  | zero => exact Act.gives_pure.mpr ((List.append_nil answers).symm ▸ h)
  | succ rounds ih =>
    refine Act.gives_bind.mpr (Act.gives_iff.mpr fun given t₂ hnext => ?_)
    refine Act.gives_bind.mpr ((ih (h.concat ⟨rfl, rfl⟩ hnext)).mono fun more t' hmore => ?_)
    rw [List.append_assoc] at hmore
    exact Act.gives_pure.mpr hmore

lemma map_fst_tasksOf (q k : Nat) (history : List Moment) : (tasksOf k history).map Prod.fst =
    (history.filterMap (Moment.call? q)).filterMap fun call =>
      match call.event with
      | .process taken => if call.worker = some k then some taken else none
      | _ => none := by
  rw [tasksOf, List.map_filterMap, List.filterMap_filterMap]
  refine List.filterMap_congr fun moment _ => ?_
  cases moment with
  | pulled => rfl
  | handed _ worker => by_cases h : worker = k <;> simp [Moment.task?, Moment.call?, h]

lemma tuples_inj {link link' : Link} {ts ts' : List Tuple}
    (h : ts.map (Input.tuple · link) ++ [.exhausted link] =
      ts'.map (Input.tuple · link') ++ [.exhausted link']) : ts = ts' ∧ link = link' := by
  obtain ⟨htuples, hlink⟩ := List.append_inj' h rfl
  obtain rfl : link = link' := by simpa using hlink
  have hinjective : Function.Injective (Input.tuple · link) :=
    fun _ _ heq => (Input.tuple.inj heq).1
  exact ⟨hinjective.list_map htuples, rfl⟩

lemma count_counted_batch_le (column : String) (n size j k : Nat) (rows : List Tuple)
    (word : String) :
    (counted column (batch size j (share n k rows))).count word ≤
      (counted column rows).count word := by
  have hshare : (share n k rows).Sublist rows := by
    have hsublist :=
      (List.filter_sublist (p := fun p => p.2 % n = k) (l := rows.zipIdx)).map Prod.fst
    rwa [List.zipIdx_map_fst] at hsublist
  have hbatch := (List.take_sublist size _).trans ((List.drop_sublist (j * size) _).trans hshare)
  exact ((hbatch.filterMap _).flatMap _).count_le word

/-- The words of some notes are counted in parts. -/
def noteCounts : ValidPlan where
  plan :=
    { operators := [⟨"count", .wordCountPartial "text"⟩, ⟨"scan", .scanSource "notes"⟩,
        ⟨"sink", .tupleSink⟩]
      links := [⟨"count", "sink"⟩, ⟨"scan", "count"⟩]
      ascending := by
        unfold Ascending
        decide
      distinct := by decide }
  order := ["scan", "count", "sink"]
  sink := "sink"
  checked := by decide +kernel

/-- A note. -/
def note (text : String) : Tuple :=
  ⟨⟨[⟨"text", .text⟩], rfl⟩, [.text text], rfl⟩

/-- A note without a text. -/
def emptyNote : Tuple :=
  ⟨⟨[⟨"text", .text⟩], rfl⟩, [.null], rfl⟩

/-- Three notes, one of them without a text; a batch has two. -/
def noteContext : Context where
  config := { batchSize := 2 }
  catalog := ⟨[("notes",
    ⟨emptyNote.schema, [note "Lean is lean.", emptyNote, note "A lean proof"], by decide⟩)]⟩

/-- A worker takes in something from the scan of the notes. -/
def notesIn (worker : Nat) (taken : Link → Input) : Call :=
  ⟨1, some worker, .process (taken ⟨"scan", "count"⟩), none⟩

/-- The first worker gives a report of the notes with a text, and the other one has nothing to
report. -/
theorem noteCounts_conserve : ∃ physical t₀ t t' node history,
    noteCounts.physical 2 = .ok physical ∧
    physical.tree? (.standard Pattern.engine) noteContext (fun _ => 0) = some (.ok t₀) ∧
    (Tree.start 5).outcome t₀ = some (.ok (), t) ∧
    t.nodes[1]? = some node ∧ node.operator.kind = .wordCountPartial "text" ∧
    Tree.Called 1 t [some (Tally.tuple ("lean", 3)), some (Tally.tuple ("proof", 1)), none] t' ∧
    (∃ rows, rows.Perm [note "Lean is lean.", note "A lean proof", emptyNote] ∧
      tasksOf 0 history = tasks "text" 2 ⟨"scan", "count"⟩ (share 2 0 rows) true ∧
      tasksOf 1 history = tasks "text" 2 ⟨"scan", "count"⟩ (share 2 1 rows) true ∧
      Tally.Conserves [("lean", 3), ("proof", 1)] ((texts "text" rows).flatMap terms)) := by
  have hrun : ((noteCounts.physical 2).toOption.bind fun physical =>
      (physical.tree? (.standard Pattern.engine) noteContext fun _ => 0).bind fun built =>
      built.toOption.bind fun t₀ => ((Tree.start 5).outcome t₀).bind fun opened =>
      opened.1.toOption.bind fun _ => (opened.2.nodes[1]?).bind fun node =>
      ((Tree.ask 5 1 3).outcome opened.2).bind fun asked => asked.1.toOption.map fun given =>
        (node.operator.kind, given,
          (asked.2.callsOf 1).drop (opened.2.callsOf 1).length)) =
      some (.wordCountPartial "text",
        [some (Tally.tuple ("lean", 3)), some (Tally.tuple ("proof", 1)), none], [
        notesIn 0 (.tuple (note "Lean is lean.")), notesIn 1 (.tuple emptyNote),
        notesIn 0 (.tuple (note "A lean proof")), notesIn 0 .exhausted,
        notesIn 1 .exhausted]) := by
    decide +kernel
  simp only [Option.bind_eq_some_iff, Option.map_eq_some_iff, toOption_eq_some_iff,
    Prod.mk.injEq] at hrun
  obtain ⟨physical, hphysical, _, htree, t₀, rfl, ⟨_, t⟩, hstart, _, rfl, node, hnode, ⟨_, t'⟩,
    hask, _, rfl, hkind, rfl, hcalls⟩ := hrun
  have hcalled := Act.gives_iff.mp (Tree.Called.nil.gives_ask 5 3) _ _ hask
  obtain ⟨link, history, rows, ended, -, hcallsOf, -, htasks, -, hend⟩ :=
    noteCounts.partial_counts_conserve hphysical htree hstart hnode hkind hcalled
  obtain ⟨rfl, entries, hentries, hconserves⟩ := hend (by simp)
  rw [hcallsOf, List.drop_left] at hcalls
  have hfirst := map_fst_tasksOf 1 0 history
  have hsecond := map_fst_tasksOf 1 1 history
  rw [htasks 0 (by decide), map_fst_tasks, hcalls] at hfirst
  rw [htasks 1 (by decide), map_fst_tasks, hcalls] at hsecond
  have htold : share 2 0 rows = [note "Lean is lean.", note "A lean proof"] ∧
      link = ⟨"scan", "count"⟩ := tuples_inj hfirst
  have htold' : share 2 1 rows = [emptyNote] ∧ link = ⟨"scan", "count"⟩ := tuples_inj hsecond
  obtain ⟨hshare, rfl⟩ := htold
  obtain ⟨hshare', -⟩ := htold'
  have hperm : rows.Perm [note "Lean is lean.", note "A lean proof", emptyNote] := by
    have hshares := flatMap_share_perm Nat.two_pos rows
    rw [show List.range 2 = [0, 1] from rfl] at hshares
    simp only [List.flatMap_cons, List.flatMap_nil, hshare, hshare'] at hshares
    exact hshares.symm
  obtain rfl : entries = [("lean", 3), ("proof", 1)] := by
    refine Tally.tuple_injective.list_map (hentries.symm.trans ?_)
    rfl
  refine ⟨physical, t₀, t, t', node, history, hphysical, htree, hstart, hnode, hkind, hcalled, rows,
    hperm, htasks 0 (by decide), htasks 1 (by decide), hconserves fun k j word => ?_⟩
  have hle := (count_counted_batch_le "text" 2 2 j k rows word).trans
    List.count_le_length
  have hlength : (counted "text" rows).length = 4 := by
    rw [(counted_perm hperm "text").length_eq]
    decide +kernel
  rw [hlength] at hle
  exact (Int.ofNat_le.mpr hle).trans (by decide)

end Dataflow
