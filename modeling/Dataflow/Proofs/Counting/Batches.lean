import Dataflow.Proofs.Counting.Tally
import Dataflow.Proofs.Executor.Counting
import Dataflow.Proofs.Flow.Stream

/-!
# Batches keep all words

Counters give out the words of their batches, each with its count. However many counters a team
has, to whichever of them a tuple is dealt and however large a batch may be, all that the team gives
counts the words of all tuples.
-/

namespace Dataflow

variable {column : String} {t : Tuple} {rows : List Tuple}

namespace Tuple

/-- The words of a tuple that are counted. -/
def words (t : Tuple) (column : String) : List String :=
  (t.schema.value t.fields column).words

/-- A tuple has a text at an attribute. -/
def HasText (t : Tuple) (column : String) : Prop :=
  ∃ own, t.schema.attribute? column = some own ∧ own.type.isTextual = true

end Tuple

namespace Tally

lemma words_flatMap {α : Type} (xs : List α) (f : α → Tally) :
    words (xs.flatMap f) = xs.flatMap fun x => (f x).words := by
  simp [words, List.flatMap_assoc]

end Tally

namespace WordCount

variable {w : WordCount}

/-- A counter has counted exactly so far. -/
structure Counts (column : String) (w : WordCount) : Prop where
  column_eq : w.column = column
  schema_eq : w.schema = wordCountSchema
  proper : w.counts.entries.Proper

/-- What a counter gives and what it keeps are the words that it had and those of the tuple. -/
lemma Counts.exists_makes (h : w.Counts column) (htext : t.HasText column)
    (hbound : ∀ word, ((w.counts.entries.words ++ t.words column).count word : Int) ≤ int32Max)
    (link : Link) :
    ∃ entries w', Worker.Makes (StandardWorker.count w) (.tuple t link)
        (.ok (entries.map Tally.tuple)) (.count w') ∧
      w'.Counts column ∧ (∀ entry ∈ entries, 0 < entry.2.toInt) ∧
      (Tally.words entries ++ w'.counts.entries.words).Perm
        (w.counts.entries.words ++ t.words column) := by
  obtain ⟨own, hown, htype⟩ := htext
  obtain ⟨hproper, hperm⟩ := h.proper.addAll hbound
  rw [← IndexedTally.entries_addAll] at hproper hperm
  obtain ⟨rfl, hschema, -⟩ := h
  let counted : WordCount :=
    { w with counts := w.counts.addAll (t.words w.column), taken := w.taken + 1 }
  have hcount : w.count t = .ok counted := count_eq hown htype
  by_cases hfull : max counted.batchSize 1 ≤ counted.taken
  · refine ⟨counted.counts.entries, { counted with taken := 0, counts := .empty }, fun now => ?_,
      ⟨rfl, hschema, Tally.proper_nil⟩, hproper.pos, ?_⟩
    · change (process now (.tuple t link) w).map id StandardWorker.count = _
      simp only [process, hcount, if_pos hfull]
      rw [flush_eq (w := counted) hschema]
      rfl
    · rwa [IndexedTally.entries_empty, Tally.words_nil, List.append_nil]
  · refine ⟨[], counted, fun now => ?_, ⟨rfl, hschema, hproper⟩, nofun, hperm⟩
    change (process now (.tuple t link) w).map id StandardWorker.count = _
    simp only [process, hcount, if_neg hfull]
    rfl

lemma Counts.makes_exhausted (h : w.Counts column) (link : Link) :
    Worker.Makes (StandardWorker.count w) (.exhausted link) (.ok (w.counts.entries.map Tally.tuple))
      (.count { w with taken := 0, counts := .empty }) := by
  intro now
  change (process now (.exhausted link) w).map id StandardWorker.count = _
  rw [process, flush_eq h.schema_eq]
  rfl

end WordCount

section Teams

variable {cs : List WordCount} {slot : Slot} {team : Team StandardWorker}

/-- At the end a team of counters gives the words that its counters have. -/
lemma Team.yields_rest (hleft : slot.exhausted = false) (hcs : ∀ c ∈ cs, c.Counts column)
    (hslots : team.slots = [slot]) (hworkers : team.workers = cs.map .count)
    (hpending : team.pending = []) :
    team.Yields [⟨[], none⟩] ⟨(cs.flatMap (·.counts.entries)).map Tally.tuple, none⟩ := by
  let made : List (List Tuple × StandardWorker) := cs.map fun c =>
    (c.counts.entries.map Tally.tuple, .count { c with taken := 0, counts := .empty })
  have hended : { team.ended 0 made with pending := [] }.Yields [⟨[], none⟩] .done := by
    refine .finish rfl (pick?_eq_none_iff.mpr ?_)
    simp [ended, hslots]
  have hall := Yields.of_pending hended
  have hgiven : (team.ended 0 made).pending = (cs.flatMap (·.counts.entries)).map Tally.tuple := by
    simp [ended, made, hpending, List.flatMap_map, List.map_flatMap]
  rw [hgiven] at hall
  have hmakes : List.Forall₂ (fun v new => Worker.Makes v (.exhausted slot.link) (.ok new.1) new.2)
      team.workers made := by
    rw [hworkers, List.forall₂_map_left_iff, List.forall₂_map_right_iff, List.forall₂_same]
    exact fun c hc => (hcs c hc).makes_exhausted slot.link
  refine .exhausted hpending (pick?_singleton hslots hleft) rfl rfl hmakes ?_
  simpa [Stream.after, Stream.done] using hall

/-- A team of counters gives counts of the words that its counters have and of those of the tuples
that come in. -/
theorem Team.yields_counts (hleft : slot.exhausted = false) (hcs : ∀ c ∈ cs, c.Counts column)
    (hrows : ∀ row ∈ rows, row.HasText column)
    (hbound : ∀ word, ((cs.flatMap (·.counts.entries.words) ++
      rows.flatMap (·.words column)).count word : Int) ≤ int32Max)
    (hslots : team.slots = [slot]) (hworkers : team.workers = cs.map .count)
    (hturn : team.nextWorker < cs.length) (hpending : team.pending = []) :
    ∃ entries : Tally, team.Yields [⟨rows, none⟩] ⟨entries.map Tally.tuple, none⟩ ∧
      (∀ entry ∈ entries, 0 < entry.2.toInt) ∧
      entries.words.Perm
        (cs.flatMap (·.counts.entries.words) ++ rows.flatMap (·.words column)) := by
  induction rows generalizing cs team with
  | nil =>
    refine ⟨_, yields_rest hleft hcs hslots hworkers hpending, fun entry hentry => ?_, ?_⟩
    · obtain ⟨c, hc, hentry⟩ := List.mem_flatMap.mp hentry
      exact (hcs c hc).proper.pos entry hentry
    · rw [Tally.words_flatMap]
      simp
  | cons row rows ih =>
    obtain ⟨hrow, hrest⟩ := List.forall_mem_cons.mp hrows
    obtain ⟨c, hc⟩ : ∃ c, cs[team.nextWorker]? = some c := ⟨_, List.getElem?_eq_getElem hturn⟩
    have hworker : team.workers[team.nextWorker]? = some (.count c) := by
      rw [hworkers, List.getElem?_map, hc, Option.map_some]
    -- The words of the counter whose turn it is are among those of all counters.
    have hothers := flatMap_set_perm hc { c with counts := .empty } (·.counts.entries.words)
    obtain ⟨entries, c', hmakes, hcounts, hpos, hperm⟩ :=
      (hcs c (List.mem_of_getElem? hc)).exists_makes hrow (fun word => by
        have hword := hbound word
        have hcount := hothers.count_eq word
        simp only [List.count_append, List.flatMap_cons, IndexedTally.entries_empty,
          Tally.words_nil, List.nil_append] at hword hcount ⊢
        omega) slot.link
    have hset := flatMap_set_perm hc c' (·.counts.entries.words)
    let next : Team StandardWorker :=
      { team.dealt 0 (.count c') (entries.map Tally.tuple) with pending := [] }
    have hnext : ∀ d ∈ cs.set team.nextWorker c', d.Counts column := fun d hd =>
      (List.mem_or_eq_of_mem_set hd).elim (hcs d) fun heq => heq ▸ hcounts
    have hslots' : next.slots = [slot] := hslots
    have hworkers' : next.workers = (cs.set team.nextWorker c').map .count := by
      simp [next, dealt, hworkers, List.map_set]
    have hturn' : next.nextWorker < (cs.set team.nextWorker c').length := by
      simpa [next, dealt, hworkers] using Nat.mod_lt _ (Nat.zero_lt_of_lt hturn)
    obtain ⟨rest, hyields, hpos', hperm'⟩ := ih hnext hrest (fun word => by
      have hword := hbound word
      have hcount := hset.count_eq word
      have hmade := hperm.count_eq word
      simp only [List.count_append, List.flatMap_cons] at hword hcount hmade ⊢
      omega) hslots' hworkers' hturn' rfl
    have hall := Yields.of_pending hyields
    have hgiven : (team.dealt 0 (.count c') (entries.map Tally.tuple)).pending =
        entries.map Tally.tuple := by
      simp [dealt, hpending]
    rw [hgiven] at hall
    refine ⟨entries ++ rest, ?_, List.forall_mem_append.mpr ⟨hpos, hpos'⟩, ?_⟩
    · rw [List.map_append]
      exact .tuple hpending (pick?_singleton hslots hleft) rfl rfl hworker hmakes hall
    · rw [List.perm_iff_count]
      intro word
      have hcount := hset.count_eq word
      have hmade := hperm.count_eq word
      have hothers' := hperm'.count_eq word
      simp only [Tally.words_append, List.count_append, List.flatMap_cons]
        at hcount hmade hothers' ⊢
      omega

end Teams

end Dataflow
