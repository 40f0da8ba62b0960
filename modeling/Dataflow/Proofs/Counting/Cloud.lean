import Dataflow.Proofs.Counting.Tally
import Dataflow.Proofs.Delta.Replay
import Dataflow.Proofs.Executor.Counting
import Dataflow.Proofs.Flow.Timed

/-!
# Word clouds converge

A word cloud gives changes of its list of words, at times that the clock decides. Whatever the times
are, whoever does what the changes say always has the list that was shown last, and has the most
frequent words in the end.
-/

namespace Dataflow

/-- A result after some changes: tuples that are inserted are put in, and tuples that are retracted
are taken out. There is none if a tuple that is retracted is not there, or if a change has no
flag. -/
def replay (result : Finset Tuple) : List Tuple → Option (Finset Tuple)
  | [] => some result
  | change :: changes =>
    match change.isInsertion, change.stripFlag with
    | .ok true, .ok t => replay (insert t result) changes
    | .ok false, .ok t => if t ∈ result then replay (result.erase t) changes else none
    | _, _ => none

lemma replay_append (result : Finset Tuple) (first rest : List Tuple) :
    replay result (first ++ rest) = (replay result first).bind fun next => replay next rest := by
  induction first generalizing result with
  | nil => rfl
  | cons change first ih =>
    rw [List.cons_append, replay, replay]
    split
    · exact ih _
    · split_ifs
      · exact ih _
      · rfl
    · rfl

/-- Changes that lead from one result to another do so when they are done. -/
lemma Leads.replay_eq {s s' : Finset Tuple} {changes : List Tuple} (h : Leads s changes s') :
    replay s changes = some s' := by
  induction h with
  | nil => rfl
  | retract hflags hmem _ ih =>
    rw [replay, hflags.1, hflags.2]
    exact (if_pos hmem).trans ih
  | insert hflags _ _ ih =>
    rw [replay, hflags.1, hflags.2]
    exact ih

namespace Tally

/-- The changes from one list of words to another lead from the one to the other. -/
lemma leads_changes {old new : Tally} (hold : old.Nodup) (hnew : new.Nodup) :
    Leads (old.map tuple).toFinset (changes old new) (new.map tuple).toFinset := by
  obtain ⟨flagged, hflagged, hleads⟩ := Delta.exists_flagged_between
    (hold.map tuple_injective) (hnew.map tuple_injective) fun t ht => by
      rw [← List.map_append] at ht
      obtain ⟨entry, -, rfl⟩ := List.mem_map.mp ht
      rfl
  rw [flagged_between, Except.ok.injEq] at hflagged
  exact hflagged ▸ hleads

end Tally

namespace WordCloud

variable {c : WordCloud} {shown entries : Tally} {ws : List String} {entry : String × Int32}
  {link : Link} {t : Tuple}

/-- A tuple carries a word and a count. -/
def Carries (t : Tuple) (entry : String × Int32) : Prop :=
  t.getText wordName = .ok entry.1 ∧ t.getInteger countName = .ok entry.2

/-- A word cloud has shown a list last: the greatest of its counts, unless something came in
since. -/
structure Displays (c : WordCloud) (shown : Tally) : Prop where
  previous_eq : c.tracker.previous = shown.map Tally.tuple
  shown_nodup : shown.Nodup
  words_nodup : (c.counts.entries.map Prod.fst).Nodup
  settled : c.tracker.pending = 0 → shown = c.counts.entries.top c.limit

lemma displays_nil (limit interval : Nat) :
    Displays { limit, tracker := { interval } } [] :=
  ⟨rfl, List.nodup_nil, List.nodup_nil, fun _ => by simp [Tally.top]⟩

lemma count_eq_of_carries (h : Carries t entry) : c.count t =
    .ok { c with counts := c.counts.add entry.1 entry.2, tracker := c.tracker.record } := by
  rw [count, h.1, h.2]
  rfl

namespace Displays

/-- What is given and shown next, if it is decided whether to give something. -/
lemma exists_give (h : c.Displays shown) (wanted : Bool) (time : Nat) :
    ∃ given shown' c', c.give (c.tracker.updateIf wanted time fun _ =>
        snapshot c.counts c.limit) = (.ok given, c') ∧
      c'.limit = c.limit ∧ c'.counts.entries = c.counts.entries ∧ c'.Displays shown' ∧
      Leads (shown.map Tally.tuple).toFinset given (shown'.map Tally.tuple).toFinset ∧
      (shown' = shown ∨ shown' = c.counts.entries.top c.limit) ∧
      (wanted = true → c'.tracker.pending = 0) ∧ (wanted = false → c' = c) := by
  rw [give_updateIf h.previous_eq]
  cases wanted with
  | false => exact ⟨[], shown, c, rfl, rfl, rfl, h, .nil _, .inl rfl, nofun, fun _ => rfl⟩
  | true =>
    have hnodup := (Tally.nodup_top h.words_nodup c.limit).of_map _
    exact ⟨_, c.counts.entries.top c.limit, _, rfl, rfl, rfl,
      ⟨rfl, hnodup, h.words_nodup, fun _ => rfl⟩, Tally.leads_changes h.shown_nodup hnodup,
      .inr rfl, fun _ => rfl, nofun⟩

lemma exists_process_tuple (h : c.Displays shown) (ht : Carries t entry) (time : Nat)
    (link : Link) :
    ∃ given shown' c', c.process time (.tuple t link) = (.ok given, c') ∧
      c'.limit = c.limit ∧ c'.counts.entries = c.counts.entries.add entry.1 entry.2 ∧
      c'.Displays shown' ∧
      Leads (shown.map Tally.tuple).toFinset given (shown'.map Tally.tuple).toFinset ∧
      (shown' = shown ∨ shown' = c'.counts.entries.top c.limit) := by
  have hentries := c.counts.entries_add entry.1 entry.2
  have hadded : Displays
      { c with counts := c.counts.add entry.1 entry.2, tracker := c.tracker.record } shown :=
    ⟨h.previous_eq, h.shown_nodup, hentries ▸ Tally.nodup_map_fst_add h.words_nodup, nofun⟩
  obtain ⟨given, shown', c', hgive, hlimit, htally, hdisplays, hleads, hshown, -⟩ :=
    hadded.exists_give (c.tracker.record.isDue time) time
  refine ⟨given, shown', c', ?_, hlimit, htally.trans hentries, hdisplays, hleads,
    htally ▸ hshown⟩
  simp only [process, count_eq_of_carries ht, Tracker.onInput, hgive]

lemma exists_process_exhausted (h : c.Displays shown) (time : Nat) (link : Link) :
    ∃ given c', c.process time (.exhausted link) = (.ok given, c') ∧
      Leads (shown.map Tally.tuple).toFinset given
        ((c.counts.entries.top c.limit).map Tally.tuple).toFinset := by
  obtain ⟨given, shown', c', hgive, hlimit, htally, hdisplays, hleads, -, hwanted, hidle⟩ :=
    h.exists_give (c.tracker.pending != 0) time
  refine ⟨given, c', hgive, ?_⟩
  rw [← htally, ← hlimit, ← hdisplays.settled]
  · exact hleads
  · by_cases hpending : c.tracker.pending = 0
    · rw [hidle (by simp [hpending]), hpending]
    · exact hwanted (by simp [hpending])

end Displays

/-- A word cloud has counted some words and has shown a list last. -/
structure Shows (c : WordCloud) (shown : Tally) (ws : List String) : Prop
    extends c.Displays shown where
  proper : c.counts.entries.Proper
  perm : c.counts.entries.words.Perm ws

lemma carries_tuple (entry : String × Int32) : Carries (Tally.tuple entry) entry :=
  ⟨rfl, rfl⟩

lemma process_cloud (c : WordCloud) (time : Nat) (input : Input) :
    Worker.process time input (StandardWorker.cloud c) =
      ((c.process time input).1, .cloud (c.process time input).2) :=
  rfl

/-- Whatever the times are at which counts come in, doing what a word cloud says leads from the list
that was shown last to the most frequent of all words. -/
theorem Shows.promises (h : c.Shows shown ws) (hpos : ∀ entry ∈ entries, 0 < entry.2.toInt)
    (hbound : ∀ word, ((ws ++ entries.words).count word : Int) ≤ int32Max) :
    Worker.Promises link (entries.map Tally.tuple) (fun given => ∃ k : Tally, k.Proper ∧
      k.words.Perm (ws ++ entries.words) ∧ replay (shown.map Tally.tuple).toFinset given =
        some ((k.top c.limit).map Tally.tuple).toFinset) (StandardWorker.cloud c) := by
  induction entries generalizing c shown ws with
  | nil =>
    intro time
    obtain ⟨given, c', hmade, hleads⟩ := h.exists_process_exhausted time link
    refine ⟨given, .cloud c', ?_, c.counts.entries, h.proper, by simpa using h.perm,
      hleads.replay_eq⟩
    rw [process_cloud, hmade]
  | cons entry entries ih =>
    intro time
    obtain ⟨hentry, hrest⟩ := List.forall_mem_cons.mp hpos
    obtain ⟨given, shown', c', hmade, hlimit, htally, hdisplays, hleads, -⟩ :=
      h.exists_process_tuple (carries_tuple entry) time link
    have hword : (c.counts.entries.words.count entry.1 : Int) + entry.2.toInt ≤ int32Max := by
      have hword := hbound entry.1
      simp only [List.count_append, Tally.words_cons, List.count_replicate_self] at hword
      rw [h.perm.count_eq]
      omega
    have hshows : c'.Shows shown' (ws ++ Tally.words [entry]) := by
      refine ⟨hdisplays, htally ▸ h.proper.add hentry hword, ?_⟩
      rw [htally]
      refine (Tally.perm_words_add h.proper.pos hentry hword).trans ?_
      simpa using h.perm.append_right _
    refine ⟨given, .cloud c', by rw [process_cloud, hmade], ?_⟩
    refine (ih hshows hrest fun word => ?_).imp ?_
    · have hword := hbound word
      simp only [List.count_append, Tally.words_cons, Tally.words_nil, List.append_nil]
        at hword ⊢
      omega
    · rintro rest ⟨k, hproper, hperm, hlast⟩
      refine ⟨k, hproper, hperm.trans (.of_eq (by simp)), ?_⟩
      rw [replay_append, hleads.replay_eq, Option.bind_some, hlast, hlimit]

end WordCloud

end Dataflow
