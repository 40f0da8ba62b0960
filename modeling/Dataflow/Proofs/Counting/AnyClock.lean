import Dataflow.Proofs.Counting.Cloud
import Dataflow.Proofs.Counting.Ranking
import Dataflow.Proofs.Executor.Join

/-!
# Word clouds show rankings, whatever the clock says

The clock decides when a word cloud gives changes, but not what they lead to in the end. Up to any
call they lead to the first words of the ranking of some of the counts that came in first, and after
the end to those of the ranking of all counts.
-/

namespace Dataflow

namespace WordCloud

variable {c : WordCloud} {shown seen entries : Tally} {calls : List (Nat × Input)} {link : Link}

/-- A call brings a word and its count. -/
def Brings (call : Nat × Input) (entry : String × Int32) : Prop :=
  ∃ t link, call.2 = .tuple t link ∧ Carries t entry

lemma brings_tuple (now : Nat) (entry : String × Int32) (link : Link) :
    Brings (now, .tuple (Tally.tuple entry) link) entry :=
  ⟨_, _, rfl, carries_tuple entry⟩

/-- The words with the greatest sums, as tuples. -/
def board (limit : Nat) (entries : Tally) : Finset Tuple :=
  (((Tally.totals entries).top limit).map Tally.tuple).toFinset

lemma run_cons {call : Nat × Input} {given : List Tuple} {c' c'' : WordCloud}
    {outputs : List (List Tuple)} (hmade : c.process call.1 call.2 = (.ok given, c'))
    (hrun : Worker.run calls c' = (outputs.map .ok, c'')) :
    Worker.run (call :: calls) c = ((given :: outputs).map .ok, c'') := by
  change ((c.process call.1 call.2).1 :: (Worker.run calls (c.process call.1 call.2).2).1,
    (Worker.run calls (c.process call.1 call.2).2).2) = _
  rw [hmade, hrun]
  rfl

/-- A word cloud has shown the ranking of some of the counts that came in first. -/
structure Ranked (c : WordCloud) (seen shown : Tally) : Prop extends c.Displays shown where
  tally_eq : c.counts.entries = Tally.totals seen
  shown_eq : ∃ m ≤ seen.length, shown = (Tally.totals (seen.take m)).top c.limit

/-- A word cloud that takes in a count still shows the ranking of some of the first counts. -/
lemma Ranked.exists_process_tuple {call : Nat × Input} {entry : String × Int32}
    (h : c.Ranked seen shown) (hcall : Brings call entry) :
    ∃ given shown' c', c.process call.1 call.2 = (.ok given, c') ∧ c'.limit = c.limit ∧
      c'.Ranked (seen ++ [entry]) shown' ∧
      Leads (shown.map Tally.tuple).toFinset given (shown'.map Tally.tuple).toFinset := by
  obtain ⟨t, link, hinput, hcarries⟩ := hcall
  obtain ⟨given, shown', c', hmade, hlimit, htally, hdisplays, hleads, hshown⟩ :=
    h.toDisplays.exists_process_tuple hcarries call.1 link
  have htotals : c'.counts.entries = Tally.totals (seen ++ [entry]) := by
    rw [htally, h.tally_eq, Tally.add_totals]
  refine ⟨given, shown', c', hinput ▸ hmade, hlimit, ⟨hdisplays, htotals, ?_⟩, hleads⟩
  rcases hshown with rfl | rfl
  · obtain ⟨m, hm, rfl⟩ := h.shown_eq
    refine ⟨m, by simpa using Nat.le_succ_of_le hm, ?_⟩
    rw [List.take_append_of_le_length hm, hlimit]
  · exact ⟨_, Nat.le_refl _, by rw [List.take_length, htotals, hlimit]⟩

lemma Ranked.exists_board_eq (h : c.Ranked seen shown) (entries : Tally) :
    ∃ m ≤ seen.length,
      (shown.map Tally.tuple).toFinset = board c.limit ((seen ++ entries).take m) := by
  obtain ⟨m, hm, rfl⟩ := h.shown_eq
  exact ⟨m, hm, by rw [List.take_append_of_le_length hm, board]⟩

/-- What is shown up to any call, and after the end. -/
lemma Ranked.exists_run (h : c.Ranked seen shown) (hcalls : List.Forall₂ Brings calls entries)
    (last : Nat) (link : Link) :
    ∃ (outputs : List (List Tuple)) (c' : WordCloud),
      Worker.run (calls ++ [(last, .exhausted link)]) c = (outputs.map .ok, c') ∧
      (∀ n ≤ calls.length, ∃ m ≤ seen.length + n,
        Leads (shown.map Tally.tuple).toFinset (outputs.take n).flatten
          (board c.limit ((seen ++ entries).take m))) ∧
      Leads (shown.map Tally.tuple).toFinset outputs.flatten
        (board c.limit (seen ++ entries)) := by
  induction hcalls generalizing c seen shown with
  | nil =>
    obtain ⟨given, c', hmade, hleads⟩ := h.exists_process_exhausted last link
    rw [h.tally_eq] at hleads
    refine ⟨[given], c', ?_, fun n hn => ?_, by simpa [board] using hleads⟩
    · exact run_cons hmade rfl
    · obtain rfl := Nat.le_zero.mp hn
      obtain ⟨m, hm, hboard⟩ := h.exists_board_eq []
      exact ⟨m, hm, hboard ▸ .nil _⟩
  | @cons call entry calls entries hcall _ ih =>
    obtain ⟨given, shown', c', hmade, hlimit, hranked, hleads⟩ := h.exists_process_tuple hcall
    obtain ⟨outputs, c'', hrun, hcalls, hend⟩ := ih hranked
    rw [hlimit, List.append_assoc] at hend
    refine ⟨given :: outputs, c'', ?_, fun n hn => ?_, hleads.append hend⟩
    · exact run_cons hmade hrun
    · cases n with
      | zero =>
        obtain ⟨m, hm, hboard⟩ := h.exists_board_eq (entry :: entries)
        exact ⟨m, hm, hboard ▸ .nil _⟩
      | succ n =>
        obtain ⟨m, hm, hn⟩ := hcalls n (Nat.le_of_succ_le_succ hn)
        rw [hlimit, List.append_assoc] at hn
        refine ⟨m, ?_, hleads.append hn⟩
        rw [List.length_append, List.length_singleton] at hm
        omega

/-- Doing what changes say gives the first words of the ranking of some counts. Each of the changes
matters. -/
def ShowsRanking (limit : Nat) (entries : Tally) (changes : List Tuple) : Prop :=
  ∃ r, (∀ r', Tally.Ranks entries r' ↔ r' = r) ∧
    replay ∅ changes = some ((r.take limit).map Tally.tuple).toFinset ∧
    Leads ∅ changes ((r.take limit).map Tally.tuple).toFinset

lemma showsRanking_of_leads {limit : Nat} {changes : List Tuple}
    (h : Leads ∅ changes (board limit entries)) : ShowsRanking limit entries changes :=
  ⟨Tally.ranking entries, fun _ => Tally.ranks_iff, h.replay_eq, h⟩

/-- **What a word cloud shows in the end does not depend on the clock.** Whatever counts come in for
whatever words, be they negative, and whatever the times and the interval are, no call fails. What
the changes lead to after all calls are the words with the greatest sums, of equal sums those that
came in first; and after any number of calls it is what they lead to if only some of the counts that
came in first are there. -/
theorem run_shows_ranking (limit interval : Nat) (hcalls : List.Forall₂ Brings calls entries)
    (last : Nat) (link : Link) :
    ∃ (outputs : List (List Tuple)) (c : WordCloud),
      Worker.run (calls ++ [(last, .exhausted link)])
        ({ limit, tracker := { interval } } : WordCloud) = (outputs.map .ok, c) ∧
      (∀ n ≤ calls.length, ∃ m ≤ n,
        ShowsRanking limit (entries.take m) (outputs.take n).flatten) ∧
      ShowsRanking limit entries outputs.flatten := by
  have hranked : Ranked { limit, tracker := { interval } } [] [] :=
    ⟨displays_nil limit interval, rfl, 0, Nat.le_refl _, by simp [Tally.totals, Tally.top]⟩
  obtain ⟨outputs, c, hrun, hsome, hall⟩ := hranked.exists_run hcalls last link
  refine ⟨outputs, c, hrun, fun n hn => ?_, showsRanking_of_leads hall⟩
  obtain ⟨m, hm, hleads⟩ := hsome n hn
  exact ⟨m, by simpa using hm, showsRanking_of_leads hleads⟩

/-- Counts of words; some of them are negative. -/
def tides : Tally :=
  [("ebb", 2), ("flow", 5), ("tide", 3), ("neap", -4), ("flow", -3), ("ebb", 1)]

/-- The counts at times between which the clock is turned back. -/
def tideCalls : List (Nat × Input) :=
  [100, 90, 400, 401, 20, 30].zipWith
    (fun now entry => (now, .tuple (Tally.tuple entry) ⟨"count", "cloud"⟩)) tides

lemma ranks_tides : Tally.Ranks tides [("ebb", 3), ("tide", 3), ("flow", 2), ("neap", -4)] where
  mem_iff entry := by
    have hperm :
        [("ebb", 3), ("tide", 3), ("flow", 2), ("neap", -4)].Perm (Tally.totals tides) := by
      decide
    exact hperm.mem_iff.trans Tally.mem_totals_iff
  pairwise := by decide

/-- The words that were ahead for a while are taken out again. -/
theorem tides_show_ranking : ∃ (outputs : List (List Tuple)) (c : WordCloud),
    Worker.run (tideCalls ++ [(7, .exhausted ⟨"count", "cloud"⟩)])
      ({ limit := 2, tracker := { interval := 250 } } : WordCloud) = (outputs.map .ok, c) ∧
    replay ∅ outputs.flatten = some {Tally.tuple ("ebb", 3), Tally.tuple ("tide", 3)} := by
  have hcalls : List.Forall₂ Brings tideCalls tides := by
    simp [tideCalls, tides, brings_tuple]
  obtain ⟨outputs, c, hrun, -, r, hr, hreplay, -⟩ :=
    run_shows_ranking 2 250 hcalls 7 ⟨"count", "cloud"⟩
  obtain rfl := (hr _).mp ranks_tides
  exact ⟨outputs, c, hrun, hreplay⟩

end WordCloud

end Dataflow
