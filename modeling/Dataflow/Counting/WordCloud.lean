import Dataflow.Counting.Tally
import Dataflow.Delta.Tracker
import Dataflow.Executor.Basic

/-!
# Word clouds

A word cloud adds up counts of words and keeps the words with the greatest counts. It gives out
the changes of this list.
-/

namespace Dataflow

/-- A word cloud. -/
structure WordCloud where
  limit : Nat
  tracker : Tracker
  counts : IndexedTally := .empty

namespace WordCloud

/-- The list of words as tuples. -/
def snapshot (counts : IndexedTally) (limit : Nat) : Result (List Tuple) :=
  (counts.entries.top limit).mapM (Tally.row wordCountSchema)

/-- The word cloud with one more count. -/
def count (c : WordCloud) (t : Tuple) : Result WordCloud := do
  let word ← t.getText wordName
  let n ← t.getInteger countName
  return { c with counts := c.counts.add word n, tracker := c.tracker.record }

/-- Gives out a change, if there is one. -/
def give (c : WordCloud) : Result (Option Delta × Tracker) → Result (List Tuple) × WordCloud
  | .ok (some delta, tracker) => (delta.flagged, { c with tracker := tracker })
  | .ok (none, tracker) => (.ok [], { c with tracker := tracker })
  | .error e => (.error e, c)

/-- Takes something in. -/
def process (now : Nat) (input : Input) (c : WordCloud) : Result (List Tuple) × WordCloud :=
  match input with
  | .tuple t _ =>
    match c.count t with
    | .ok c => c.give (c.tracker.onInput now fun _ => snapshot c.counts c.limit)
    | .error e => (.error e, c)
  | .exhausted _ => c.give (c.tracker.onEnd now fun _ => snapshot c.counts c.limit)

instance : Worker WordCloud where
  start c := (.ok (), c)
  process := process
  stop c := (.ok (), { c with counts := .empty })

end WordCloud

end Dataflow
