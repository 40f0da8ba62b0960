import Dataflow.Counting.Tally
import Dataflow.Executor.Basic

/-!
# Counting words in batches

A counter of words takes in a batch of tuples and then gives out how often each word occurred in
the batch. At the end it gives out what the last batch has.
-/

namespace Dataflow

/-- A counter of words. -/
structure WordCount where
  column : String
  /-- The number of tuples in a batch, which counts as one if it is zero. -/
  batchSize : Nat
  schema : Schema
  taken : Nat := 0
  counts : IndexedTally := .empty

namespace WordCount

/-- Gives out the counts and begins a new batch; if that fails, the batch stays. -/
def flush (w : WordCount) : Result (List Tuple) × WordCount :=
  match w.counts.entries.mapM (Tally.row w.schema) with
  | .ok rows => (.ok rows, { w with taken := 0, counts := .empty })
  | .error e => (.error e, w)

/-- The counter after one more tuple in its batch. -/
def count (w : WordCount) (t : Tuple) : Result WordCount := do
  let words := match ← t.getText? w.column with
    | some text => countedWords text
    | none => []
  return { w with counts := w.counts.addAll words, taken := w.taken + 1 }

/-- Takes something in. -/
def process (_now : Nat) (input : Input) (w : WordCount) : Result (List Tuple) × WordCount :=
  match input with
  | .tuple t _ =>
    match w.count t with
    | .ok w => if max w.batchSize 1 ≤ w.taken then w.flush else (.ok [], w)
    | .error e => (.error e, w)
  | .exhausted _ => w.flush

instance : Worker WordCount where
  start w := (.ok (), w)
  process := process
  stop w := (.ok (), w)

end WordCount

end Dataflow
