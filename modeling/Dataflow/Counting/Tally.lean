import Dataflow.Operator
import Dataflow.Text.Integer
import Dataflow.Text.Token

/-!
# Tallies of words

A tally counts words in the order in which they were first seen, and an index tells where each word
stands. Counts have 32 bits and stay at their bounds.
-/

namespace Dataflow

/-- The sum of two 32-bit integers, or the bound that it passes. -/
def saturatingAdd (a b : Int32) : Int32 :=
  .ofInt (max int32Min (min int32Max (a.toInt + b.toInt)))

/-- Words with their counts, in the order in which they were first seen. -/
abbrev Tally : Type :=
  List (String × Int32)

namespace Tally

/-- The tuple of a word and its count. -/
def row (schema : Schema) (entry : String × Int32) : Result Tuple :=
  Tuple.bind schema [.string entry.1, .integer entry.2]

/-- The words with the greatest counts, the greatest first; of equal counts, the word seen first
comes first. -/
def top (k : Tally) (limit : Nat) : Tally :=
  (k.mergeSort fun a b => b.2 ≤ a.2).take limit

end Tally

/-- A tally with an index of its words. The index is a map, given by its pairs. -/
structure IndexedTally where
  index : List (String × Nat)
  entries : Tally
  /-- The index has the words of the entries, each with its place, and no others. -/
  inStep : ∀ word, index.lookup word = (entries.map Prod.fst).idxOf? word

namespace IndexedTally

variable {k : IndexedTally} {word : String} {place : Nat}

/-- The index leads to the entry of the word. -/
theorem exists_of_lookup (h : k.index.lookup word = some place) :
    ∃ hlt : place < k.entries.length, k.entries[place].1 = word := by
  rw [k.inStep, List.idxOf?, List.findIdx?_eq_some_iff_getElem] at h
  obtain ⟨hlt, hword, -⟩ := h
  rw [List.length_map] at hlt
  exact ⟨hlt, by simpa using hword⟩

/-- A new count does not change the words. -/
theorem map_fst_set {entries : Tally} (hlt : place < entries.length) (n : Int32) :
    (entries.set place (entries[place].1, n)).map Prod.fst = entries.map Prod.fst := by
  rw [List.map_set]
  refine List.ext_getElem (by simp) fun i _ _ => ?_
  rw [List.getElem_set]
  split
  · next heq => simp [heq]
  · rfl

/-- A word that is not there gets the next place. -/
theorem lookup_cons (h : k.index.lookup word = none) (n : Int32) (other : String) :
    List.lookup other ((word, k.entries.length) :: k.index) =
      ((k.entries ++ [(word, n)]).map Prod.fst).idxOf? other := by
  rw [k.inStep, List.idxOf?] at h
  rw [List.map_append, List.idxOf?, List.findIdx?_append, ← List.idxOf?, ← k.inStep, List.lookup_cons]
  by_cases heq : other = word
  · subst heq
    rw [k.inStep, List.idxOf?, h]
    simp
  · rw [beq_false_of_ne heq]
    simp [Ne.symm heq]

/-- The tally without words. -/
def empty : IndexedTally :=
  ⟨[], [], fun _ => rfl⟩

/-- The tally with a count added to a word. -/
def add (k : IndexedTally) (word : String) (n : Int32) : IndexedTally :=
  match h : k.index.lookup word with
  | some place =>
    have hlt := (exists_of_lookup h).1
    { k with
      entries := k.entries.set place (k.entries[place].1, saturatingAdd k.entries[place].2 n)
      inStep := fun other => by rw [map_fst_set hlt, k.inStep] }
  | none =>
    { index := (word, k.entries.length) :: k.index
      entries := k.entries ++ [(word, n)]
      inStep := lookup_cons h n }

/-- The tally with each word of a list counted once more. -/
def addAll (k : IndexedTally) (words : List String) : IndexedTally :=
  words.foldl (fun k word => k.add word 1) k

end IndexedTally

/-- Words too common to be counted. -/
def stopWords : List String :=
  ["a", "an", "and", "are", "as", "at", "be", "but", "by", "for", "if", "in", "into", "is", "it",
    "no", "not", "of", "on", "or", "such", "that", "the", "their", "then", "there", "these",
    "they", "this", "to", "was", "will", "with"]

/-- The words of a text that are counted. -/
def countedWords (text : String) : List String :=
  (terms text).filter fun term => !stopWords.contains term

end Dataflow
