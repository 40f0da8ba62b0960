import Dataflow.Proofs.Executor.Rows

/-!
# Counters of words

A counter of words takes every tuple with a textual attribute and gives words with their counts. A
word cloud takes every tuple that has a word and a count, and gives the changes of its list of
words.
-/

namespace Dataflow

namespace Tally

/-- A word with its count as a tuple. -/
def tuple (entry : String × Int32) : Tuple :=
  ⟨wordCountSchema, [.string entry.1, .integer entry.2], rfl⟩

/-- A word with its count that joins or leaves a list, as a tuple. -/
def change (insertion : Bool) (entry : String × Int32) : Tuple :=
  ⟨wordCloudSchema, [.boolean insertion, .string entry.1, .integer entry.2], rfl⟩

/-- The changes from one list of words to another. -/
def changes (old new : Tally) : List Tuple :=
  (old.filter (· ∉ new)).map (change false) ++ (new.filter (· ∉ old)).map (change true)

lemma tuple_injective : Function.Injective tuple := by
  rintro ⟨word, n⟩ ⟨word', n'⟩ h
  cases h
  rfl

lemma mapM_row (k : Tally) : k.mapM (row wordCountSchema) = .ok (k.map tuple) := by
  refine mapM_eq_ok_iff.mpr ?_
  rw [List.forall₂_map_right_iff, List.forall₂_same]
  exact fun _ _ => rfl

lemma mapM_flag (insertion : Bool) (k : Tally) :
    (k.map tuple).mapM (Tuple.flag insertion) = .ok (k.map (change insertion)) := by
  refine mapM_eq_ok_iff.mpr ?_
  rw [List.forall₂_map_left_iff, List.forall₂_map_right_iff, List.forall₂_same]
  exact fun _ _ => rfl

lemma flagged_between (old new : Tally) :
    (Delta.between (old.map tuple) (new.map tuple)).flagged = .ok (changes old new) := by
  have hfilter (k k' : Tally) :
      (k.map tuple).filter (· ∉ k'.map tuple) = (k.filter (· ∉ k')).map tuple := by
    rw [List.filter_map]
    congr 1
    exact List.filter_congr fun entry _ => by
      simp [tuple_injective.eq_iff]
  simp only [Delta.flagged, Delta.between, hfilter, mapM_flag]
  rfl

lemma schema_of_mem_changes {old new : Tally} {x : Tuple} (h : x ∈ changes old new) :
    x.schema = wordCloudSchema := by
  rcases List.mem_append.mp h with h | h
  all_goals
    obtain ⟨entry, -, rfl⟩ := List.mem_map.mp h
    rfl

end Tally

/-- The words of a value that are counted. -/
def Field.words (value : Field) : List String :=
  match value.text? with
  | some s => countedWords s
  | none => []

namespace WordCount

variable {w : WordCount} {t : Tuple} {own : Attribute}

lemma count_eq (h : t.schema.attribute? w.column = some own) (htype : own.type.isTextual = true) :
    w.count t = .ok { w with
      counts := w.counts.addAll (t.schema.value t.fields w.column).words,
      taken := w.taken + 1 } := by
  rw [count, Tuple.getText?_eq h htype]
  rfl

lemma flush_eq (h : w.schema = wordCountSchema) :
    w.flush =
      (.ok (w.counts.entries.map Tally.tuple), { w with taken := 0, counts := .empty }) := by
  rw [flush, h, Tally.mapM_row]

end WordCount

namespace WordCloud

variable {c : WordCloud} {t : Tuple} {word count : Attribute}

lemma string_or_null {value : Field} (h : value.fits .string = true) :
    value = .null ∨ ∃ s, value = .string s := by
  cases value <;> simp_all [Field.fits, Field.type?]

lemma integer_or_null {value : Field} (h : value.fits .integer = true) :
    value = .null ∨ ∃ n, value = .integer n := by
  cases value <;> simp_all [Field.fits, Field.type?]

/-- A word cloud takes every tuple that has a word and a count. -/
lemma count_spec (c : WordCloud) (hword : t.schema.attribute? wordName = some word)
    (hstring : word.type = .string) (hcount : t.schema.attribute? countName = some count)
    (hinteger : count.type = .integer) :
    match c.count t with
    | .ok c' => ∃ entry : String × Int32, t.schema.value t.fields wordName = .string entry.1 ∧
        t.schema.value t.fields countName = .integer entry.2 ∧
        c' = { c with counts := c.counts.add entry.1 entry.2, tracker := c.tracker.record }
    | .error e =>
        (t.schema.value t.fields wordName = .null ∧
          e = .fieldType wordName "STRING or TEXT" "NULL") ∨
        (t.schema.value t.fields countName = .null ∧
          e = .fieldType countName "INTEGER" "NULL") := by
  have hfits := Schema.fits_value hword
  have hfits' := Schema.fits_value hcount
  rw [hstring] at hfits
  rw [hinteger] at hfits'
  simp only [WordCloud.count, Tuple.getText, Tuple.getInteger, Tuple.fieldAs, Tuple.field_eq hword,
    Tuple.field_eq hcount]
  rcases string_or_null hfits with hnull | ⟨s, hs⟩
  · rw [hnull]
    exact .inl ⟨rfl, rfl⟩
  rcases integer_or_null hfits' with hnull | ⟨n, hn⟩
  · rw [hs, hnull]
    exact .inr ⟨rfl, rfl⟩
  · rw [hs, hn]
    exact ⟨(s, n), rfl, rfl, rfl⟩

/-- A snapshot that is wanted gives the changes from the last one to the words of now. -/
lemma give_updateIf {shown : Tally} (h : c.tracker.previous = shown.map Tally.tuple) (wanted : Bool)
    (now : Nat) :
    c.give (c.tracker.updateIf wanted now fun _ => snapshot c.counts c.limit) =
      if wanted then (.ok (Tally.changes shown (c.counts.entries.top c.limit)),
        { c with tracker :=
            ⟨(c.counts.entries.top c.limit).map Tally.tuple, c.tracker.interval, some now, 0⟩ })
      else (.ok [], c) := by
  rw [Tracker.updateIf, snapshot, Tally.mapM_row]
  cases wanted with
  | false => rfl
  | true =>
    rw [if_pos rfl, if_pos rfl, ← Tally.flagged_between, ← h]
    rfl

end WordCloud

end Dataflow
