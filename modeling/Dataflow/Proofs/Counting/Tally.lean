import Mathlib.Tactic
import Dataflow.Counting.Tally

/-!
# Tallies count words

A tally stands for the words that it counts, each as often as its count says. As long as no count
passes its bound, adding to a tally adds to these words, in whatever order. The greatest counts
are those of the words that occur most often.
-/

namespace Dataflow

lemma toInt_saturatingAdd {a b : Int32} (ha : 0 ≤ a.toInt) (hb : 0 ≤ b.toInt)
    (hle : a.toInt + b.toInt ≤ int32Max) : (saturatingAdd a b).toInt = a.toInt + b.toInt := by
  have hmin : int32Min ≤ a.toInt + b.toInt := by
    simp only [int32Min]
    omega
  rw [saturatingAdd, min_eq_right hle, max_eq_right hmin]
  simp only [int32Max] at hle
  apply Int32.toInt_ofInt_of_le
  · omega
  · omega

namespace Tally

/-- The tally with a count added to a word, which is looked for from the first entry on. -/
def add (word : String) (n : Int32) : Tally → Tally
  | [] => [(word, n)]
  | (other, count) :: rest =>
    if other = word then (other, saturatingAdd count n) :: rest
    else (other, count) :: add word n rest

/-- The tally with each word of a list counted once more. -/
def addAll (k : Tally) (words : List String) : Tally :=
  words.foldl (fun k word => add word 1 k) k

variable {k : Tally} {word other : String} {n : Int32}

/-- The words that a tally counts. -/
def words (k : Tally) : List String :=
  k.flatMap fun entry => List.replicate entry.2.toInt.toNat entry.1

/-- Every word stands only once in a tally, and its count is positive. -/
structure Proper (k : Tally) : Prop where
  nodup : (k.map Prod.fst).Nodup
  pos : ∀ entry ∈ k, 0 < entry.2.toInt

@[simp] lemma words_nil : words [] = [] :=
  rfl

@[simp] lemma words_cons (entry : String × Int32) (k : Tally) :
    words (entry :: k) = List.replicate entry.2.toInt.toNat entry.1 ++ words k := by
  simp [words]

@[simp] lemma words_append (k k' : Tally) : words (k ++ k') = words k ++ words k' := by
  simp [words]

lemma proper_nil : Proper [] :=
  ⟨List.nodup_nil, nofun⟩

lemma add_eq_set {place : Nat} (h : (k.map Prod.fst).idxOf? word = some place) (n : Int32) :
    ∃ hlt : place < k.length,
      k.add word n = k.set place (k[place].1, saturatingAdd k[place].2 n) := by
  induction k generalizing place with
  | nil => cases h
  | cons entry k ih =>
    obtain ⟨other, count⟩ := entry
    rw [List.map_cons, List.idxOf?_cons] at h
    by_cases heq : other = word
    · obtain rfl : place = 0 := by simpa [heq] using h.symm
      exact ⟨Nat.zero_lt_succ _, by simp [add, heq]⟩
    · obtain ⟨before, hbefore, rfl⟩ : ∃ before, (k.map Prod.fst).idxOf? word = some before ∧
          before + 1 = place := by
        simpa [heq] using h
      obtain ⟨hlt, hadd⟩ := ih hbefore
      exact ⟨Nat.succ_lt_succ hlt, by simp [add, heq, hadd]⟩

lemma add_eq_append (h : (k.map Prod.fst).idxOf? word = none) (n : Int32) :
    k.add word n = k ++ [(word, n)] := by
  induction k with
  | nil => rfl
  | cons entry k ih =>
    obtain ⟨other, count⟩ := entry
    rw [List.map_cons, List.idxOf?_cons] at h
    by_cases heq : other = word
    · simp [heq] at h
    · rw [add, if_neg heq, ih (by simpa [heq] using h), List.cons_append]

end Tally

namespace IndexedTally

@[simp] lemma entries_empty : empty.entries = [] :=
  rfl

@[simp] lemma entries_add (k : IndexedTally) (word : String) (n : Int32) :
    (k.add word n).entries = k.entries.add word n := by
  unfold add
  split
  · next place h =>
    obtain ⟨_, hadd⟩ := Tally.add_eq_set (k.inStep word ▸ h) n
    exact hadd.symm
  · next h => exact (Tally.add_eq_append (k.inStep word ▸ h) n).symm

@[simp] lemma entries_addAll (k : IndexedTally) (words : List String) :
    (k.addAll words).entries = k.entries.addAll words := by
  induction words generalizing k with
  | nil => rfl
  | cons word words ih => exact (ih _).trans (by rw [entries_add]; rfl)

end IndexedTally

namespace Tally

variable {k : Tally} {word other : String} {n : Int32}

/-- A word that is added is put behind the others unless it is there. -/
lemma map_fst_add : (add word n k).map Prod.fst =
    if word ∈ k.map Prod.fst then k.map Prod.fst else k.map Prod.fst ++ [word] := by
  induction k with
  | nil => simp [add]
  | cons entry k ih =>
    obtain ⟨other, count⟩ := entry
    by_cases h : other = word
    · simp [add, h]
    · rw [add, if_neg h, List.map_cons, ih]
      simp only [List.map_cons, List.mem_cons, Ne.symm h, false_or]
      split_ifs
      · rfl
      · rfl

/-- What is added to a tally is counted along with the rest. -/
lemma perm_words_add (hpos : ∀ entry ∈ k, 0 < entry.2.toInt) (hn : 0 < n.toInt)
    (hle : (k.words.count word : Int) + n.toInt ≤ int32Max) :
    (words (add word n k)).Perm (k.words ++ List.replicate n.toInt.toNat word) := by
  induction k with
  | nil => simp [add]
  | cons entry k ih =>
    obtain ⟨other, count⟩ := entry
    obtain ⟨hcount, hrest⟩ := List.forall_mem_cons.mp hpos
    rw [words_cons, List.count_append] at hle
    dsimp only at hcount hle
    by_cases h : other = word
    · subst h
      rw [List.count_replicate_self] at hle
      have hsum : (saturatingAdd count n).toInt = count.toInt + n.toInt := by
        apply toInt_saturatingAdd
        · exact hcount.le
        · exact hn.le
        · omega
      have hnat : (saturatingAdd count n).toInt.toNat = count.toInt.toNat + n.toInt.toNat := by
        omega
      rw [add, if_pos rfl, words_cons, words_cons, hnat, List.replicate_add, List.append_assoc,
        List.append_assoc]
      exact List.perm_append_comm.append_left _
    · rw [add, if_neg h, words_cons, words_cons, List.append_assoc]
      apply List.Perm.append_left
      apply ih hrest
      omega

lemma pos_of_mem_add (hpos : ∀ entry ∈ k, 0 < entry.2.toInt) (hn : 0 < n.toInt)
    (hle : (k.words.count word : Int) + n.toInt ≤ int32Max) :
    ∀ entry ∈ add word n k, 0 < entry.2.toInt := by
  induction k with
  | nil => simpa [add] using hn
  | cons entry k ih =>
    obtain ⟨other, count⟩ := entry
    obtain ⟨hcount, hrest⟩ := List.forall_mem_cons.mp hpos
    rw [words_cons, List.count_append] at hle
    dsimp only at hcount hle
    by_cases h : other = word
    · subst h
      rw [List.count_replicate_self] at hle
      rw [add, if_pos rfl]
      refine List.forall_mem_cons.mpr ⟨?_, hrest⟩
      have hsum := toInt_saturatingAdd hcount.le hn.le (by omega)
      change 0 < (saturatingAdd count n).toInt
      omega
    · rw [add, if_neg h]
      refine List.forall_mem_cons.mpr ⟨hcount, ?_⟩
      apply ih hrest
      omega

lemma nodup_map_fst_add (h : (k.map Prod.fst).Nodup) : ((k.add word n).map Prod.fst).Nodup := by
  rw [map_fst_add]
  split_ifs with hmem
  · exact h
  · refine List.nodup_append.mpr ⟨h, List.nodup_singleton word, fun x hx y hy => ?_⟩
    rw [List.mem_singleton.mp hy]
    exact fun heq => hmem (heq ▸ hx)

lemma Proper.add (h : k.Proper) (hn : 0 < n.toInt)
    (hle : (k.words.count word : Int) + n.toInt ≤ int32Max) : (k.add word n).Proper where
  nodup := nodup_map_fst_add h.nodup
  pos := pos_of_mem_add h.pos hn hle

/-- Words that are added one by one are counted along with the rest. -/
lemma Proper.addAll (h : k.Proper) {ws : List String}
    (hle : ∀ word, ((k.words ++ ws).count word : Int) ≤ int32Max) :
    (k.addAll ws).Proper ∧ (k.addAll ws).words.Perm (k.words ++ ws) := by
  induction ws generalizing k with
  | nil => exact ⟨h, by simp [Tally.addAll]⟩
  | cons word ws ih =>
    have hbound : (k.words.count word : Int) + (1 : Int32).toInt ≤ int32Max := by
      have hone : (1 : Int32).toInt = 1 := rfl
      have hword := hle word
      rw [List.count_append, List.count_cons_self] at hword
      omega
    have hproper : (k.add word 1).Proper := h.add (by decide) hbound
    have hperm : (k.add word 1).words.Perm (k.words ++ [word]) :=
      perm_words_add h.pos (by decide) hbound
    have hall : ((k.add word 1).words ++ ws).Perm (k.words ++ word :: ws) := by
      simpa using hperm.append_right ws
    obtain ⟨hproper', hperm'⟩ := ih hproper fun other => by
      rw [hall.count_eq]
      exact hle other
    exact ⟨hproper', hperm'.trans hall⟩

/-- The count of a word says how often it occurs. -/
lemma Proper.toInt_eq (h : k.Proper) {entry : String × Int32} (hmem : entry ∈ k) :
    entry.2.toInt = k.words.count entry.1 := by
  induction k with
  | nil => cases hmem
  | cons first k ih =>
    obtain ⟨hnot, hnodup⟩ := List.nodup_cons.mp h.nodup
    obtain ⟨hfirst, hpos⟩ := List.forall_mem_cons.mp h.pos
    rw [words_cons, List.count_append]
    rcases List.mem_cons.mp hmem with rfl | hmem
    · have hzero : (words k).count entry.1 = 0 := by
        rw [List.count_eq_zero]
        intro hword
        obtain ⟨other, hother, hword⟩ := List.mem_flatMap.mp hword
        rw [List.eq_of_mem_replicate hword] at hnot
        exact hnot (List.mem_map_of_mem hother)
      rw [List.count_replicate_self, hzero]
      omega
    · have hne : first.1 ≠ entry.1 := fun heq => hnot (heq ▸ List.mem_map_of_mem hmem)
      rw [List.count_replicate, if_neg (by simpa using hne), Nat.zero_add]
      exact ih ⟨hnodup, hpos⟩ hmem

lemma Proper.mem_words_iff (h : k.Proper) : word ∈ k.words ↔ word ∈ k.map Prod.fst := by
  constructor
  · intro hword
    obtain ⟨entry, hentry, hword⟩ := List.mem_flatMap.mp hword
    rw [List.eq_of_mem_replicate hword]
    exact List.mem_map_of_mem hentry
  · intro hword
    obtain ⟨entry, hentry, rfl⟩ := List.mem_map.mp hword
    rw [← List.count_pos_iff]
    have hpos := h.pos entry hentry
    rw [h.toInt_eq hentry] at hpos
    omega

lemma Proper.length_eq (h : k.Proper) : k.length = k.words.dedup.length := by
  rw [← List.length_map Prod.fst]
  apply List.Perm.length_eq
  rw [List.perm_ext_iff_of_nodup h.nodup (List.nodup_dedup _)]
  intro word
  rw [List.mem_dedup, h.mem_words_iff]

lemma length_top (k : Tally) (limit : Nat) : (k.top limit).length = min limit k.length := by
  simp [top]

lemma top_subset (k : Tally) (limit : Nat) : k.top limit ⊆ k :=
  fun _ hentry => (List.mergeSort_perm k _).mem_iff.mp (List.mem_of_mem_take hentry)

lemma nodup_top (h : (k.map Prod.fst).Nodup) (limit : Nat) :
    ((k.top limit).map Prod.fst).Nodup := by
  have hsublist := (List.take_sublist limit (k.mergeSort fun a b => b.2 ≤ a.2)).map Prod.fst
  refine hsublist.nodup ?_
  exact ((List.mergeSort_perm k _).map Prod.fst).nodup_iff.mpr h

lemma Proper.top (h : k.Proper) (limit : Nat) : (k.top limit).Proper where
  nodup := nodup_top h.nodup limit
  pos := fun entry hentry => h.pos entry (top_subset k limit hentry)

lemma greater_trans (a b c : String × Int32) (hab : decide (b.2 ≤ a.2) = true)
    (hbc : decide (c.2 ≤ b.2) = true) : decide (c.2 ≤ a.2) = true := by
  rw [decide_eq_true_eq] at hab hbc ⊢
  exact Int32.le_trans hbc hab

lemma greater_total (a b : String × Int32) : (decide (b.2 ≤ a.2) || decide (a.2 ≤ b.2)) = true := by
  simpa using Int32.le_total b.2 a.2

lemma le_of_not_mem_top {limit : Nat} {kept left : String × Int32} (hkept : kept ∈ k.top limit)
    (hleft : left ∈ k) (hnot : left ∉ k.top limit) : left.2 ≤ kept.2 := by
  have hsorted : (k.mergeSort fun a b => b.2 ≤ a.2).Pairwise fun a b => b.2 ≤ a.2 := by
    simpa using List.pairwise_mergeSort greater_trans greater_total k
  rw [← List.take_append_drop limit (k.mergeSort fun a b => b.2 ≤ a.2)] at hsorted
  refine (List.pairwise_append.mp hsorted).2.2 kept hkept left ?_
  have hmem : left ∈ k.mergeSort fun a b => b.2 ≤ a.2 :=
    (List.mergeSort_perm k _).mem_iff.mpr hleft
  rw [← List.take_append_drop limit (k.mergeSort fun a b => b.2 ≤ a.2), List.mem_append] at hmem
  exact hmem.resolve_left hnot

/-- A list of words with the numbers of their occurrences, in which no word is left out that occurs
more often than one in the list. -/
structure MostFrequent (limit : Nat) (ws : List String) (r : Tally) : Prop where
  nodup : (r.map Prod.fst).Nodup
  length_eq : r.length = min limit ws.dedup.length
  count_eq : ∀ entry ∈ r, entry.1 ∈ ws ∧ entry.2.toInt = ws.count entry.1
  greatest : ∀ entry ∈ r, ∀ word, word ∉ r.map Prod.fst → ws.count word ≤ ws.count entry.1

/-- The greatest counts of a tally are those of the most frequent words. -/
theorem Proper.mostFrequent_top (h : k.Proper) {ws : List String} (hperm : k.words.Perm ws)
    (limit : Nat) : (k.top limit).MostFrequent limit ws where
  nodup := (h.top limit).nodup
  length_eq := by rw [length_top, h.length_eq, hperm.dedup.length_eq]
  count_eq := by
    intro entry hentry
    have hmem := top_subset k limit hentry
    rw [← hperm.mem_iff, h.mem_words_iff, ← hperm.count_eq]
    exact ⟨List.mem_map_of_mem hmem, h.toInt_eq hmem⟩
  greatest := by
    intro entry hentry word hnot
    by_cases hword : word ∈ k.words
    · obtain ⟨left, hleft, rfl⟩ := List.mem_map.mp (h.mem_words_iff.mp hword)
      have hle := Int32.le_iff_toInt_le.mp
        (le_of_not_mem_top hentry hleft fun hmem => hnot (List.mem_map_of_mem hmem))
      rw [h.toInt_eq hleft, h.toInt_eq (top_subset k limit hentry), hperm.count_eq,
        hperm.count_eq] at hle
      exact Int.ofNat_le.mp hle
    · rw [← hperm.count_eq word, List.count_eq_zero.mpr hword]
      exact Nat.zero_le _

end Tally

end Dataflow
