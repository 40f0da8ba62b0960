import Dataflow.Proofs.Counting.Ranking
import Dataflow.Proofs.Executor.Counting
import Dataflow.Proofs.Tree.History

/-!
# What a counter does with its tuples

A counter gives a batch of words with their counts after as many tuples as a batch has, and one more
at the end. Whatever the tuples and the times are, what it has made so far is determined by the
tuples that it took in, and the batches together have all words of their texts.
-/

namespace Dataflow

section Batches

variable {α : Type} {size j : Nat} {ts : List α}

/-- The batch at a place, if a list is cut into batches of a size. The last one may be smaller. -/
def batch (size j : Nat) (ts : List α) : List α :=
  (ts.drop (j * size)).take size

lemma batch_append (h : (j + 1) * size ≤ ts.length) (more : List α) :
    batch size j (ts ++ more) = batch size j ts := by
  rw [Nat.succ_mul] at h
  rw [batch, List.drop_append_of_le_length (by omega), List.take_append_of_le_length, batch]
  rw [List.length_drop]
  omega

lemma flatMap_batch (size m : Nat) (ts : List α) :
    ((List.range m).flatMap fun j => batch size j ts) = ts.take (m * size) := by
  induction m with
  | zero => simp
  | succ m ih =>
    rw [List.range_succ, List.flatMap_append, ih, List.flatMap_singleton, batch, Nat.succ_mul,
      List.take_add]

lemma batch_concat (hsize : 0 < size) (ts : List α) (t : α) :
    batch size (ts.length / size) (ts ++ [t]) = batch size (ts.length / size) ts ++ [t] := by
  have hlt := Nat.mod_lt ts.length hsize
  have hdivMod := Nat.div_add_mod' ts.length size
  rw [batch, batch, List.drop_append_of_le_length (by omega), List.take_of_length_le,
    List.take_of_length_le]
  · rw [List.length_drop]
    omega
  · rw [List.length_append, List.length_drop, List.length_singleton]
    omega

/-- How many batches are full after one thing more, and how much the next one has. -/
lemma full_batches (hsize : 0 < size) (n : Nat) :
    if size ≤ n % size + 1 then size ∣ n + 1 ∧ (n + 1) / size = n / size + 1 ∧ (n + 1) % size = 0
    else ¬size ∣ n + 1 ∧ (n + 1) / size = n / size ∧ (n + 1) % size = n % size + 1 := by
  have hlt := Nat.mod_lt n hsize
  have hdivMod := Nat.div_add_mod n size
  split_ifs with hfull
  · have hnext : n + 1 = size * (n / size + 1) := by
      rw [Nat.mul_succ]
      omega
    rw [hnext]
    exact ⟨Nat.dvd_mul_right .., Nat.mul_div_cancel_left _ hsize, Nat.mul_mod_right ..⟩
  · have hnext : n + 1 = n % size + 1 + size * (n / size) := by omega
    have hmod : (n + 1) % size = n % size + 1 := by
      rw [hnext, Nat.add_mul_mod_self_left, Nat.mod_eq_of_lt (by omega)]
    refine ⟨fun hdvd => ?_, ?_, hmod⟩
    · rw [Nat.dvd_iff_mod_eq_zero, hmod] at hdvd
      omega
    · conv_lhs => rw [hnext]
      rw [Nat.add_mul_div_left _ _ hsize, Nat.div_eq_of_lt (by omega), Nat.zero_add]

end Batches

namespace WordCount

variable {column : String} {size n : Nat} {link : Link} {ts : List Tuple} {t : Tuple}
  {w w' : WordCount} {made : List Tuple} {words : List String}

/-- The texts of some tuples that have one. -/
def texts (column : String) (ts : List Tuple) : List String :=
  ts.filterMap fun t => (t.getText? column).toOption.join

/-- The words of the texts of some tuples that are counted. -/
def counted (column : String) (ts : List Tuple) : List String :=
  (texts column ts).flatMap countedWords

lemma counted_append (column : String) (ts ts' : List Tuple) :
    counted column (ts ++ ts') = counted column ts ++ counted column ts' := by
  rw [counted, texts, List.filterMap_append, List.flatMap_append]
  rfl

lemma counted_perm {ts ts' : List Tuple} (h : ts.Perm ts') (column : String) :
    (counted column ts).Perm (counted column ts') :=
  (h.filterMap _).flatMap_right _

lemma counted_flatMap {α : Type} (column : String) (xs : List α) (f : α → List Tuple) :
    counted column (xs.flatMap f) = xs.flatMap fun x => counted column (f x) := by
  induction xs with
  | nil => rfl
  | cons x xs ih => rw [List.flatMap_cons, counted_append, ih, List.flatMap_cons]

/-- Different words in the order in which they come in, with the numbers of their occurrences as
far as these have 32 bits. -/
def numbered (words : List String) : Tally :=
  words.eraseDups.map fun word => (word, .ofInt (min (words.count word) int32Max))

/-- One more is added to a number as far as it has 32 bits. -/
lemma saturatingAdd_one (n : Nat) :
    saturatingAdd (.ofInt (min n int32Max)) 1 = .ofInt (min (n + 1 : Nat) int32Max) := by
  have hpos : (0 : Int) ≤ n := Int.natCast_nonneg n
  have hn : (Int32.ofInt (min n int32Max)).toInt = min (n : Int) int32Max := by
    apply Int32.toInt_ofInt_of_le
    · rw [le_min_iff]
      exact ⟨by omega, by decide⟩
    · exact lt_of_le_of_lt (min_le_right _ _) (by decide)
  have hone : (1 : Int32).toInt = 1 := rfl
  have hsum : max int32Min (min int32Max (min (n : Int) int32Max + 1)) =
      min ((n + 1 : Nat) : Int) int32Max := by
    simp only [int32Max, int32Min]
    omega
  rw [saturatingAdd, hn, hone, hsum]

lemma sum_ones (words : List String) (word : String) :
    Tally.sum (words.map (·, 1)) word = .ofInt (min (words.count word) int32Max) := by
  induction words using List.reverseRecOn with
  | nil => rfl
  | append_singleton words last ih =>
    rw [List.map_append, List.map_singleton, Tally.sum_concat, ih, List.count_append,
      List.count_singleton, saturatingAdd_one]
    by_cases h : last = word <;> simp [h]

lemma addAll_nil (words : List String) : Tally.addAll [] words = numbered words := by
  have h := Tally.addAll_totals [] words
  rw [List.nil_append] at h
  refine h.trans ?_
  simp only [Tally.totals, sum_ones, List.map_map, numbered, Function.comp_def, List.map_id']

/-- The words of a batch with their numbers, as tuples. -/
def report (column : String) (size j : Nat) (ts : List Tuple) : List Tuple :=
  (numbered (counted column (batch size j ts))).map Tally.tuple

/-- What a counter makes of tuples: a report after as many of them as a batch has. -/
def tupleTasks (column : String) (size : Nat) (link : Link) (ts : List Tuple) :
    List (Input × List Tuple) :=
  ts.zipIdx.map fun (t, i) =>
    (.tuple t link, if size ∣ i + 1 then report column size (i / size) ts else [])

/-- What a counter makes of tuples, and of the end if that has come: a report of what is left. -/
def tasks (column : String) (size : Nat) (link : Link) (ts : List Tuple) (ended : Bool) :
    List (Input × List Tuple) :=
  tupleTasks column size link ts ++
    if ended then [(.exhausted link, report column size (ts.length / size) ts)] else []

lemma map_fst_tasks (ts : List Tuple) (ended : Bool) :
    (tasks column size link ts ended).map Prod.fst =
      ts.map (.tuple · link) ++ if ended then [.exhausted link] else [] := by
  have htuples : (tupleTasks column size link ts).map Prod.fst = ts.map (.tuple · link) := by
    conv_rhs => rw [← List.zipIdx_map_fst 0 ts]
    simp only [tupleTasks, List.map_map, Function.comp_def]
  rw [tasks, List.map_append, htuples]
  cases ended <;> rfl

/-- One tuple more makes no difference to the reports before. -/
lemma tupleTasks_concat (ts : List Tuple) (t : Tuple) :
    tupleTasks column size link (ts ++ [t]) = tupleTasks column size link ts ++
      [(.tuple t link, if size ∣ ts.length + 1 then
        report column size (ts.length / size) (ts ++ [t]) else [])] := by
  rw [tupleTasks, List.zipIdx_append, List.map_append, tupleTasks]
  refine congrArg₂ (· ++ ·) (List.map_congr_left fun ⟨t, i⟩ hi => ?_) (by simp)
  have hlt : i < ts.length := (List.getElem?_eq_some_iff.mp
    (List.mem_zipIdx_iff_getElem?.mp hi)).1
  by_cases hdvd : size ∣ i + 1
  · simp only [if_pos hdvd, report]
    have hfull : (i / size + 1) * size ≤ ts.length := by
      rw [← Nat.succ_div_of_dvd hdvd, Nat.div_mul_cancel hdvd]
      exact hlt
    rw [batch_append hfull]
  · simp only [if_neg hdvd]

/-- A counter that took in some tuples, but not the end. -/
def after (column : String) (batchSize : Nat) (ts : List Tuple) : WordCount where
  column := column
  batchSize := batchSize
  schema := wordCountSchema
  taken := ts.length % max batchSize 1
  counts := IndexedTally.empty.addAll
    (counted column (batch (max batchSize 1) (ts.length / max batchSize 1) ts))

lemma after_nil (column : String) (batchSize : Nat) :
    after column batchSize [] = { column, batchSize, schema := wordCountSchema } := by
  simp [after, batch, counted, texts, IndexedTally.addAll]

lemma entries_addAll_empty (words : List String) :
    (IndexedTally.empty.addAll words).entries = numbered words := by
  rw [IndexedTally.entries_addAll, IndexedTally.entries_empty, addAll_nil]

lemma count_eq_ok_iff : w.count t = .ok w' ↔ (∃ text, t.getText? w.column = .ok text) ∧
    w' = { w with counts := w.counts.addAll (counted w.column [t]), taken := w.taken + 1 } := by
  rw [count]
  cases htext : t.getText? w.column with
  | error e => simp
  | ok text => cases text <;> simp [counted, texts, htext, Except.toOption, eq_comm]

lemma exists_text_of_process {now : Nat} (h : process now (.tuple t link) w = (.ok made, w')) :
    ∃ text, t.getText? w.column = .ok text := by
  rw [process] at h
  match hcount : w.count t with
  | .ok counted => exact (count_eq_ok_iff.mp hcount).1
  | .error e => simp [hcount] at h

/-- A counter that takes in one tuple more. -/
lemma process_tuple {batchSize : Nat} (htext : ∃ text, t.getText? column = .ok text) (now : Nat) :
    process now (.tuple t link) (after column batchSize ts) =
      (.ok (if max batchSize 1 ∣ ts.length + 1 then
        report column (max batchSize 1) (ts.length / max batchSize 1) (ts ++ [t]) else []),
        after column batchSize (ts ++ [t])) := by
  have hsize : 0 < max batchSize 1 := Nat.lt_of_lt_of_le Nat.one_pos (le_max_right ..)
  have hcount : (after column batchSize ts).count t = .ok { after column batchSize ts with
      counts := IndexedTally.empty.addAll (counted column (batch (max batchSize 1)
        (ts.length / max batchSize 1) (ts ++ [t])))
      taken := ts.length % max batchSize 1 + 1 } := by
    refine count_eq_ok_iff.mpr ⟨htext, ?_⟩
    simp only [after, batch_concat hsize, counted_append, IndexedTally.addAll, List.foldl_append]
  have hfull := full_batches hsize ts.length
  simp only [process, hcount]
  change (if max batchSize 1 ≤ ts.length % max batchSize 1 + 1 then _ else _) = _
  by_cases hle : max batchSize 1 ≤ ts.length % max batchSize 1 + 1
  · rw [if_pos hle] at hfull
    obtain ⟨hdvd, hdiv, hmod⟩ := hfull
    rw [if_pos hle, if_pos hdvd, flush_eq rfl]
    dsimp only
    rw [entries_addAll_empty]
    refine Prod.ext rfl ?_
    have hnone : batch (max batchSize 1) (ts.length / max batchSize 1 + 1) (ts ++ [t]) = [] := by
      rw [batch, ← hdiv, Nat.div_mul_cancel hdvd, List.drop_of_length_le (by simp), List.take_nil]
    simp only [after, List.length_append, List.length_singleton, hdiv, hmod, hnone]
    rfl
  · rw [if_neg hle] at hfull
    obtain ⟨hdvd, hdiv, hmod⟩ := hfull
    rw [if_neg hle, if_neg hdvd]
    simp only [after, List.length_append, List.length_singleton, hdiv, hmod]

lemma process_exhausted {batchSize : Nat} (now : Nat) :
    process now (.exhausted link) (after column batchSize ts) =
      (.ok (report column (max batchSize 1) (ts.length / max batchSize 1) ts),
        after column batchSize []) := by
  rw [process, flush_eq rfl, after_nil, after, entries_addAll_empty]
  rfl

lemma took_of_count {v : StandardWorker} {done : List (Input × List Tuple)}
    (h : Worker.Took (StandardWorker.count w) done v) :
    ∃ w', v = .count w' ∧ Worker.Took w done w' := by
  induction h with
  | nil => exact ⟨w, rfl, .nil⟩
  | @concat done _ v now taken made _ hprocessed ih =>
    obtain ⟨w', rfl, hbefore⟩ := ih
    obtain ⟨hmade, rfl⟩ := Prod.mk.inj hprocessed
    exact ⟨(process now taken w').2, rfl, hbefore.concat (Prod.ext hmade rfl)⟩

/-- What a counter has made of tuples that it took in, and how it is then. -/
lemma eq_of_took_tuples {batchSize : Nat} {done : List (Input × List Tuple)}
    (h : Worker.Took (after column batchSize []) done w)
    (hts : done.map Prod.fst = ts.map fun t => .tuple t link) :
    done = tupleTasks column (max batchSize 1) link ts ∧ w = after column batchSize ts := by
  induction ts using List.reverseRecOn generalizing done w with
  | nil =>
    obtain rfl := List.map_eq_nil_iff.mp hts
    exact ⟨rfl, Worker.took_nil_iff.mp h⟩
  | append_singleton ts t ih =>
    rw [List.map_append, List.map_singleton, List.map_eq_append_iff] at hts
    obtain ⟨done, last, rfl, hdone, hlast⟩ := hts
    obtain ⟨⟨taken, made⟩, rfl, rfl⟩ := List.map_eq_singleton_iff.mp hlast
    obtain ⟨w₁, now, hbefore, hprocessed⟩ := Worker.took_concat_iff.mp h
    obtain ⟨rfl, rfl⟩ := ih hbefore hdone
    have htext : ∃ text, t.getText? column = .ok text := exists_text_of_process hprocessed
    obtain ⟨hmade, rfl⟩ := Prod.mk.inj ((process_tuple htext now).symm.trans hprocessed)
    rw [tupleTasks_concat, Except.ok.inj hmade]
    exact ⟨rfl, rfl⟩

/-- What a counter has made of tuples, and perhaps of the end. -/
lemma eq_of_took {batchSize : Nat} {done : List (Input × List Tuple)} {ended : Bool}
    (h : Worker.Took (after column batchSize []) done w)
    (hdone : done.map Prod.fst = ts.map (fun t => .tuple t link) ++
      if ended then [.exhausted link] else []) :
    done = tasks column (max batchSize 1) link ts ended ∧
      w = after column batchSize (if ended then [] else ts) := by
  cases ended with
  | false =>
    obtain ⟨rfl, rfl⟩ := eq_of_took_tuples h (hdone.trans (List.append_nil _))
    exact ⟨(List.append_nil _).symm, rfl⟩
  | true =>
    rw [if_pos rfl, List.map_eq_append_iff] at hdone
    obtain ⟨done, last, rfl, hdone, hlast⟩ := hdone
    obtain ⟨⟨taken, made⟩, rfl, rfl⟩ := List.map_eq_singleton_iff.mp hlast
    obtain ⟨w₁, now, hbefore, hprocessed⟩ := Worker.took_concat_iff.mp h
    obtain ⟨rfl, rfl⟩ := eq_of_took_tuples hbefore hdone
    obtain ⟨hmade, rfl⟩ := Prod.mk.inj ((process_exhausted now).symm.trans hprocessed)
    rw [tasks, Except.ok.inj hmade]
    exact ⟨rfl, rfl⟩

/-- All that was made of tuples are the reports of the batches that are full. -/
lemma flatMap_tupleTasks (ts : List Tuple) :
    (tupleTasks column size link ts).flatMap Prod.snd =
      (List.range (ts.length / size)).flatMap fun j => report column size j ts := by
  induction ts using List.reverseRecOn with
  | nil => simp [tupleTasks]
  | append_singleton ts t ih =>
    have hsame : ((List.range (ts.length / size)).flatMap fun j =>
        report column size j (ts ++ [t])) =
        (List.range (ts.length / size)).flatMap fun j => report column size j ts := by
      refine List.flatMap_congr fun j hj => ?_
      have hle : (j + 1) * size ≤ ts.length :=
        (Nat.mul_le_mul_right _ (List.mem_range.mp hj)).trans (Nat.div_mul_le_self ..)
      rw [report, batch_append hle, report]
    rw [tupleTasks_concat, List.flatMap_append, ih, List.flatMap_singleton, List.length_append,
      List.length_singleton, Nat.succ_div]
    split_ifs
    · rw [List.range_succ, List.flatMap_append, hsame, List.flatMap_singleton]
    · rw [Nat.add_zero, hsame, List.append_nil]

lemma flatMap_tasks (ts : List Tuple) :
    (tasks column size link ts true).flatMap Prod.snd =
      (List.range (ts.length / size + 1)).flatMap fun j => report column size j ts := by
  rw [tasks, List.flatMap_append, flatMap_tupleTasks, List.range_succ, List.flatMap_append]
  rfl

lemma flatMap_batches (hsize : 0 < size) (ts : List Tuple) :
    ((List.range (ts.length / size + 1)).flatMap fun j => batch size j ts) = ts := by
  have hlt := Nat.mod_lt ts.length hsize
  have hdivMod := Nat.div_add_mod' ts.length size
  rw [flatMap_batch, List.take_of_length_le]
  rw [Nat.succ_mul]
  omega

end WordCount

namespace Tally

variable {word : String}

/-- The counts of a word, added up exactly. -/
def total (k : Tally) (word : String) : Int :=
  ((k.filter fun entry => entry.1 = word).map fun entry => entry.2.toInt).sum

lemma total_append (k k' : Tally) (word : String) :
    total (k ++ k') word = total k word + total k' word := by
  simp [total]

lemma total_flatMap {α : Type} {xs : List α} {f : α → Tally} {words : α → List String}
    (h : ∀ x, total (f x) word = (words x).count word) :
    total (xs.flatMap f) word = (xs.flatMap words).count word := by
  induction xs with
  | nil => rfl
  | cons x xs ih =>
    rw [List.flatMap_cons, List.flatMap_cons, total_append, ih, h, List.count_append, Nat.cast_add]

lemma total_perm {k k' : Tally} (h : k.Perm k') (word : String) : total k word = total k' word :=
  ((h.filter _).map _).sum_eq

/-- The number of a word is how often it occurs, if that has 32 bits. -/
lemma total_numbered {words : List String} (h : (words.count word : Int) ≤ int32Max) :
    total (WordCount.numbered words) word = words.count word := by
  have honce : words.eraseDups.filter (fun other => other = word) =
      if word ∈ words then [word] else [] := by
    rw [List.filter_eq, (nodup_eraseDups words).count]
    by_cases hmem : word ∈ words <;> simp [hmem]
  simp only [total, WordCount.numbered, List.filter_map, List.map_map, Function.comp_def, honce]
  split_ifs with hmem
  · simp only [List.map_singleton, List.sum_singleton]
    rw [min_eq_left h, Int32.toInt_ofInt_of_le]
    · exact le_trans (by decide) (Int.natCast_nonneg _)
    · exact lt_of_le_of_lt h (by decide)
  · rw [List.count_eq_zero.mpr hmem]
    rfl

lemma mem_map_fst_numbered {words : List String} :
    word ∈ (WordCount.numbered words).map Prod.fst ↔ word ∈ words := by
  simp [WordCount.numbered]

end Tally

end Dataflow
