import Dataflow.Proofs.Counting.Tally

/-!
# Rankings of words

Counts that come in for words are added up from left to right, each sum staying at its bounds. The
words are ranked by their sums: the greatest comes first, and of equal sums that of the word that
came in first. There is exactly one ranking, and the greatest counts of a tally are its first words.
-/

namespace Dataflow

/-- Sorting keeps the order of what it takes for equal. -/
lemma pairwise_mergeSort_of_pairwise {α : Type} {le : α → α → Bool} {R : α → α → Prop} {l : List α}
    (htrans : ∀ a b c, le a b = true → le b c = true → le a c = true)
    (htotal : ∀ a b, (le a b || le b a) = true) (h : l.Pairwise R) :
    (l.mergeSort le).Pairwise fun a b => le a b = true ∧ (le b a = true → R a b) := by
  have hperm := List.mergeSort_perm l.zipIdx (List.zipIdxLE le)
  have hsorted := List.pairwise_mergeSort (List.zipIdxLE_trans htrans)
    (List.zipIdxLE_total htotal) l.zipIdx
  have hplaces : ((l.zipIdx.mergeSort (List.zipIdxLE le)).map Prod.snd).Nodup := by
    rw [(hperm.map Prod.snd).nodup_iff, List.zipIdx_map_snd]
    exact List.nodup_range'
  have hget {p : α × Nat} (hp : p ∈ l.zipIdx.mergeSort (List.zipIdxLE le)) :
      l[p.2]? = some p.1 :=
    List.mem_zipIdx_iff_getElem?.mp (hperm.mem_iff.mp hp)
  rw [← List.mergeSort_zipIdx, List.pairwise_map]
  refine (hsorted.and (List.pairwise_map.mp hplaces)).imp_of_mem fun {p q} hp hq hpq => ?_
  obtain ⟨hle, hne⟩ := hpq
  obtain ⟨i, hi⟩ := List.getElem?_eq_some_iff.mp (hget hp)
  obtain ⟨j, hj⟩ := List.getElem?_eq_some_iff.mp (hget hq)
  rw [List.zipIdxLE] at hle
  split_ifs at hle with hpq hqp
  · refine ⟨hpq, fun _ => ?_⟩
    rw [← hi, ← hj]
    exact List.pairwise_iff_getElem.mp h _ _ i j (lt_of_le_of_ne (of_decide_eq_true hle) hne)
  · exact ⟨hpq, fun hback => absurd hback hqp⟩

lemma eraseDups_concat (ws : List String) (word : String) :
    (ws ++ [word]).eraseDups = ws.eraseDups ++ if word ∈ ws then [] else [word] := by
  rw [List.eraseDups_append]
  split_ifs with h
  · simp [List.removeAll, h]
  · simp [List.removeAll, h, List.eraseDups_cons]

/-- Words without repetitions are in the order in which they first occur. -/
lemma pairwise_eraseDups (ws : List String) :
    ws.eraseDups.Pairwise fun a b => ws.idxOf a < ws.idxOf b := by
  induction ws using List.reverseRecOn with
  | nil => exact .nil
  | append_singleton ws word ih =>
    have hlt {a : String} (ha : a ∈ ws.eraseDups) : ws.idxOf a < ws.length :=
      List.idxOf_lt_length_of_mem (List.mem_eraseDups.mp ha)
    have hidx {a : String} (ha : a ∈ ws.eraseDups) : (ws ++ [word]).idxOf a = ws.idxOf a :=
      List.idxOf_append_of_mem (List.mem_eraseDups.mp ha)
    rw [eraseDups_concat, List.pairwise_append]
    refine ⟨ih.imp_of_mem fun ha hb hab => ?_, ?_, fun a ha b hb => ?_⟩
    · rwa [hidx ha, hidx hb]
    · split_ifs <;> simp
    · split_ifs at hb with hword
      · cases hb
      · obtain rfl := List.mem_singleton.mp hb
        rw [hidx ha, List.idxOf_append_of_notMem hword]
        exact Nat.lt_add_right _ (hlt ha)

lemma nodup_eraseDups (ws : List String) : ws.eraseDups.Nodup :=
  (pairwise_eraseDups ws).imp fun hlt heq => absurd (heq ▸ hlt) (Nat.lt_irrefl _)

lemma saturatingAdd_zero (n : Int32) : saturatingAdd 0 n = n := by
  have hle : n.toInt ≤ int32Max := Int32.toInt_le n
  have hmin : int32Min ≤ n.toInt := Int32.minValue_le_toInt n
  rw [saturatingAdd, Int32.toInt_zero, Int.zero_add, min_eq_right hle, max_eq_right hmin,
    Int32.ofInt_toInt]

namespace Tally

variable {entries : Tally} {k r : Tally} {word : String} {n : Int32}

/-- The counts of a word, added up from left to right. -/
def sum (entries : Tally) (word : String) : Int32 :=
  ((entries.filter fun entry => entry.1 = word).map Prod.snd).foldl saturatingAdd 0

/-- Every word with its sum, the words in the order in which they come in. -/
def totals (entries : Tally) : Tally :=
  (entries.map Prod.fst).eraseDups.map fun word => (word, sum entries word)

lemma sum_concat (entries : Tally) (entry : String × Int32) (word : String) :
    sum (entries ++ [entry]) word =
      if entry.1 = word then saturatingAdd (sum entries word) entry.2 else sum entries word := by
  rw [sum, List.filter_append, List.map_append, List.foldl_append, ← sum]
  by_cases h : entry.1 = word <;> simp [h]

lemma sum_of_notMem (h : word ∉ entries.map Prod.fst) : sum entries word = 0 := by
  have hnone : entries.filter (fun entry => entry.1 = word) = [] :=
    List.filter_eq_nil_iff.mpr fun entry hentry heq =>
      h (of_decide_eq_true heq ▸ List.mem_map_of_mem hentry)
  rw [sum, hnone]
  rfl

lemma mem_totals_iff {entry : String × Int32} : entry ∈ totals entries ↔
    entry.1 ∈ entries.map Prod.fst ∧ entry.2 = sum entries entry.1 := by
  rw [totals, List.mem_map]
  constructor
  · rintro ⟨word, hword, rfl⟩
    exact ⟨List.mem_eraseDups.mp hword, rfl⟩
  · rintro ⟨hword, hsum⟩
    exact ⟨entry.1, List.mem_eraseDups.mpr hword, Prod.ext rfl hsum.symm⟩

/-- Adding to words that are listed with their counts. -/
lemma add_map {ws : List String} (f : String → Int32) (hnodup : ws.Nodup) :
    add word n (ws.map fun w => (w, f w)) =
      ws.map (fun w => (w, if word = w then saturatingAdd (f w) n else f w)) ++
        if word ∈ ws then [] else [(word, n)] := by
  induction ws with
  | nil => rfl
  | cons first ws ih =>
    obtain ⟨hnot, hnodup⟩ := List.nodup_cons.mp hnodup
    rw [List.map_cons, add]
    by_cases h : first = word
    · subst h
      have hrest : ws.map (fun w => (w, if first = w then saturatingAdd (f w) n else f w)) =
          ws.map fun w => (w, f w) :=
        List.map_congr_left fun w hw => by rw [if_neg (ne_of_mem_of_not_mem hw hnot).symm]
      simp [hrest]
    · simp [h, Ne.symm h, ih hnodup]

lemma add_totals (entries : Tally) (entry : String × Int32) :
    add entry.1 entry.2 (totals entries) = totals (entries ++ [entry]) := by
  rw [totals, add_map _ (nodup_eraseDups _), totals, List.map_append, List.map_singleton,
    eraseDups_concat, List.map_append]
  simp only [sum_concat, List.mem_eraseDups]
  congr 1
  split_ifs with h
  · rfl
  · rw [List.map_singleton, if_pos rfl, sum_of_notMem h, saturatingAdd_zero]

lemma addAll_totals (entries : Tally) (ws : List String) :
    (totals entries).addAll ws = totals (entries ++ ws.map (·, 1)) := by
  induction ws generalizing entries with
  | nil => rw [addAll, List.map_nil, List.append_nil, List.foldl_nil]
  | cons word ws ih =>
    rw [addAll, List.foldl_cons, add_totals entries (word, 1)]
    exact (ih _).trans (by rw [List.append_assoc]; rfl)

/-- A word ranks before another: its sum is greater, or the sums are equal and it came in first. -/
def RanksBefore (entries : Tally) (a b : String × Int32) : Prop :=
  b.2 < a.2 ∨ b.2 = a.2 ∧ (entries.map Prod.fst).idxOf a.1 < (entries.map Prod.fst).idxOf b.1

instance (entries : Tally) (a b : String × Int32) : Decidable (RanksBefore entries a b) :=
  inferInstanceAs (Decidable (_ ∨ _))

/-- All words that came in, with their sums and in the order of their ranks. -/
structure Ranks (entries r : Tally) : Prop where
  mem_iff : ∀ entry, entry ∈ r ↔
    entry.1 ∈ entries.map Prod.fst ∧ entry.2 = sum entries entry.1
  pairwise : r.Pairwise (RanksBefore entries)

lemma ranksBefore_asymm {a b : String × Int32} (h : RanksBefore entries a b) :
    ¬RanksBefore entries b a := by
  have hlt {x y : Int32} (hxy : x < y) : ¬y ≤ x := Int32.not_le.mpr hxy
  rintro (hba | ⟨heq, hba⟩)
  · rcases h with hab | ⟨heq, hab⟩
    · exact hlt hab (Int32.le_of_lt hba)
    · exact hlt hba (heq ▸ Int32.le_refl _)
  · rcases h with hab | ⟨-, hab⟩
    · exact hlt hab (heq ▸ Int32.le_refl _)
    · exact Nat.lt_asymm hab hba

lemma Ranks.nodup (h : Ranks entries r) : r.Nodup :=
  h.pairwise.imp fun hab => by
    rintro rfl
    exact ranksBefore_asymm hab hab

/-- The ranking of the words that came in. -/
def ranking (entries : Tally) : Tally :=
  (totals entries).mergeSort fun a b => b.2 ≤ a.2

lemma ranks_ranking (entries : Tally) : Ranks entries (ranking entries) where
  mem_iff entry := ((List.mergeSort_perm _ _).mem_iff).trans mem_totals_iff
  pairwise := by
    have hfirst : (totals entries).Pairwise fun a b =>
        (entries.map Prod.fst).idxOf a.1 < (entries.map Prod.fst).idxOf b.1 := by
      rw [totals, List.pairwise_map]
      exact pairwise_eraseDups _
    refine (pairwise_mergeSort_of_pairwise greater_trans greater_total hfirst).imp ?_
    rintro a b ⟨hle, hstable⟩
    rcases Int32.lt_or_eq_of_le (of_decide_eq_true hle) with hlt | heq
    · exact .inl hlt
    · exact .inr ⟨heq, hstable (by simp [heq])⟩

lemma ranks_iff : Ranks entries r ↔ r = ranking entries := by
  constructor
  · intro h
    have hranking := ranks_ranking entries
    have hperm : r.Perm (ranking entries) :=
      (List.perm_ext_iff_of_nodup h.nodup hranking.nodup).mpr fun entry =>
        (h.mem_iff entry).trans (hranking.mem_iff entry).symm
    exact hperm.eq_of_pairwise (fun a b _ _ hab hba => absurd hba (ranksBefore_asymm hab))
      h.pairwise hranking.pairwise
  · rintro rfl
    exact ranks_ranking entries

end Tally

end Dataflow
