import Dataflow.Proofs.Tree.Delivery

/-!
# The shares of workers

If a node has one input, its tuples are dealt to the workers in turn, so that each worker has its
share: the tuples at every so many places. The shares together are all tuples, and what the workers
make of them is all that the node makes.
-/

namespace Dataflow

section Share

variable {α : Type} {n k : Nat} {xs : List α}

/-- What one of some workers gets, if things are dealt to them in turn. -/
def share (n k : Nat) (xs : List α) : List α :=
  (xs.zipIdx.filter fun p => p.2 % n = k).map Prod.fst

/-- Things that are sorted by numbers below a bound are all there. -/
lemma flatMap_filter_perm (number : α → Nat) (h : ∀ x ∈ xs, number x < n) :
    ((List.range n).flatMap fun k => xs.filter fun x => number x = k).Perm xs := by
  induction n generalizing xs with
  | zero =>
    cases xs with
    | nil => exact .nil
    | cons x xs => exact absurd (h x List.mem_cons_self) (Nat.not_lt_zero _)
  | succ n ih =>
    have hbelow : ∀ x ∈ xs.filter fun x => number x ≠ n, number x < n := fun x hx => by
      obtain ⟨hx, hne⟩ := List.mem_filter.mp hx
      exact Nat.lt_of_le_of_ne (Nat.le_of_lt_succ (h x hx)) (of_decide_eq_true hne)
    have hlow := ih hbelow
    have hsame : ((List.range n).flatMap fun k =>
        (xs.filter fun x => number x ≠ n).filter fun x => number x = k) =
        (List.range n).flatMap fun k => xs.filter fun x => number x = k := by
      refine List.flatMap_congr fun k hk => ?_
      have hne : k ≠ n := (List.mem_range.mp hk).ne
      rw [List.filter_filter]
      refine List.filter_congr fun x _ => ?_
      by_cases hx : number x = k <;> simp [hx, hne]
    rw [hsame] at hlow
    rw [List.range_succ, List.flatMap_append, List.flatMap_singleton]
    refine (hlow.append_right _).trans (List.perm_append_comm.trans ?_)
    simpa using List.filter_append_perm (fun x => decide (number x = n)) xs

lemma flatMap_share_perm (hn : 0 < n) (xs : List α) :
    ((List.range n).flatMap fun k => share n k xs).Perm xs := by
  have hbound : ∀ p ∈ xs.zipIdx, p.2 % n < n := fun p _ => Nat.mod_lt _ hn
  have hall := (flatMap_filter_perm (fun p => p.2 % n) hbound).map Prod.fst
  rw [List.map_flatMap, List.zipIdx_map_fst] at hall
  exact hall

end Share

/-- Which worker takes in what, and what it makes of it. -/
def Moment.handing? : Moment → Option (Nat × Input × List Tuple)
  | pulled .. => none
  | handed _ worker taken made => some (worker, taken, made)

/-- Which workers take in what, and what they make of it. -/
def handings (history : List Moment) : List (Nat × Input × List Tuple) :=
  history.filterMap Moment.handing?

variable {history : List Moment} {i k n : Nat} {slot : Slot}

lemma tasksOf_eq (k : Nat) (history : List Moment) :
    tasksOf k history = ((handings history).filter fun h => h.1 = k).map Prod.snd := by
  rw [tasksOf, handings, List.filter_filterMap, List.map_filterMap]
  refine List.filterMap_congr fun moment _ => ?_
  cases moment with
  | pulled => rfl
  | handed _ worker => by_cases h : worker = k <;> simp [Moment.task?, Moment.handing?, h]

lemma flatMap_made (history : List Moment) :
    history.flatMap Moment.made = (handings history).flatMap (·.2.2) := by
  induction history with
  | nil => rfl
  | cons moment history ih =>
    rw [List.flatMap_cons, ih]
    cases moment <;> rfl

lemma filterMap_takenFrom (h : ∀ moment ∈ history, moment.input = i) :
    history.filterMap (Moment.takenFrom? i) =
      (handings history).map fun (worker, taken, _) => (worker, taken) := by
  rw [handings, List.map_filterMap]
  refine List.filterMap_congr fun moment hmem => ?_
  cases moment with
  | pulled => rfl
  | handed => exact if_pos (h _ hmem)

lemma dealtTo_eq (history : List Moment) : dealtTo history =
    ((handings history).map fun (worker, taken, _) => (worker, taken)).filterMap
      fun (worker, taken) =>
        if taken.isTuple then some worker else none := by
  rw [dealtTo, handings, List.map_filterMap, List.filterMap_filterMap]
  refine List.filterMap_congr fun moment _ => ?_
  cases moment with
  | pulled => rfl
  | handed _ _ taken => cases taken <;> rfl

lemma eq_zipIdx_of_turns {dealt : List (Nat × Tuple)}
    (h : ∀ m k, (dealt.map Prod.fst)[m]? = some k → k = m % n) :
    dealt = (dealt.map Prod.snd).zipIdx.map fun p => (p.2 % n, p.1) := by
  refine List.ext_getElem (by simp) fun m hm _ => ?_
  have hturn := h m dealt[m].1 (by simp [hm])
  simp [← hturn]

/-- Which worker takes in what, if tuples are dealt in turn and at the end all workers are told. -/
def intakes (n : Nat) (link : Link) (rows : List Tuple) (ended : Bool) : List (Nat × Input) :=
  (rows.zipIdx.map fun p => (p.2 % n, .tuple p.1 link)) ++
    if ended then (List.range n).map fun k => (k, .exhausted link) else []

section Intakes

variable {link : Link} {rows : List Tuple} {ended : Bool}

lemma fst_lt_of_mem_intakes (hn : 0 < n) {intake : Nat × Input}
    (h : intake ∈ intakes n link rows ended) : intake.1 < n := by
  rcases List.mem_append.mp h with htuple | hend
  · obtain ⟨p, -, rfl⟩ := List.mem_map.mp htuple
    exact Nat.mod_lt _ hn
  · split_ifs at hend with hended
    · obtain ⟨worker, hworker, rfl⟩ := List.mem_map.mp hend
      exact List.mem_range.mp hworker
    · cases hend

lemma filter_intakes (hk : k < n) :
    ((intakes n link rows ended).filter fun intake => intake.1 = k).map Prod.snd =
      (share n k rows).map (.tuple · link) ++ if ended then [.exhausted link] else [] := by
  rw [intakes, List.filter_append, List.map_append]
  congr 1
  · simp only [share, List.map_map, List.filter_map, Function.comp_def]
  · cases ended with
    | false => rfl
    | true =>
      simp only [if_true, List.filter_map, List.map_map, Function.comp_def]
      rw [List.filter_eq, (List.nodup_range).count, if_pos (List.mem_range.mpr hk)]
      rfl

end Intakes

/-- The only input of a node is dealt to its workers in turn. -/
lemma Deliveries.exists_intakes (h : Deliveries [slot] n history) : ∃ rows : List Tuple,
    history.filterMap (Moment.givenBy? 0) =
      rows.map some ++ (if hasEnded 0 history then [none] else []) ∧
    ((handings history).map fun (worker, taken, _) => (worker, taken)) =
      intakes n slot.link rows (hasEnded 0 history) := by
  obtain ⟨dealt, hgiven, htaken⟩ := h.delivered 0 slot rfl
  have hinput : ∀ moment ∈ history, moment.input = 0 := fun moment hmem =>
    Nat.lt_one_iff.mp (h.inside moment hmem)
  rw [filterMap_takenFrom hinput] at htaken
  have hdealt : dealtTo history = dealt.map Prod.fst := by
    rw [dealtTo_eq, htaken, List.filterMap_append, List.filterMap_map]
    cases hasEnded 0 history <;> simp [Function.comp_def, Input.isTuple]
  have hturns := eq_zipIdx_of_turns (hdealt ▸ h.dealt)
  refine ⟨dealt.map Prod.snd, ?_, ?_⟩
  · rw [hgiven, List.map_map]
    rfl
  · rw [htaken, intakes]
    congr 1
    conv_lhs => rw [hturns]
    rw [List.map_map]
    rfl

/-- The only input of a node is dealt to its workers in turn, and every worker takes in the end.
What the workers make is all that the node makes. -/
theorem Deliveries.exists_shares (h : Deliveries [slot] n history) (hn : 0 < n) :
    ∃ rows : List Tuple,
      history.filterMap (Moment.givenBy? 0) =
        rows.map some ++ (if hasEnded 0 history then [none] else []) ∧
      (∀ k < n, (tasksOf k history).map Prod.fst = (share n k rows).map (.tuple · slot.link) ++
        if hasEnded 0 history then [.exhausted slot.link] else []) ∧
      ((List.range n).flatMap fun k => (tasksOf k history).flatMap Prod.snd).Perm
        (history.flatMap Moment.made) := by
  obtain ⟨rows, hgiven, htaken⟩ := h.exists_intakes
  refine ⟨rows, hgiven, fun k hk => ?_, ?_⟩
  · rw [← filter_intakes hk, ← htaken, tasksOf_eq, List.filter_map, List.map_map, List.map_map]
    rfl
  · have hbound : ∀ h ∈ handings history, h.1 < n := fun h hmem =>
      fst_lt_of_mem_intakes hn (htaken ▸ List.mem_map_of_mem hmem)
    have hall := (flatMap_filter_perm Prod.fst hbound).flatMap_right fun h => h.2.2
    rw [← flatMap_made, List.flatMap_assoc] at hall
    simpa only [tasksOf_eq, List.flatMap_map] using hall

end Dataflow
