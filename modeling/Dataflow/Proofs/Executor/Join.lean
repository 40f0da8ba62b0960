import Dataflow.Executor.Standard
import Dataflow.Proofs.Executor.Pairs

/-!
# Joins give every pair once

Whatever order the tuples of the two sides arrive in, a join gives each pair of tuples that belong
together exactly once, when the later one of the two arrives. The kept tuples of a side are all
that came, until the other side has ended and nobody needs them any more.
-/

namespace Dataflow

/-- What a worker makes of several inputs, each at its time, and the worker after that. -/
def Worker.run {ω : Type} [Worker ω] : List (Nat × Input) → ω → List (Result (List Tuple)) × ω
  | [], w => ([], w)
  | (now, input) :: calls, w =>
    let made := Worker.process now input w
    let rest := run calls made.2
    (made.1 :: rest.1, rest.2)

/-! ### What arrives -/

/-- The tuples that came from a link, in order. -/
def arrived (link : Link) (inputs : List Input) : List Tuple :=
  inputs.filterMap fun
    | .tuple t own => if own = link then some t else none
    | .exhausted _ => none

lemma arrived_append (link : Link) (inputs inputs' : List Input) :
    arrived link (inputs ++ inputs') = arrived link inputs ++ arrived link inputs' :=
  List.filterMap_append

lemma arrived_tuple (link own : Link) (t : Tuple) :
    arrived link [.tuple t own] = if own = link then [t] else [] := by
  by_cases h : own = link <;> simp [arrived, h]

lemma arrived_exhausted (link own : Link) : arrived link [.exhausted own] = [] :=
  rfl

/-- What a join is made for: the pairing, and the link and the schema of each side. -/
structure Joining where
  pairing : Pairing
  inner : Schema
  outer : Schema
  innerLink : Link
  outerLink : Link

namespace Joining

variable (s : Joining)

/-- All tuples of both sides arrive, each side in order and with its end behind its last tuple. -/
structure Arrive (inners outers : List Tuple) (inputs : List Input) : Prop where
  inner_eq : inputs.filter (·.link = s.innerLink) =
    inners.map (.tuple · s.innerLink) ++ [.exhausted s.innerLink]
  outer_eq : inputs.filter (·.link = s.outerLink) =
    outers.map (.tuple · s.outerLink) ++ [.exhausted s.outerLink]
  link_eq : ∀ input ∈ inputs, input.link = s.innerLink ∨ input.link = s.outerLink
  schema_inner : ∀ t ∈ inners, t.schema = s.inner
  schema_outer : ∀ t ∈ outers, t.schema = s.outer

/-- The rows of all pairs of the tuples of two lists. -/
def pairs (inners outers : List Tuple) : List Row :=
  inners.flatMap fun t =>
    s.pairing.pairs s.inner s.outer (outers.map Tuple.fields) t.fields

/-- The rows of the pairs of a tuple with those of the other side that came before it. -/
def completes (before : List Input) : Input → List Row
  | .tuple t link =>
    if link = s.innerLink then s.pairs [t] (arrived s.outerLink before)
    else s.pairs (arrived s.innerLink before) [t]
  | .exhausted _ => []

/-- What each of some inputs completes, after others. -/
def course (before : List Input) : List Input → List (List Row)
  | [] => []
  | input :: inputs => s.completes before input :: course (before ++ [input]) inputs

variable {s}

lemma pairs_append_left (inners inners' outers : List Tuple) :
    s.pairs (inners ++ inners') outers = s.pairs inners outers ++ s.pairs inners' outers :=
  List.flatMap_append

lemma pairs_append_right (inners outers outers' : List Tuple) :
    (s.pairs inners (outers ++ outers')).Perm
      (s.pairs inners outers ++ s.pairs inners outers') := by
  have h (t : Tuple) : s.pairing.pairs s.inner s.outer ((outers ++ outers').map Tuple.fields)
      t.fields = s.pairing.pairs s.inner s.outer (outers.map Tuple.fields) t.fields ++
        s.pairing.pairs s.inner s.outer (outers'.map Tuple.fields) t.fields := by
    simp only [Pairing.pairs, List.map_append, List.filter_append]
  simp only [pairs, h]
  exact (List.flatMap_append_perm inners _ _).symm

lemma pairs_perm {inners outers : List Tuple} {rows rows' : List Row}
    (hinners : (inners.map Tuple.fields).Perm rows)
    (houters : (outers.map Tuple.fields).Perm rows') :
    (s.pairs inners outers).Perm (rows.flatMap (s.pairing.pairs s.inner s.outer rows')) := by
  rw [pairs, ← List.flatMap_map Tuple.fields]
  exact (hinners.flatMap_right _).trans
    (List.Perm.flatMap_left _ fun row _ => (houters.filter _).map _)

lemma pairs_singleton_left (t : Tuple) (outers : List Tuple) :
    s.pairs [t] outers = (outers.filter fun u =>
      s.pairing.holds s.inner s.outer t.fields u.fields).map fun u =>
        joinRow s.inner s.outer t.fields u.fields := by
  rw [pairs, List.flatMap_cons, List.flatMap_nil, List.append_nil, Pairing.pairs, List.filter_map,
    List.map_map]
  rfl

lemma pairs_singleton_right (inners : List Tuple) (t : Tuple) :
    s.pairs inners [t] = (inners.filter fun u =>
      s.pairing.holds s.inner s.outer u.fields t.fields).map fun u =>
        joinRow s.inner s.outer u.fields t.fields := by
  induction inners with
  | nil => rfl
  | cons u inners ih =>
    rw [pairs, List.flatMap_cons, ← pairs, ih, Pairing.pairs]
    by_cases h : s.pairing.holds s.inner s.outer u.fields t.fields = true <;> simp [h]

lemma pairs_concat (hne : s.innerLink ≠ s.outerLink) (before : List Input) (input : Input)
    (hlink : input.link = s.innerLink ∨ input.link = s.outerLink) :
    (s.pairs (arrived s.innerLink (before ++ [input]))
      (arrived s.outerLink (before ++ [input]))).Perm
      (s.pairs (arrived s.innerLink before) (arrived s.outerLink before) ++
        s.completes before input) := by
  rw [arrived_append, arrived_append]
  match input with
  | .exhausted _ => simp [arrived_exhausted, completes]
  | .tuple t link =>
    rw [arrived_tuple, arrived_tuple, completes]
    rcases hlink with hlink | hlink
    · obtain rfl : link = s.innerLink := hlink
      rw [if_pos rfl, if_pos rfl, if_neg hne, List.append_nil, pairs_append_left]
    · obtain rfl : link = s.outerLink := hlink
      rw [if_neg hne.symm, if_neg hne.symm, if_pos rfl, List.append_nil]
      exact pairs_append_right ..

/-- Altogether, inputs complete all pairs of the tuples that arrived. -/
lemma pairs_append (before : List Input) (hne : s.innerLink ≠ s.outerLink) {inputs : List Input}
    (hlinks : ∀ input ∈ inputs, input.link = s.innerLink ∨ input.link = s.outerLink) :
    (s.pairs (arrived s.innerLink (before ++ inputs)) (arrived s.outerLink (before ++ inputs))).Perm
      (s.pairs (arrived s.innerLink before) (arrived s.outerLink before) ++
        (s.course before inputs).flatten) := by
  induction inputs generalizing before with
  | nil => simp [course]
  | cons input inputs ih =>
    obtain ⟨hinput, hrest⟩ := List.forall_mem_cons.mp hlinks
    have hfirst := (pairs_concat hne before input hinput).append_right
      (s.course (before ++ [input]) inputs).flatten
    have hall := (ih (before ++ [input]) hrest).trans hfirst
    rwa [List.append_assoc, List.append_assoc] at hall

end Joining

/-! ### What a join keeps -/

/-- What a join knows after it has taken in some inputs. -/
structure Join.Recalls (s : Joining) (output : Schema) (before : List Input) (j : Join) : Prop where
  innerLink_eq : j.innerLink = s.innerLink
  outerLink_eq : j.outerLink = s.outerLink
  realizes : j.plan.Realizes s.pairing s.inner s.outer output
  inner_eq : j.inner = if .exhausted s.outerLink ∈ before then [] else arrived s.innerLink before
  outer_eq : j.outer = if .exhausted s.innerLink ∈ before then [] else arrived s.outerLink before
  innerEnded_iff : j.innerEnded = true ↔ .exhausted s.innerLink ∈ before
  outerEnded_iff : j.outerEnded = true ↔ .exhausted s.outerLink ∈ before
  schema_inner : ∀ t ∈ arrived s.innerLink before, t.schema = s.inner
  schema_outer : ∀ t ∈ arrived s.outerLink before, t.schema = s.outer

namespace Joining

/-- An input that may come after others: a tuple of its side, if the side has not ended. -/
def Expects (s : Joining) (before : List Input) : Input → Prop
  | .tuple t link => (link = s.innerLink ∧ t.schema = s.inner ∨
      link = s.outerLink ∧ t.schema = s.outer) ∧ .exhausted link ∉ before
  | .exhausted link => link = s.innerLink ∨ link = s.outerLink

lemma Expects.link_eq {s : Joining} {before : List Input} {input : Input}
    (h : s.Expects before input) : input.link = s.innerLink ∨ input.link = s.outerLink := by
  match input with
  | .tuple t link => exact h.1.imp And.left And.left
  | .exhausted link => exact h

end Joining

/-- The kept tuples of a join are of its two sides. -/
structure Join.Holds (s : Joining) (output : Schema) (j : Join) : Prop where
  innerLink_eq : j.innerLink = s.innerLink
  outerLink_eq : j.outerLink = s.outerLink
  realizes : j.plan.Realizes s.pairing s.inner s.outer output
  schema_inner : ∀ t ∈ j.inner, t.schema = s.inner
  schema_outer : ∀ t ∈ j.outer, t.schema = s.outer

namespace Join.Holds

variable {s : Joining} {output : Schema} {j : Join} {t : Tuple}

lemma sideOf_inner (h : j.Holds s output) : j.sideOf s.innerLink = .ok .inner := by
  rw [sideOf, if_pos h.innerLink_eq.symm]

lemma sideOf_outer (h : j.Holds s output) (hne : s.innerLink ≠ s.outerLink) :
    j.sideOf s.outerLink = .ok .outer := by
  rw [sideOf, h.innerLink_eq, if_neg hne.symm, if_pos h.outerLink_eq.symm]

lemma exists_probe_inner (h : j.Holds s output) (ht : t.schema = s.inner) :
    ∃ given, j.probe t .inner = .ok given ∧ given.map Tuple.fields = s.pairs [t] j.outer ∧
      ∀ x ∈ given, x.schema = output := by
  obtain ⟨given, hgiven, hmap, hall⟩ := Tuple.exists_mapM_eq_ok (j.outer.filter (j.plan.pairs t))
    fun u hu => h.realizes.joined_eq t u ht (h.schema_outer u (List.mem_of_mem_filter hu))
  refine ⟨given, hgiven, hmap.trans ?_, hall⟩
  rw [Joining.pairs_singleton_left]
  congr 1
  exact List.filter_congr fun u hu => h.realizes.pairs_eq t u ht (h.schema_outer u hu)

lemma exists_probe_outer (h : j.Holds s output) (ht : t.schema = s.outer) :
    ∃ given, j.probe t .outer = .ok given ∧ given.map Tuple.fields = s.pairs j.inner [t] ∧
      ∀ x ∈ given, x.schema = output := by
  obtain ⟨given, hgiven, hmap, hall⟩ := Tuple.exists_mapM_eq_ok (j.inner.filter (j.plan.pairs · t))
    fun u hu => h.realizes.joined_eq u t (h.schema_inner u (List.mem_of_mem_filter hu)) ht
  refine ⟨given, hgiven, hmap.trans ?_, hall⟩
  rw [Joining.pairs_singleton_right]
  congr 1
  exact List.filter_congr fun u hu => h.realizes.pairs_eq u t (h.schema_inner u hu) ht

lemma keep_inner (h : j.Holds s output) (ht : t.schema = s.inner) :
    (j.keep t .inner).Holds s output := by
  rw [keep]
  split_ifs
  · exact h
  · refine ⟨h.innerLink_eq, h.outerLink_eq, h.realizes, ?_, h.schema_outer⟩
    exact List.forall_mem_append.mpr ⟨h.schema_inner, by simpa using ht⟩

lemma keep_outer (h : j.Holds s output) (ht : t.schema = s.outer) :
    (j.keep t .outer).Holds s output := by
  rw [keep]
  split_ifs
  · exact h
  · refine ⟨h.innerLink_eq, h.outerLink_eq, h.realizes, h.schema_inner, ?_⟩
    exact List.forall_mem_append.mpr ⟨h.schema_outer, by simpa using ht⟩

lemma finish (h : j.Holds s output) (side : JoinSide) : (j.finish side).Holds s output := by
  match side with
  | .inner => exact ⟨h.innerLink_eq, h.outerLink_eq, h.realizes, h.schema_inner, nofun⟩
  | .outer => exact ⟨h.innerLink_eq, h.outerLink_eq, h.realizes, nofun, h.schema_outer⟩

/-- Whatever a join keeps, it takes every tuple of its two sides. -/
lemma exists_process (h : j.Holds s output) (hne : s.innerLink ≠ s.outerLink) (now : Nat)
    {input : Input} (hinput : s.Expects [] input) :
    ∃ given j', Worker.process now input j = (.ok given, j') ∧ j'.Holds s output ∧
      ∀ x ∈ given, x.schema = output := by
  match input with
  | .tuple t link =>
    obtain ⟨⟨rfl, ht⟩ | ⟨rfl, ht⟩, -⟩ := hinput
    · obtain ⟨given, hgiven, -, hall⟩ := h.exists_probe_inner ht
      refine ⟨given, _, ?_, h.keep_inner ht, hall⟩
      simp [Worker.process, process, take, h.sideOf_inner, hgiven]
    · obtain ⟨given, hgiven, -, hall⟩ := h.exists_probe_outer ht
      refine ⟨given, _, ?_, h.keep_outer ht, hall⟩
      simp [Worker.process, process, take, h.sideOf_outer hne, hgiven]
  | .exhausted link =>
    rcases hinput with rfl | rfl
    · refine ⟨[], _, ?_, h.finish .inner, nofun⟩
      simp [Worker.process, process, take, h.sideOf_inner]
    · refine ⟨[], _, ?_, h.finish .outer, nofun⟩
      simp [Worker.process, process, take, h.sideOf_outer hne]

end Join.Holds

namespace Join.Recalls

variable {s : Joining} {output : Schema} {before : List Input} {j : Join} {t : Tuple}

lemma holds (h : j.Recalls s output before) : j.Holds s output where
  innerLink_eq := h.innerLink_eq
  outerLink_eq := h.outerLink_eq
  realizes := h.realizes
  schema_inner := by
    intro t ht
    rw [h.inner_eq] at ht
    split_ifs at ht
    · exact (List.not_mem_nil ht).elim
    · exact h.schema_inner t ht
  schema_outer := by
    intro t ht
    rw [h.outer_eq] at ht
    split_ifs at ht
    · exact (List.not_mem_nil ht).elim
    · exact h.schema_outer t ht

/-- A tuple of the inner side is kept as long as the outer side has not ended. -/
lemma keep_inner (h : j.Recalls s output before) (hne : s.innerLink ≠ s.outerLink)
    (ht : t.schema = s.inner) :
    (j.keep t .inner).Recalls s output (before ++ [.tuple t s.innerLink]) := by
  have hkeep : j.keep t .inner =
      { j with inner := if j.outerEnded then j.inner else j.inner ++ [t] } := by
    rw [keep]
    split_ifs <;> rfl
  have hmem (link : Link) : .exhausted link ∈ before ++ [Input.tuple t s.innerLink] ↔
      .exhausted link ∈ before := by simp
  rw [hkeep]
  constructor
  all_goals simp only [hmem, arrived_append, arrived_tuple, if_true, hne, if_false,
    List.append_nil]
  · exact h.innerLink_eq
  · exact h.outerLink_eq
  · exact h.realizes
  · simp only [h.inner_eq, h.outerEnded_iff]
    split_ifs <;> rfl
  · exact h.outer_eq
  · exact h.innerEnded_iff
  · exact h.outerEnded_iff
  · simpa [or_imp, forall_and, ht] using h.schema_inner
  · exact h.schema_outer

lemma keep_outer (h : j.Recalls s output before) (hne : s.innerLink ≠ s.outerLink)
    (ht : t.schema = s.outer) :
    (j.keep t .outer).Recalls s output (before ++ [.tuple t s.outerLink]) := by
  have hkeep : j.keep t .outer =
      { j with outer := if j.innerEnded then j.outer else j.outer ++ [t] } := by
    rw [keep]
    split_ifs <;> rfl
  have hmem (link : Link) : .exhausted link ∈ before ++ [Input.tuple t s.outerLink] ↔
      .exhausted link ∈ before := by simp
  rw [hkeep]
  constructor
  all_goals simp only [hmem, arrived_append, arrived_tuple, if_true, hne.symm, if_false,
    List.append_nil]
  · exact h.innerLink_eq
  · exact h.outerLink_eq
  · exact h.realizes
  · exact h.inner_eq
  · simp only [h.outer_eq, h.innerEnded_iff]
    split_ifs <;> rfl
  · exact h.innerEnded_iff
  · exact h.outerEnded_iff
  · exact h.schema_inner
  · simpa [or_imp, forall_and, ht] using h.schema_outer

lemma finish_inner (h : j.Recalls s output before) (hne : s.innerLink ≠ s.outerLink) :
    (j.finish .inner).Recalls s output (before ++ [.exhausted s.innerLink]) := by
  constructor
  all_goals simp only [finish, arrived_append, arrived_exhausted, List.append_nil, List.mem_append,
    List.mem_singleton, Input.exhausted.injEq, hne.symm, or_false, or_true, if_true]
  · exact h.innerLink_eq
  · exact h.outerLink_eq
  · exact h.realizes
  · exact h.inner_eq
  · exact h.outerEnded_iff
  · exact h.schema_inner
  · exact h.schema_outer

lemma finish_outer (h : j.Recalls s output before) (hne : s.innerLink ≠ s.outerLink) :
    (j.finish .outer).Recalls s output (before ++ [.exhausted s.outerLink]) := by
  constructor
  all_goals simp only [finish, arrived_append, arrived_exhausted, List.append_nil, List.mem_append,
    List.mem_singleton, Input.exhausted.injEq, hne, or_false, or_true, if_true]
  · exact h.innerLink_eq
  · exact h.outerLink_eq
  · exact h.realizes
  · exact h.outer_eq
  · exact h.innerEnded_iff
  · exact h.schema_inner
  · exact h.schema_outer

/-- An input that is expected completes its pairs. -/
theorem exists_process (h : j.Recalls s output before) (hne : s.innerLink ≠ s.outerLink)
    {input : Input} (hinput : s.Expects before input) :
    ∃ given j', (∀ now, Worker.process now input j = (.ok given, j')) ∧
      given.map Tuple.fields = s.completes before input ∧ (∀ x ∈ given, x.schema = output) ∧
      j'.Recalls s output (before ++ [input]) := by
  have hside {side : JoinSide} {link : Link} (hlink : j.sideOf link = .ok side) {t : Tuple}
      {given : List Tuple} (hprobe : j.probe t side = .ok given) (now : Nat) :
      Worker.process now (.tuple t link) j = (.ok given, j.keep t side) := by
    simp [Worker.process, Join.process, take, hlink, hprobe]
  have hinner := h.holds.sideOf_inner
  have houter := h.holds.sideOf_outer hne
  cases input with
  | tuple t link =>
    obtain ⟨⟨rfl, ht⟩ | ⟨rfl, ht⟩, hends⟩ := hinput
    · obtain ⟨given, hprobe, hmap, hall⟩ := h.holds.exists_probe_inner ht
      refine ⟨given, j.keep t .inner, hside hinner hprobe, ?_, hall, h.keep_inner hne ht⟩
      rw [hmap, Joining.completes, if_pos rfl, h.outer_eq, if_neg hends]
    · obtain ⟨given, hprobe, hmap, hall⟩ := h.holds.exists_probe_outer ht
      refine ⟨given, j.keep t .outer, hside houter hprobe, ?_, hall, h.keep_outer hne ht⟩
      rw [hmap, Joining.completes, if_neg hne.symm, h.inner_eq, if_neg hends]
  | exhausted link =>
    rcases hinput with rfl | rfl
    · refine ⟨[], j.finish .inner, fun now => ?_, rfl, List.forall_mem_nil _, h.finish_inner hne⟩
      simp [Worker.process, Join.process, take, hinner]
    · refine ⟨[], j.finish .outer, fun now => ?_, rfl, List.forall_mem_nil _, h.finish_outer hne⟩
      simp [Worker.process, Join.process, take, houter]

/-- Inputs that are expected one after the other complete all their pairs. -/
theorem exists_run (h : j.Recalls s output before) (hne : s.innerLink ≠ s.outerLink)
    {calls : List (Nat × Input)}
    (hall : ∀ earlier input later, calls.map Prod.snd = earlier ++ input :: later →
      s.Expects (before ++ earlier) input) :
    ∃ (given : List (List Tuple)) (j' : Join), Worker.run calls j = (given.map .ok, j') ∧
      given.map (·.map Tuple.fields) = s.course before (calls.map Prod.snd) ∧
      (∀ x ∈ given.flatten, x.schema = output) ∧
      j'.Recalls s output (before ++ calls.map Prod.snd) := by
  induction calls generalizing before j with
  | nil => exact ⟨[], j, rfl, rfl, nofun, by simpa using h⟩
  | cons call calls ih =>
    obtain ⟨now, input⟩ := call
    have hinput := hall [] input _ rfl
    rw [List.append_nil] at hinput
    obtain ⟨given, j₁, hprocess, hmap, hschema, hnext⟩ := h.exists_process hne hinput
    obtain ⟨given', j', hrun, hmap', hschema', hlast⟩ := ih hnext fun earlier input' later heq => by
      rw [List.append_assoc]
      exact hall (input :: earlier) input' later (congrArg (input :: ·) heq)
    refine ⟨given :: given', j', ?_, ?_, ?_, ?_⟩
    · simp only [Worker.run, hprocess, hrun, List.map_cons]
    · rw [List.map_cons, hmap, hmap']
      rfl
    · rw [List.flatten_cons, List.forall_mem_append]
      exact ⟨hschema, hschema'⟩
    · rwa [List.append_assoc] at hlast

end Join.Recalls

/-! ### Whole runs -/

lemma arrived_filter (link : Link) (inputs : List Input) :
    arrived link (inputs.filter (·.link = link)) = arrived link inputs := by
  rw [arrived, List.filterMap_filter, arrived]
  refine List.filterMap_congr fun input _ => ?_
  match input with
  | .tuple t own => by_cases h : own = link <;> simp [Input.link, h]
  | .exhausted own => simp

lemma arrived_side (link : Link) (ts : List Tuple) :
    arrived link (ts.map (.tuple · link) ++ [.exhausted link]) = ts := by
  rw [arrived_append, arrived_exhausted, List.append_nil, arrived, List.filterMap_map]
  simp

lemma not_mem_of_append_eq {ts : List Tuple} {link own : Link} {t : Tuple}
    {earlier later : List Input}
    (h : earlier ++ .tuple t own :: later = ts.map (.tuple · link) ++ [.exhausted link]) :
    t ∈ ts ∧ .exhausted link ∉ earlier := by
  induction ts generalizing earlier with
  | nil => rcases earlier with _ | ⟨_, _ | _⟩ <;> simp at h
  | cons u ts ih =>
    match earlier with
    | [] =>
      simp only [List.nil_append, List.map_cons, List.cons_append, List.cons.injEq,
        Input.tuple.injEq] at h
      exact ⟨h.1.1 ▸ List.mem_cons_self, List.not_mem_nil⟩
    | first :: earlier =>
      simp only [List.map_cons, List.cons_append, List.cons.injEq] at h
      obtain ⟨rfl, h⟩ := h
      obtain ⟨hmem, hnot⟩ := ih h
      exact ⟨List.mem_cons_of_mem _ hmem, by simpa using hnot⟩

namespace Joining.Arrive

variable {s : Joining} {inners outers : List Tuple} {inputs : List Input}

lemma expects (h : s.Arrive inners outers inputs) {earlier later : List Input} {input : Input}
    (heq : inputs = earlier ++ input :: later) : s.Expects earlier input := by
  have hlink := h.link_eq input (heq ▸ by simp)
  match input with
  | .exhausted link => exact hlink
  | .tuple t link =>
    rcases hlink with hlink | hlink
    · obtain rfl : link = s.innerLink := hlink
      have hinner := h.inner_eq
      rw [heq, List.filter_append, List.filter_cons_of_pos (by simp [Input.link])] at hinner
      obtain ⟨hmem, hnot⟩ := not_mem_of_append_eq hinner
      exact ⟨.inl ⟨rfl, h.schema_inner t hmem⟩, by simpa [Input.link] using hnot⟩
    · obtain rfl : link = s.outerLink := hlink
      have houter := h.outer_eq
      rw [heq, List.filter_append, List.filter_cons_of_pos (by simp [Input.link])] at houter
      obtain ⟨hmem, hnot⟩ := not_mem_of_append_eq houter
      exact ⟨.inr ⟨rfl, h.schema_outer t hmem⟩, by simpa [Input.link] using hnot⟩

lemma arrived_inner (h : s.Arrive inners outers inputs) : arrived s.innerLink inputs = inners := by
  rw [← arrived_filter, h.inner_eq, arrived_side]

lemma arrived_outer (h : s.Arrive inners outers inputs) : arrived s.outerLink inputs = outers := by
  rw [← arrived_filter, h.outer_eq, arrived_side]

lemma inner_ended (h : s.Arrive inners outers inputs) : .exhausted s.innerLink ∈ inputs := by
  have hmem : .exhausted s.innerLink ∈ inputs.filter (·.link = s.innerLink) := by
    rw [h.inner_eq]
    simp
  exact List.mem_of_mem_filter hmem

lemma outer_ended (h : s.Arrive inners outers inputs) : .exhausted s.outerLink ∈ inputs := by
  have hmem : .exhausted s.outerLink ∈ inputs.filter (·.link = s.outerLink) := by
    rw [h.outer_eq]
    simp
  exact List.mem_of_mem_filter hmem

end Joining.Arrive

namespace StandardFactory

variable {r : Request} {tables : TableSchemas} {s : Joining}

/-- A request to join two inputs that a schema was inferred for gives a join that knows nothing
yet. -/
lemma exists_join
    (hkind : r.operator.kind =
      .join s.pairing.innerColumn s.pairing.outerColumn s.pairing.threshold)
    (hlinks : r.links = [s.innerLink, s.outerLink]) (hinputs : r.inputs = [s.inner, s.outer])
    (hschema : r.operator.outputSchema tables r.inputs = .ok r.output) :
    ∃ j, join r = .ok (.worker (.join j)) ∧ j.Recalls s r.output [] := by
  have houtput : Operator.joinSchema r.operator.id s.inner s.outer s.pairing.innerColumn
      s.pairing.outerColumn = .ok r.output := by
    simpa [Operator.outputSchema, hinputs, hkind, OperatorKind.inputArity] using hschema
  have hattributes := Operator.attributes_of_joinSchema houtput
  have hplan := JoinPlan.ofSchemas_eq r.operator.id (p := s.pairing) hattributes
  refine ⟨{ operator := r.operator.id, innerLink := s.innerLink, outerLink := s.outerLink
            plan := .between s.pairing s.inner s.outer r.output }, ?_, ?_⟩
  · simp [join, hkind, hlinks, Request.input, hinputs, hplan]
  · exact ⟨rfl, rfl, JoinPlan.between_realizes hattributes, rfl, rfl, by simp, by simp, nofun,
      nofun⟩

lemma run_join (calls : List (Nat × Input)) (j : Join) :
    Worker.run calls (StandardWorker.join j) = (Worker.run calls j).map id .join := by
  induction calls generalizing j with
  | nil => rfl
  | cons call calls ih =>
    have hprocess : Worker.process call.1 call.2 (StandardWorker.join j) =
      (Worker.process call.1 call.2 j).map id .join := rfl
    simp only [Worker.run, hprocess, Prod.map_fst, Prod.map_snd, ih, id_eq]
    rfl

/-- Whatever order the tuples of the two sides arrive in, with the end of each side behind its last
tuple, no call fails, each call completes the pairs of its tuple with those of the other side that
came before, all pairs come out once, and no tuple is kept in the end. -/
theorem join_completes_pairs
    (hkind : r.operator.kind =
      .join s.pairing.innerColumn s.pairing.outerColumn s.pairing.threshold)
    (hlinks : r.links = [s.innerLink, s.outerLink]) (hne : s.innerLink ≠ s.outerLink)
    (hinputs : r.inputs = [s.inner, s.outer])
    (hschema : r.operator.outputSchema tables r.inputs = .ok r.output) :
    ∃ j, join r = .ok (.worker (.join j)) ∧
      ∀ inners outers (calls : List (Nat × Input)), s.Arrive inners outers (calls.map Prod.snd) →
        ∃ (given : List (List Tuple)) (j' : Join),
          Worker.run calls (StandardWorker.join j) = (given.map .ok, .join j') ∧
          given.map (·.map Tuple.fields) = s.course [] (calls.map Prod.snd) ∧
          (given.flatten.map Tuple.fields).Perm (s.pairs inners outers) ∧
          (∀ x ∈ given.flatten, x.schema = r.output) ∧ j'.inner = [] ∧ j'.outer = [] := by
  obtain ⟨j, hjoin, hnew⟩ := exists_join hkind hlinks hinputs hschema
  refine ⟨j, hjoin, fun inners outers calls h => ?_⟩
  obtain ⟨given, j', hrun, hmap, hall, hend⟩ := hnew.exists_run hne
    fun earlier input later heq => h.expects heq
  rw [List.nil_append] at hend
  refine ⟨given, j', by rw [run_join, hrun]; rfl, hmap, ?_, hall, ?_, ?_⟩
  · have hpairs := Joining.pairs_append [] hne h.link_eq
    rw [List.nil_append, h.arrived_inner, h.arrived_outer, ← hmap, ← List.map_flatten] at hpairs
    exact hpairs.symm
  · rw [hend.inner_eq, if_pos h.outer_ended]
  · rw [hend.outer_eq, if_pos h.inner_ended]

/-! ### Two matches near each other -/

/-- Texts with the matches of one query, joined with the same texts with those of another one. -/
def nearMatches : Joining where
  pairing := ⟨"text", "text", 4⟩
  inner := ⟨[⟨"text", .text⟩, ⟨"left", .list⟩], by decide⟩
  outer := ⟨[⟨"text", .text⟩, ⟨"right", .list⟩], by decide⟩
  innerLink := ⟨"left", "join"⟩
  outerLink := ⟨"right", "join"⟩

/-- The request for the join. -/
def nearRequest : Request where
  operator := ⟨"join", .join "text" "text" 4⟩
  inputs := [nearMatches.inner, nearMatches.outer]
  links := [nearMatches.innerLink, nearMatches.outerLink]
  output := ⟨[⟨"text", .text⟩, ⟨"left", .list⟩, ⟨"right", .list⟩], by decide⟩
  worker := 0
  context := ⟨{}, ⟨[]⟩⟩

/-- A text with a match at its start. -/
def nearInner : Tuple where
  schema := nearMatches.inner
  fields := [.text "to be", .list [⟨"text", 0, 2, "to", "to"⟩]]
  fitting := by decide

/-- The same text with a match behind. -/
def nearOuter : Tuple where
  schema := nearMatches.outer
  fields := [.text "to be", .list [⟨"text", 3, 5, "be", "be"⟩]]
  fitting := by decide

/-- The inner side has ended when the outer tuple arrives, and still they are paired. -/
theorem near_completes_pair : ∃ (j j' : Join) (given : List (List Tuple)),
    join nearRequest = .ok (.worker (.join j)) ∧
    Worker.run [(0, .tuple nearInner nearMatches.innerLink), (1, .exhausted nearMatches.innerLink),
      (2, .tuple nearOuter nearMatches.outerLink), (3, .exhausted nearMatches.outerLink)]
      (StandardWorker.join j) = (given.map .ok, .join j') ∧
    (given.flatten.map Tuple.fields).Perm [nearInner.fields ++ nearOuter.fields.drop 1] ∧
    j'.inner = [] ∧ j'.outer = [] := by
  have hschema : nearRequest.operator.outputSchema Catalog.empty.schemas nearRequest.inputs =
      .ok nearRequest.output := rfl
  obtain ⟨j, hjoin, hruns⟩ := join_completes_pairs (r := nearRequest) (s := nearMatches) rfl rfl
    (by decide) rfl hschema
  obtain ⟨given, j', hrun, -, hpairs, -, hinner, houter⟩ := hruns [nearInner] [nearOuter]
    [(0, .tuple nearInner nearMatches.innerLink), (1, .exhausted nearMatches.innerLink),
      (2, .tuple nearOuter nearMatches.outerLink), (3, .exhausted nearMatches.outerLink)]
    ⟨by decide +kernel, by decide +kernel, by decide, by decide, by decide⟩
  exact ⟨j, j', given, hjoin, hrun, hpairs, hinner, houter⟩

end StandardFactory

end Dataflow
