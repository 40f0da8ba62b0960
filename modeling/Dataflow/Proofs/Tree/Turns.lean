import Dataflow.Proofs.Lists
import Dataflow.Proofs.Tree.Wiring

/-!
# Taking turns

The inputs of a team stand in a circle. The input that is pulled is the first one that has not
ended, going on from behind the one that was pulled before. So an input does not come up again
before each other one has come up once, as long as it has not ended.
-/

namespace Dataflow

/-- How far it is from one place to another in a circle of so many places. -/
def ahead (places start place : Nat) : Nat :=
  if start ≤ place then place - start else place + places - start

variable {m s i j : Nat}

lemma ahead_add_mod (hs : s < m) (hj : j < m) : (ahead m s j + s) % m = j := by
  unfold ahead
  split_ifs with hle
  · rw [Nat.sub_add_cancel hle, Nat.mod_eq_of_lt hj]
  · rw [Nat.sub_add_cancel (by omega), Nat.add_mod_right, Nat.mod_eq_of_lt hj]

lemma ahead_mod_add {n : Nat} (hs : s < m) (hn : n < m) : ahead m s ((n + s) % m) = n := by
  unfold ahead
  by_cases hlt : n + s < m
  · rw [Nat.mod_eq_of_lt hlt, if_pos (by omega)]
    omega
  · rw [Nat.mod_eq_sub_mod (Nat.not_lt.mp hlt), Nat.mod_eq_of_lt (by omega), if_neg (by omega)]
    omega

lemma ahead_next_lt (hi : i < m) (hj : j < m) (hne : j ≠ i) :
    ahead m ((i + 1) % m) j < ahead m ((i + 1) % m) i := by
  rcases Nat.lt_or_eq_of_le (Nat.succ_le_of_lt hi) with hlt | rfl
  · rw [Nat.mod_eq_of_lt hlt]
    unfold ahead
    split_ifs <;> omega
  · rw [Nat.mod_self]
    unfold ahead
    split_ifs <;> omega

/-- Passing the first of some places leaves the others in their order. -/
lemma ahead_next_mono {p : Nat} (hs : s < m) (hp : p < m) (hi : i < m) (hj : j < m) (hne : i ≠ p)
    (hfirst : ahead m s p ≤ ahead m s i) (hlt : ahead m s i < ahead m s j) :
    ahead m ((p + 1) % m) i < ahead m ((p + 1) % m) j := by
  rcases Nat.lt_or_eq_of_le (Nat.succ_le_of_lt hp) with hp' | rfl
  · rw [Nat.mod_eq_of_lt hp']
    unfold ahead at *
    split_ifs at * <;> omega
  · rw [Nat.mod_self]
    unfold ahead at *
    split_ifs at * <;> omega

/-- Inputs are pulled in turn: the next one is the first that has not ended, from some place on.
Each pull is noted with what it gave, and an input that gave nothing has ended. -/
inductive Turns {α : Type} (m : Nat) : Nat → List (Nat × Option α) → Prop
  | start : Turns m 0 []
  | pull {s i : Nat} {pulls : List (Nat × Option α)} (before : Turns m s pulls) (inside : i < m)
      (live : (i, none) ∉ pulls)
      (first : ∀ j < m, (j, none) ∉ pulls → ahead m s i ≤ ahead m s j) (given : Option α) :
      Turns m ((i + 1) % m) (pulls ++ [(i, given)])

namespace Turns

variable {α : Type} {pulls before mid after : List (Nat × Option α)} {given given' : Option α}

lemma place_lt (h : Turns m s pulls) (hm : 0 < m) : s < m := by
  cases h with
  | start => exact hm
  | pull => exact Nat.mod_lt _ hm

lemma inside (h : Turns m s pulls) : ∀ p ∈ pulls, p.1 < m := by
  induction h with
  | start => simp
  | pull _ hi _ _ _ ih =>
    intro p hp
    rcases List.mem_append.mp hp with hp | hp
    · exact ih p hp
    · rw [List.mem_singleton.mp hp]
      exact hi

lemma not_mem_after_end (h : Turns m s pulls) (hsplit : pulls = before ++ (i, none) :: after) :
    (i, given) ∉ after := by
  induction h generalizing after with
  | start => simp at hsplit
  | pull _ _ live _ _ ih =>
    rcases concat_eq_append_cons_iff.mp hsplit with ⟨-, -, rfl⟩ | ⟨rest, hold, rfl⟩
    · exact List.not_mem_nil
    · intro hmem
      rcases List.mem_append.mp hmem with hmem | hmem
      · exact ih hold hmem
      · obtain ⟨rfl, -⟩ := Prod.mk.inj (List.mem_singleton.mp hmem)
        exact live (hold ▸ List.mem_append_right _ List.mem_cons_self)

/-- Since an input was pulled that has not ended, another one that had not ended then either has
been left out and comes first, or has come up once and, unless it has ended, comes later. -/
lemma since (h : Turns m s pulls) (hsplit : pulls = before ++ (i, given) :: mid)
    (hmid : ∀ given, (i, given) ∉ mid) (hi : (i, none) ∉ pulls) (hj : j < m) (hne : j ≠ i)
    (hlive : (j, none) ∉ before) :
    (mid.countP (·.1 = j) = 0 ∧ (j, none) ∉ pulls ∧ ahead m s j < ahead m s i) ∨
      (mid.countP (·.1 = j) = 1 ∧ ((j, none) ∉ pulls → ahead m s i < ahead m s j)) := by
  induction h generalizing mid with
  | start => simp at hsplit
  | @pull s p pulls h inside live first given' ih =>
    rcases concat_eq_append_cons_iff.mp hsplit with ⟨rfl, heq, rfl⟩ | ⟨mid, hold, rfl⟩
    · -- the input was pulled just now
      obtain ⟨rfl, rfl⟩ := Prod.mk.inj heq
      exact .inl ⟨rfl, by simp [hlive, hne], ahead_next_lt inside hj hne⟩
    have hi' : (i, none) ∉ pulls := fun hmem => hi (List.mem_append_left _ hmem)
    have hp : p ≠ i := by
      rintro rfl
      exact hmid given' (by simp)
    have hi_lt : i < m := h.inside (i, given) (hold ▸ by simp)
    have hs : s < m := h.place_lt (Nat.zero_lt_of_lt inside)
    have hmid' : ∀ given, (i, given) ∉ mid := fun given hmem =>
      hmid given (List.mem_append_left _ hmem)
    by_cases hpj : p = j
    · subst hpj
      rcases ih hold hmid' hi' with ⟨hzero, -, -⟩ | ⟨hone, hlater⟩
      · refine .inr ⟨by simp [hzero], fun _ => ahead_next_lt inside hi_lt hp.symm⟩
      · exact absurd (hlater live) (Nat.not_lt.mpr (first i hi_lt hi'))
    · have hcount : (mid ++ [(p, given')]).countP (·.1 = j) = mid.countP (·.1 = j) := by
        simp [hpj]
      rw [hcount]
      rcases ih hold hmid' hi' with ⟨hzero, hj', hlt⟩ | ⟨hone, hlater⟩
      · refine .inl ⟨hzero, by simp [hj', Ne.symm hpj], ?_⟩
        exact ahead_next_mono hs inside hj hi_lt (Ne.symm hpj) (first j hj hj') hlt
      · refine .inr ⟨hone, fun hj' => ?_⟩
        have hj' : (j, none) ∉ pulls := fun hmem => hj' (List.mem_append_left _ hmem)
        exact ahead_next_mono hs inside hi_lt hj (Ne.symm hp) (first i hi_lt hi') (hlater hj')

/-- Between two pulls of one input, one behind the other, each other input that had not ended is
pulled exactly once. -/
lemma fair (h : Turns m s pulls)
    (hsplit : pulls = before ++ (i, given) :: (mid ++ (i, given') :: after))
    (hmid : ∀ given, (i, given) ∉ mid) (hj : j < m) (hne : j ≠ i) (hlive : (j, none) ∉ before) :
    mid.countP (·.1 = j) = 1 := by
  induction h generalizing after with
  | start => simp at hsplit
  | pull h inside live first _ ih =>
    rw [← List.cons_append, ← List.append_assoc] at hsplit
    rcases concat_eq_append_cons_iff.mp hsplit with ⟨hold, heq, rfl⟩ | ⟨rest, hold, rfl⟩
    · obtain ⟨rfl, -⟩ := Prod.mk.inj heq
      rcases h.since hold hmid live hj hne hlive with ⟨-, hj', hlt⟩ | ⟨hone, -⟩
      · exact absurd hlt (Nat.not_lt.mpr (first j hj hj'))
      · exact hone
    · exact ih (by rw [hold, List.append_assoc, List.cons_append])

end Turns

namespace Team

variable {ω : Type}

lemma pick?_eq_find?_rotate {team : Team ω} (h : team.nextSlot < team.slots.length) :
    team.pick? = ((team.slots.zipIdx.map fun entry => (entry.2, entry.1)).rotate
      team.nextSlot).find? (!·.2.exhausted) := by
  rw [List.rotate_eq_drop_append_take (by simpa using h.le)]
  rfl

/-- The input that is picked is the first one that has not ended, going around from the one whose
turn it is. -/
lemma ahead_pick? {team : Team ω} {slot other : Slot}
    (hturn : team.nextSlot < team.slots.length) (h : team.pick? = some (i, slot))
    (hj : team.slots[j]? = some other) (hlive : other.exhausted = false) :
    ahead team.slots.length team.nextSlot i ≤ ahead team.slots.length team.nextSlot j := by
  rw [pick?_eq_find?_rotate hturn] at h
  obtain ⟨-, n, hn, heq, hbefore⟩ := List.find?_eq_some_iff_getElem.mp h
  rw [List.length_rotate, List.length_map, List.length_zipIdx] at hn
  have hj_lt := (List.getElem?_eq_some_iff.mp hj).1
  have hi : i = (n + team.nextSlot) % team.slots.length := by
    simpa [List.getElem_rotate] using (congrArg Prod.fst heq).symm
  rw [hi, ahead_mod_add hturn hn]
  by_contra hnot
  have hended := hbefore _ (Nat.not_le.mp hnot)
  simp only [List.getElem_rotate, List.length_map, List.length_zipIdx, ahead_add_mod hturn hj_lt,
    List.getElem_map, List.getElem_zipIdx, Nat.zero_add, (List.getElem?_eq_some_iff.mp hj).2,
    hlive] at hended
  exact absurd hended (by decide)

end Team

end Dataflow
