import Mathlib.Tactic

/-!
# Lists

What is found at a place of a list when the list grows at its end, and steps along a list that may
fail.
-/

namespace Dataflow

variable {α : Type}

lemma getElem?_concat_eq_some_iff {l : List α} {a x : α} {i : Nat} :
    (l ++ [a])[i]? = some x ↔ l[i]? = some x ∨ i = l.length ∧ x = a := by
  rcases Nat.lt_trichotomy i l.length with hlt | rfl | hgt
  · rw [List.getElem?_append_left hlt]
    simp [hlt.ne]
  · simp [eq_comm]
  · rw [List.getElem?_append_right hgt.le, List.getElem?_eq_none hgt.le]
    have : i - l.length ≠ 0 := by omega
    simp [hgt.ne', this]

/-- An entry of a list with one more entry is the new one or has it behind. -/
lemma concat_eq_append_cons_iff {l before after : List α} {a x : α} :
    l ++ [a] = before ++ x :: after ↔
      (l = before ∧ a = x ∧ after = []) ∨
        ∃ rest, l = before ++ x :: rest ∧ after = rest ++ [a] := by
  rcases after.eq_nil_or_concat' with rfl | ⟨rest, last, rfl⟩
  · simp
  · constructor
    · intro h
      rw [← List.cons_append, ← List.append_assoc] at h
      obtain ⟨hl, hlast⟩ := List.append_inj' h rfl
      exact .inr ⟨rest, hl, by rw [hlast]⟩
    · rintro (⟨-, -, hnil⟩ | ⟨rest', rfl, heq⟩)
      · simp at hnil
      · rw [heq, List.append_assoc, List.cons_append]

lemma getElem?_of_prefix {l l' : List α} (h : l <+: l') {i : Nat} {x : α} (hx : l[i]? = some x) :
    l'[i]? = some x := by
  obtain ⟨more, rfl⟩ := h
  rwa [List.getElem?_append_left (List.getElem?_eq_some_iff.mp hx).1]

lemma set_eq_self {xs : List α} {i : Nat} {x : α} (hx : xs[i]? = some x) : xs.set i x = xs := by
  obtain ⟨hi, rfl⟩ := List.getElem?_eq_some_iff.mp hx
  exact List.set_getElem_self hi

/-- The first entry of an ascending list that passes a test is the least one that does. -/
lemma le_of_find?_eq_some [LinearOrder α] {l : List α} {test : α → Bool} {first x : α}
    (h : l.Pairwise (· < ·)) (hfirst : l.find? test = some first) (hx : x ∈ l)
    (htest : test x = true) : first ≤ x := by
  obtain ⟨-, before, after, rfl, hbefore⟩ := List.find?_eq_some_iff_append.mp hfirst
  rcases List.mem_append.mp hx with hmem | hmem
  · exact absurd htest (by simpa using hbefore x hmem)
  · rcases List.mem_cons.mp hmem with rfl | hmem
    · exact le_rfl
    · exact (List.rel_of_pairwise_cons (List.pairwise_append.mp h).2.1 hmem).le

lemma map_modify {β : Type} {xs : List α} {i : Nat} {f : α → α} {g : α → β} {h : β → β}
    (heq : ∀ x, xs[i]? = some x → g (f x) = h (g x)) :
    (xs.modify i f).map g = (xs.map g).modify i h := by
  apply List.ext_getElem?
  intro j
  simp only [List.getElem?_map, List.getElem?_modify]
  by_cases hij : i = j
  · subst hij
    match hx : xs[i]? with
    | none => simp
    | some x => simp [heq x hx]
  · match xs[j]? with
    | none => simp
    | some x => simp [hij]

lemma map_modify_of_eq {β : Type} {xs : List α} {i : Nat} {f : α → α} {g : α → β}
    (heq : ∀ x, xs[i]? = some x → g (f x) = g x) : (xs.modify i f).map g = xs.map g :=
  (map_modify (h := id) heq).trans (List.modify_id ..)

lemma flatMap_set_of_eq {β : Type} {xs : List α} {i : Nat} {x y : α} {f : α → List β}
    (hx : xs[i]? = some x) (heq : f y = f x) : (xs.set i y).flatMap f = xs.flatMap f := by
  induction xs generalizing i with
  | nil => rfl
  | cons head rest ih =>
    match i with
    | 0 =>
      rw [List.getElem?_cons_zero, Option.some.injEq] at hx
      rw [List.set_cons_zero, List.flatMap_cons, List.flatMap_cons, heq, hx]
    | i + 1 =>
      rw [List.getElem?_cons_succ] at hx
      rw [List.set_cons_succ, List.flatMap_cons, List.flatMap_cons, ih hx]

open List in
/-- An entry that is replaced takes its parts with it and is followed by those of the other one. -/
lemma flatMap_set_perm {β : Type} {xs : List α} {i : Nat} {x : α} (hx : xs[i]? = some x) (y : α)
    (f : α → List β) : (f x ++ (xs.set i y).flatMap f).Perm (f y ++ xs.flatMap f) := by
  induction xs generalizing i with
  | nil => cases hx
  | cons head rest ih =>
    match i with
    | 0 =>
      rw [List.getElem?_cons_zero, Option.some.injEq] at hx
      rw [List.set_cons_zero, List.flatMap_cons, List.flatMap_cons, hx]
      exact List.perm_append_comm_assoc ..
    | i + 1 =>
      rw [List.getElem?_cons_succ] at hx
      rw [List.set_cons_succ, List.flatMap_cons, List.flatMap_cons]
      calc f x ++ (f head ++ (rest.set i y).flatMap f)
        _ ~ f head ++ (f x ++ (rest.set i y).flatMap f) := List.perm_append_comm_assoc ..
        _ ~ f head ++ (f y ++ rest.flatMap f) := (ih hx).append_left _
        _ ~ f y ++ (f head ++ rest.flatMap f) := List.perm_append_comm_assoc ..

/-- What two relations find for the same entries is the same if it is for each entry. -/
lemma forall₂_unique {β : Type} {R S : α → β → Prop} {xs : List α} {ys zs : List β}
    (h : List.Forall₂ R xs ys) (h' : List.Forall₂ S xs zs)
    (heq : ∀ x y z, R x y → S x z → y = z) : ys = zs := by
  induction h generalizing zs with
  | nil => exact (List.forall₂_nil_left_iff.mp h').symm
  | cons hxy _ ih =>
    cases h' with
    | cons hxz hrest => rw [heq _ _ _ hxy hxz, ih hrest]

lemma exists_of_forall₂_left {β : Type} {R : α → β → Prop} {xs : List α} {ys : List β}
    (h : List.Forall₂ R xs ys) {x : α} (hx : x ∈ xs) : ∃ y ∈ ys, R x y := by
  obtain ⟨i, hi, rfl⟩ := List.getElem_of_mem hx
  have hi' : i < ys.length := h.length_eq ▸ hi
  exact ⟨ys[i], List.getElem_mem hi', h.get hi hi'⟩

lemma exists_of_forall₂_right {β : Type} {R : α → β → Prop} {xs : List α} {ys : List β}
    (h : List.Forall₂ R xs ys) {y : β} (hy : y ∈ ys) : ∃ x ∈ xs, R x y :=
  exists_of_forall₂_left h.flip hy

lemma seq_eq_ok_iff {ε β : Type} {step : Except ε α} {f : α → Except ε β} {y : β} :
    (step >>= f) = .ok y ↔ ∃ x, step = .ok x ∧ f x = .ok y := by
  match step with
  | .error e => exact ⟨fun h => (nomatch h), fun ⟨_, h, _⟩ => (nomatch h)⟩
  | .ok x => exact ⟨fun h => ⟨x, rfl, h⟩, fun ⟨_, hx, h⟩ => by cases hx; exact h⟩

lemma seq_ne_error {ε β : Type} {step : Except ε α} {f : α → Except ε β} {e : ε}
    (h : step ≠ .error e) (hf : ∀ x, f x ≠ .error e) : (step >>= f) ≠ .error e := by
  match step with
  | .error e' => exact fun heq => h (by cases heq; rfl)
  | .ok x => exact hf x

lemma unless_ne_error {ε β : Type} {c : Prop} [Decidable c] {e e' : ε} {f : Unit → Except ε β}
    (he : e ≠ e') (hf : f () ≠ .error e') :
    (if c then throw e >>= f else f ()) ≠ .error e' := by
  split_ifs
  · exact fun heq => he (by cases heq; rfl)
  · exact hf

lemma toOption_eq_some_iff {ε : Type} {result : Except ε α} {x : α} :
    result.toOption = some x ↔ result = .ok x := by
  cases result <;> simp [Except.toOption]

/-- A function that may give nothing gives something along a list exactly if it does at every
entry. -/
lemma mapM_eq_some_iff {β : Type} {f : α → Option β} {xs : List α} {rs : List β} :
    xs.mapM f = some rs ↔ List.Forall₂ (fun x r => f x = some r) xs rs := by
  induction xs generalizing rs with
  | nil => simp [eq_comm]
  | cons x xs ih =>
    simp only [List.mapM_cons, Option.bind_eq_bind, Option.bind_eq_some_iff, Option.pure_def,
      Option.some.injEq, List.forall₂_cons_left_iff, ih]
    constructor
    · rintro ⟨r, hr, rs', hrs, rfl⟩
      exact ⟨r, rs', hr, hrs, rfl⟩
    · rintro ⟨r, rs', hr, hrs, rfl⟩
      exact ⟨r, hr, rs', hrs, rfl⟩

lemma exists_mem_of_mapM {β : Type} {f : α → Option β} {xs : List α} {rs : List β}
    (h : xs.mapM f = some rs) {r : β} (hr : r ∈ rs) : ∃ x ∈ xs, f x = some r :=
  exists_of_forall₂_right (mapM_eq_some_iff.mp h) hr

lemma exists_mapM_of_perm {β : Type} {f : α → Option β} {xs ys : List α} {made : List β}
    (h : xs.Perm ys) (hys : ys.mapM f = some made) :
    ∃ made', xs.mapM f = some made' ∧ made'.Perm made := by
  obtain ⟨made', hmade', hperm⟩ := List.perm_comp_forall₂ h (mapM_eq_some_iff.mp hys)
  exact ⟨made', mapM_eq_some_iff.mpr hmade', hperm⟩

lemma isSome_mapM_iff {β : Type} {f : α → Option β} {xs : List α} :
    (xs.mapM f).isSome = true ↔ ∀ x ∈ xs, (f x).isSome = true := by
  induction xs with
  | nil => simp
  | cons x xs ih =>
    rw [List.forall_mem_cons, ← ih, List.mapM_cons]
    cases f x with
    | none => simp
    | some r => cases xs.mapM f <;> simp

/-- A function that may fail succeeds along a list exactly if it does at every entry. -/
lemma mapM_eq_ok_iff {ε β : Type} {f : α → Except ε β} {xs : List α} {ys : List β} :
    xs.mapM f = .ok ys ↔ List.Forall₂ (fun x y => f x = .ok y) xs ys := by
  induction xs generalizing ys with
  | nil =>
    rw [List.mapM_nil, List.forall₂_nil_left_iff]
    exact ⟨fun h => by cases h; rfl, fun h => by rw [h]; rfl⟩
  | cons x xs ih =>
    rw [List.mapM_cons, List.forall₂_cons_left_iff]
    match hx : f x with
    | .error e => exact ⟨fun h => (nomatch h), fun ⟨_, _, hy, _⟩ => (nomatch hy)⟩
    | .ok y =>
      match hxs : xs.mapM f with
      | .error e =>
        refine ⟨fun h => (nomatch h), ?_⟩
        rintro ⟨y', ys', -, hys', -⟩
        rw [ih.mpr hys'] at hxs
        cases hxs
      | .ok ys' =>
        have hys := ih.mp hxs
        constructor
        · intro h
          cases h
          exact ⟨y, ys', rfl, hys, rfl⟩
        · rintro ⟨y', ys'', hy', hys'', rfl⟩
          cases hy'
          rw [ih.mpr hys''] at hxs
          cases hxs
          rfl

/-- A function that fails along a list fails at an entry. -/
lemma exists_of_mapM_eq_error {ε β : Type} {f : α → Except ε β} {xs : List α} {e : ε}
    (h : xs.mapM f = .error e) : ∃ x ∈ xs, f x = .error e := by
  induction xs with
  | nil => cases h
  | cons x xs ih =>
    rw [List.mapM_cons] at h
    match hx : f x, hxs : xs.mapM f with
    | .error _, _ =>
      rw [hx] at h
      cases h
      exact ⟨x, List.mem_cons_self, hx⟩
    | .ok _, .error _ =>
      rw [hx, hxs] at h
      cases h
      obtain ⟨y, hy, herror⟩ := ih hxs
      exact ⟨y, List.mem_cons_of_mem x hy, herror⟩
    | .ok _, .ok _ =>
      rw [hx, hxs] at h
      cases h

/-- A function that may fail and gives nothing succeeds along a list exactly if it does at every
entry. -/
lemma forM_eq_ok_iff {ε : Type} {f : α → Except ε Unit} {xs : List α} :
    xs.forM f = .ok () ↔ ∀ x ∈ xs, f x = .ok () := by
  induction xs with
  | nil => simp [pure, Except.pure]
  | cons x xs ih =>
    rw [List.forall_mem_cons, ← ih]
    change (f x >>= fun _ => xs.forM f) = _ ↔ _
    match f x with
    | .error e => exact ⟨fun h => (nomatch h), fun h => (nomatch h.1)⟩
    | .ok () => exact ⟨fun h => ⟨rfl, h⟩, fun h => h.2⟩

lemma forM_ne_error {ε : Type} {f : α → Except ε Unit} {xs : List α} {e : ε}
    (h : ∀ x ∈ xs, f x ≠ .error e) : xs.forM f ≠ .error e := by
  induction xs with
  | nil => nofun
  | cons x xs ih =>
    obtain ⟨hx, hxs⟩ := List.forall_mem_cons.mp h
    exact seq_ne_error hx fun _ => ih hxs

end Dataflow
