import Mathlib.Algebra.BigOperators.Group.List.Basic
import Dataflow.Proofs.Books.Basic

/-!
# Books balance

While a tree is pulled, every tuple that a supply has passed on was entered by its consumer: by the
node that takes it in, by the connector that it was given to, or as one of the tuples that the tree
gave. Only the tuple that is on its way from one to the other makes a difference.
-/

namespace Dataflow

/-- What was just pulled and whether it gave a tuple, until the consumer has entered it. -/
abbrev Hand : Type :=
  Option (Supply × Bool)

/-- The number of tuples on their way from a supply. -/
def Hand.count (hand : Hand) (x : Supply) : Nat :=
  if hand = some (x, true) then 1 else 0

namespace Hand

variable {x y : Supply} {gave : Bool}

@[simp] lemma count_none : count none x = 0 :=
  rfl

@[simp] lemma count_self : count (some (x, gave)) x = gave.toNat := by
  cases gave <;> simp [count]

lemma count_of_ne (h : x ≠ y) : count (some (x, gave)) y = 0 := by
  simp [count, h]

lemma sum_count {xs : List Supply} (hnodup : xs.Nodup) :
    (xs.map (count (some (x, gave)))).sum = if x ∈ xs then gave.toNat else 0 := by
  induction xs with
  | nil => rfl
  | cons y ys ih =>
    obtain ⟨hy, hys⟩ := List.nodup_cons.mp hnodup
    rw [List.map_cons, List.sum_cons, ih hys]
    by_cases hxy : x = y
    · subst hxy
      simp [hy]
    · simp [count_of_ne hxy, hxy]

end Hand

namespace Books

variable {σ : Type} {F : Form} {hand : Hand} {out : Nat} {b b' : Books σ} {x : Supply}
  {gave : Bool} {k m : Nat} {c : ConnectorId}

/-- The number of tuples that a supply has passed on. -/
def passed (b : Books σ) : Supply → Nat
  | .node k => b.given k - b.waiting k
  | .endpoint c i => b.position (.endpoint c i)

/-- The number of tuples of a supply that its consumer has entered. -/
def entered (hand : Hand) (b : Books σ) (x : Supply) : Nat :=
  b.passed x - hand.count x

/-- All tuples that were passed on were entered, but for the one that is on its way; as many calls
were made to the workers of a node as there are tuples that it took in and workers that were told
of the end of an input. -/
structure Balanced (F : Form) (hand : Hand) (out : Nat) (b : Books σ) : Prop where
  waiting_le : ∀ k, b.waiting k ≤ b.given k
  position_le : ∀ c i, b.position (.endpoint c i) ≤ b.reach c
  count_le : ∀ x, hand.count x ≤ b.passed x
  taken_eq : ∀ k, b.taken k = ((F.suppliesOf k).map (b.entered hand)).sum
  reach_eq : ∀ c q n, F.joints[c]? = some (q, n) → b.reach c = b.entered hand (.node q)
  out_eq : out = b.entered hand (.node F.root)
  works_eq : ∀ k, b.works k = b.taken k + F.staff k * (F.suppliesOf k).countP (b.ended k)

lemma entered_of_passed (h : ∀ y, b'.passed y = b.passed y + Hand.count (some (x, gave)) y) :
    b'.entered (some (x, gave)) = b.entered none := by
  funext y
  simp only [entered, h, Hand.count_none]
  omega

/-- A supply passes on a tuple or none, and nothing else that is entered changes. -/
lemma Balanced.pass (h : Balanced F none out b)
    (hpassed : ∀ y, b'.passed y = b.passed y + Hand.count (some (x, gave)) y)
    (hwaiting : ∀ k, b'.waiting k ≤ b'.given k)
    (hposition : ∀ c i, b'.position (.endpoint c i) ≤ b'.reach c) (htaken : b'.taken = b.taken)
    (hreach : b'.reach = b.reach) (hended : b'.ended = b.ended) (hworks : b'.works = b.works) :
    Balanced F (some (x, gave)) out b' where
  waiting_le := hwaiting
  position_le := hposition
  count_le := fun y => hpassed y ▸ Nat.le_add_left ..
  taken_eq := by rw [htaken, entered_of_passed hpassed]; exact h.taken_eq
  reach_eq := by rw [hreach, entered_of_passed hpassed]; exact h.reach_eq
  out_eq := by rw [entered_of_passed hpassed]; exact h.out_eq
  works_eq := by rw [hworks, htaken, hended]; exact h.works_eq

lemma Balanced.draw (h : Balanced F none out b) (s : σ) (gave : Bool) :
    Balanced F (some (.node k, gave)) out (b.draw k s gave) := by
  have hle (j : Nat) : b.given j ≤ (b.draw k s gave).given j := by
    simp only [Books.draw, raise]
    split_ifs <;> omega
  refine h.pass (fun y => ?_) (fun j => (h.waiting_le j).trans (hle j)) h.position_le rfl rfl rfl
    rfl
  cases y with
  | endpoint c i => rw [Hand.count_of_ne Supply.noConfusion]; rfl
  | node j =>
    by_cases hj : j = k
    · subst hj
      have hwaiting := h.waiting_le j
      simp only [passed, Books.draw, raise_self, Hand.count_self]
      omega
    · rw [Hand.count_of_ne fun heq => hj (Supply.node.inj heq).symm]
      simp only [passed, Books.draw, raise_of_ne hj, Nat.add_zero]

lemma Balanced.pop (h : Balanced F none out b) (hwaiting : 0 < b.waiting k) :
    Balanced F (some (.node k, true)) out (b.pop k) := by
  have hle (j : Nat) : (b.pop k).waiting j ≤ b.waiting j := by
    simp only [Books.pop, Function.update_apply]
    split_ifs with hj
    · exact hj ▸ Nat.sub_le ..
    · exact le_rfl
  refine h.pass (fun y => ?_) (fun j => (hle j).trans (h.waiting_le j)) h.position_le rfl rfl rfl
    rfl
  cases y with
  | endpoint c i => rw [Hand.count_of_ne Supply.noConfusion]; rfl
  | node j =>
    by_cases hj : j = k
    · subst hj
      have hgiven := h.waiting_le j
      simp only [passed, Books.pop, Function.update_self, Hand.count_self, Bool.toNat_true]
      omega
    · rw [Hand.count_of_ne fun heq => hj (Supply.node.inj heq).symm]
      simp only [passed, Books.pop, Function.update_of_ne hj, Nat.add_zero]

lemma Balanced.read {i : Nat} (h : Balanced F none out b)
    (hahead : b.position (.endpoint c i) < b.reach c) :
    Balanced F (some (.endpoint c i, true)) out (b.read (.endpoint c i)) := by
  refine h.pass (fun y => ?_) h.waiting_le (fun d j => ?_) rfl rfl rfl rfl
  · match y with
    | .node k => rw [Hand.count_of_ne Supply.noConfusion]; rfl
    | .endpoint d j =>
      by_cases hy : Supply.endpoint d j = .endpoint c i
      · rw [hy, Hand.count_self]
        exact raise_self
      · rw [Hand.count_of_ne (Ne.symm hy)]
        exact raise_of_ne hy
  · simp only [Books.read, raise]
    split_ifs with hy
    · cases hy
      exact hahead
    · exact h.position_le d j

lemma Balanced.refuse (h : Balanced F none out b) (x : Supply) :
    Balanced F (some (x, false)) out b := by
  refine h.pass (fun y => ?_) h.waiting_le h.position_le rfl rfl rfl rfl
  by_cases hxy : x = y
  · subst hxy
    simp
  · rw [Hand.count_of_ne hxy, Nat.add_zero]

lemma entered_none (h : hand.count x ≤ b.passed x) :
    b.entered none x = b.entered hand x + hand.count x := by
  simp only [entered, Hand.count_none]
  omega

lemma passed_take (h : ∀ k, b.waiting k ≤ b.given k) {staff : Nat} (y : Supply) :
    (b.take staff k x m gave).passed y = b.passed y := by
  cases y with
  | endpoint c i => cases gave <;> rfl
  | node j =>
    have hle := h j
    by_cases hj : j = k
    · subst hj
      cases gave <;>
        simp only [passed, take, work, exhaust, raise_self] <;> omega
    · cases gave <;> simp only [passed, take, work, exhaust, raise_of_ne hj]

/-- One more input of a node counts among those that have ended. -/
lemma countP_update {xs : List Supply} {p : Supply → Bool} (hnodup : xs.Nodup) (hmem : x ∈ xs)
    (hp : p x = false) : xs.countP (Function.update p x true) = xs.countP p + 1 := by
  induction xs with
  | nil => cases hmem
  | cons y ys ih =>
    obtain ⟨hy, hys⟩ := List.nodup_cons.mp hnodup
    rw [List.countP_cons, List.countP_cons]
    by_cases hxy : x = y
    · subst hxy
      have hsame : ys.countP (Function.update p x true) = ys.countP p :=
        List.countP_congr fun z hz => by
          rw [Function.update_of_ne (ne_of_mem_of_not_mem hz hy)]
      simp [hsame, hp]
    · rw [ih hys (List.mem_of_ne_of_mem hxy hmem), Function.update_of_ne (Ne.symm hxy)]
      omega

/-- A node takes in what one of its inputs gave. -/
lemma Balanced.take (hsound : F.Sound) (h : Balanced F (some (x, gave)) out b)
    (hmem : x ∈ F.suppliesOf k) (hopen : b.ended k x = false) (m : Nat) :
    Balanced F none out (b.take (F.staff k) k x m gave) := by
  have hpassed (y : Supply) : (b.take (F.staff k) k x m gave).passed y = b.passed y :=
    passed_take h.waiting_le y
  have hentered (y : Supply) : (b.take (F.staff k) k x m gave).entered none y =
      b.entered (some (x, gave)) y + Hand.count (some (x, gave)) y := by
    rw [← entered_none (h.count_le y)]
    simp only [entered, hpassed]
  have hnode {q : Nat} (hq : ∀ p, F.Hangs (.node q) p → p ≠ .supply (.node k)) :
      Hand.count (some (x, gave)) (.node q) = 0 :=
    Hand.count_of_ne fun heq => hq _ (.slot (heq ▸ hmem)) rfl
  refine ⟨fun j => ?_, ?_, fun y => Nat.zero_le _, fun j => ?_, fun c q n hjoint => ?_, ?_,
    fun j => ?_⟩
  · have hle := h.waiting_le j
    cases gave <;> simp only [Books.take, work, exhaust, raise] <;> split_ifs <;> omega
  · cases gave <;> exact h.position_le
  · have hsum : ((F.suppliesOf j).map (Hand.count (some (x, gave)))).sum =
        if j = k then gave.toNat else 0 := by
      rw [Hand.sum_count (hsound.nodup_suppliesOf j)]
      exact if_congr ⟨fun hx => hsound.eq_of_mem_suppliesOf hx hmem, fun hj => hj ▸ hmem⟩ rfl rfl
    have htaken : (b.take (F.staff k) k x m gave).taken j =
        b.taken j + if j = k then gave.toNat else 0 := by
      cases gave <;> simp only [Books.take, work, exhaust, raise] <;> split_ifs <;> rfl
    rw [htaken, ← hsum, h.taken_eq j, ← List.sum_map_add]
    exact congrArg List.sum (List.map_congr_left fun y _ => (hentered y).symm)
  · have hreach : (b.take (F.staff k) k x m gave).reach = b.reach := by cases gave <;> rfl
    rw [hreach, hentered, h.reach_eq c q n hjoint, hnode, Nat.add_zero]
    rintro p hp rfl
    cases hsound.hangs_unique hp (.producer hjoint)
  · rw [hentered, hnode fun p hp => (hsound.not_hangs_root hp).elim]
    exact h.out_eq
  · have hworks := h.works_eq j
    by_cases hj : j = k
    · subst hj
      cases gave with
      | true =>
        simp only [Books.take, work, raise_self]
        omega
      | false =>
        simp only [Books.take, work, exhaust, raise_self, Function.update_self,
          countP_update (hsound.nodup_suppliesOf j) hmem hopen, Nat.mul_add]
        omega
    · cases gave with
      | true => simpa only [Books.take, work, raise_of_ne hj] using hworks
      | false =>
        simpa only [Books.take, work, exhaust, raise_of_ne hj, Function.update_of_ne hj]
          using hworks

/-- A connector was given what its producer gave. -/
lemma Balanced.push (hsound : F.Sound) {q n : Nat} (hjoint : F.joints[c]? = some (q, n))
    (h : Balanced F (some (.node q, true)) out b) : Balanced F none out (b.push c) := by
  have hentered (y : Supply) : (b.push c).entered none y =
      b.entered (some (.node q, true)) y + Hand.count (some (.node q, true)) y :=
    entered_none (h.count_le y)
  have hcount {y : Supply} (hy : .node q ≠ y) :
      (b.push c).entered none y = b.entered (some (.node q, true)) y := by
    rw [hentered, Hand.count_of_ne hy, Nat.add_zero]
  refine ⟨h.waiting_le, fun d i => ?_, fun y => Nat.zero_le _, fun k => ?_,
    fun d q' n' hd => ?_, ?_, h.works_eq⟩
  · refine (h.position_le d i).trans ?_
    simp only [Books.push, raise]
    split_ifs <;> omega
  · refine (h.taken_eq k).trans (congrArg List.sum (List.map_congr_left fun y hy => ?_))
    refine (hcount ?_).symm
    rintro rfl
    cases hsound.hangs_unique (.slot hy) (.producer hjoint)
  · by_cases hdc : d = c
    · subst hdc
      rw [hjoint] at hd
      cases hd
      rw [hentered, Hand.count_self, ← h.reach_eq d q n hjoint]
      exact raise_self
    · refine (raise_of_ne hdc).trans ((h.reach_eq d q' n' hd).trans (hcount ?_).symm)
      rintro ⟨⟩
      exact hdc (hsound.eq_of_joints hd hjoint)
  · refine h.out_eq.trans (hcount ?_).symm
    rintro ⟨⟩
    exact hsound.not_hangs_root (.producer hjoint)

lemma Balanced.finish (h : Balanced F (some (x, false)) out b) :
    Balanced F none out (b.finish c) := by
  have hcount (y : Supply) : Hand.count (some (x, false)) y = 0 := by simp [Hand.count]
  have hentered : b.entered (some (x, false)) = (b.finish c).entered none := by
    funext y
    exact congrArg (b.passed y - ·) (hcount y)
  exact ⟨h.waiting_le, h.position_le, fun y => Nat.zero_le _, hentered ▸ h.taken_eq,
    hentered ▸ h.reach_eq, hentered ▸ h.out_eq, h.works_eq⟩

lemma Balanced.give (hsound : F.Sound) (h : Balanced F (some (.node F.root, true)) out b) :
    Balanced F none (out + 1) b := by
  have hcount {y : Supply} (hy : .node F.root ≠ y) :
      b.entered none y = b.entered (some (.node F.root, true)) y := by
    rw [entered_none (h.count_le y), Hand.count_of_ne hy, Nat.add_zero]
  refine ⟨h.waiting_le, h.position_le, fun y => Nat.zero_le _, fun k => ?_, fun c q n hjoint => ?_,
    ?_, h.works_eq⟩
  · refine (h.taken_eq k).trans (congrArg List.sum (List.map_congr_left fun y hy => ?_))
    refine (hcount ?_).symm
    rintro rfl
    exact hsound.not_hangs_root (.slot hy)
  · refine (h.reach_eq c q n hjoint).trans (hcount ?_).symm
    rintro ⟨⟩
    exact hsound.not_hangs_root (.producer hjoint)
  · rw [entered_none (h.count_le _), Hand.count_self, ← h.out_eq]
    rfl

end Books

open Books

variable {σ : Type} [Source σ] {F : Form} {x : Supply} {b b' : Books σ} {gave : Bool} {out : Nat}

/-- Pulling keeps the balance, with what was pulled on its way. -/
theorem Books.Pulled.balanced (hsound : F.Sound) (h : Books.Pulled F x b gave b') (hhas : F.Has x)
    (hb : Balanced F none out b) : Balanced F (some (x, gave)) out b' := by
  induction h with
  | draw hsource hnext => exact hb.draw _ _
  | pop hteam hwaiting => exact hb.pop hwaiting
  | spent hteam hwaiting hended => exact hb.refuse _
  | feed hteam hwaiting hmem hopen hinput hagain ih ih' =>
    have hopen' := (hinput.ended_eq hsound (hsound.placeOf_lt hmem) _).trans hopen
    exact ih' hhas ((ih (hsound.has_of_hangs (.slot hmem)) hb).take hsound hmem hopen' _)
  | read hahead => exact hb.read hahead
  | dry hbehind hdry => exact hb.refuse _
  | @fetch c i b b₁ hbehind hdry hproducer ih =>
    obtain ⟨n, hjoint, -⟩ := hhas.exists_joint
    have hproduced := ih (hsound.has_of_hangs (.producer hjoint)) hb
    have hreach : (b₁.push c).reach c = b₁.reach c + 1 := raise_self
    exact (hproduced.push hsound hjoint).read
      (hreach ▸ Nat.lt_succ_of_le (hproduced.position_le c i))
  | finish hbehind hdry hproducer ih =>
    obtain ⟨n, hjoint, -⟩ := hhas.exists_joint
    have hproduced := ih (hsound.has_of_hangs (.producer hjoint)) hb
    exact hproduced.finish.refuse _

end Dataflow
