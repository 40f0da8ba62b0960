import Mathlib.Logic.Function.Basic
import Dataflow.Executor.Basic
import Dataflow.Proofs.Tree.Wiring

/-!
# Books

The books of a tree are what can be counted in it: the tuples that each node took in and gave out,
those that wait at a node or are held for an endpoint, and the calls of its executors. Pulling moves
one book to the next along the wiring, and this is all of pulling that accounts and ends are about:
which tuples pass does not matter, only how many.
-/

namespace Dataflow

/-- What never changes in a tree: its wiring and the number of workers of each node. -/
structure Form extends Wiring where
  staff : Nat → Nat

/-- What is counted in a tree. -/
@[ext] structure Books (σ : Type) where
  source : Nat → Option σ
  /-- The number of tuples that a node has given out and nobody has taken yet. -/
  waiting : Nat → Nat
  ended : Nat → Supply → Bool
  reach : ConnectorId → Nat
  /-- Whether the producer of a connector has come to the end. -/
  dry : ConnectorId → Bool
  position : Supply → Nat
  taken : Nat → Nat
  given : Nat → Nat
  /-- The number of times that the source of a node was asked for a tuple. -/
  nexts : Nat → Nat
  /-- The number of times that workers of a node were asked to take something in. -/
  works : Nat → Nat

/-- A count with a number added at one place. -/
def raise {α : Type} [DecidableEq α] (f : α → Nat) (a : α) (n : Nat) : α → Nat :=
  fun x => if x = a then f x + n else f x

section Raise

variable {α : Type} [DecidableEq α] {f : α → Nat} {a x : α} {n : Nat}

@[simp] lemma raise_self : raise f a n a = f a + n :=
  if_pos rfl

lemma raise_of_ne (h : x ≠ a) : raise f a n x = f x :=
  if_neg h

lemma raise_apply : raise f a n x = f x + if x = a then n else 0 := by
  rw [raise]
  split_ifs <;> rfl

@[simp] lemma raise_zero : raise f a 0 = f := by
  funext x
  simp [raise]

@[simp] lemma raise_raise {m : Nat} : raise (raise f a m) a n = raise f a (m + n) := by
  funext x
  by_cases h : x = a <;> simp [raise, h, Nat.add_assoc]

end Raise

namespace Books

variable {σ : Type} (b : Books σ)

/-- A source was asked for a tuple, and gave one or none. -/
def draw (k : Nat) (s : σ) (gave : Bool) : Books σ :=
  { b with
    source := Function.update b.source k (some s)
    given := raise b.given k gave.toNat
    nexts := raise b.nexts k 1 }

/-- A tuple that waited at a node was taken. -/
def pop (k : Nat) : Books σ :=
  { b with waiting := Function.update b.waiting k (b.waiting k - 1) }

/-- Workers of a node were asked to take in some tuples, in so many calls, and gave out others. -/
def work (k tuples calls out : Nat) : Books σ :=
  { b with
    waiting := raise b.waiting k out
    taken := raise b.taken k tuples
    given := raise b.given k out
    works := raise b.works k calls }

/-- An input of a node has ended. -/
def exhaust (k : Nat) (x : Supply) : Books σ :=
  { b with ended := Function.update b.ended k (Function.update (b.ended k) x true) }

/-- An endpoint has read a tuple. -/
def read (x : Supply) : Books σ :=
  { b with position := raise b.position x 1 }

/-- A connector was given a tuple. -/
def push (c : ConnectorId) : Books σ :=
  { b with reach := raise b.reach c 1 }

/-- The producer of a connector has come to the end. -/
def finish (c : ConnectorId) : Books σ :=
  { b with dry := Function.update b.dry c true }

/-- A node takes in what a supply gave: one worker gets the tuple, or all workers are told that the
input has ended. -/
def take (staff k : Nat) (x : Supply) (out : Nat) : Bool → Books σ
  | true => b.work k 1 1 out
  | false => (b.exhaust k x).work k 0 staff out

variable {b} {k : Nat}

lemma work_zero : b.work k 0 0 0 = b := by
  simp [work]

lemma work_work {tuples calls out tuples' calls' out' : Nat} :
    (b.work k tuples calls out).work k tuples' calls' out' =
      b.work k (tuples + tuples') (calls + calls') (out + out') := by
  simp [work]

lemma take_source {staff out : Nat} {x : Supply} {gave : Bool} :
    (b.take staff k x out gave).source = b.source := by
  cases gave <;> rfl

end Books

lemma Wiring.Has.exists_joint {w : Wiring} {c : ConnectorId} {i : Nat} (h : w.Has (.endpoint c i)) :
    ∃ n, w.joints[c]? = some (w.producerOf c, n) ∧ i < n := by
  obtain ⟨q, n, hjoint, hi⟩ := h
  exact ⟨n, (producerOf_eq hjoint).symm ▸ hjoint, hi⟩

variable {σ : Type} [Source σ] {F : Form} {x : Supply} {b b' : Books σ} {gave : Bool}

/-- A supply is pulled and gives a tuple or none. A node whose team has nothing waiting pulls an
input that has not ended, takes in what comes, and is pulled again. -/
inductive Books.Pulled (F : Form) : Supply → Books σ → Bool → Books σ → Prop
  | draw {k : Nat} {b : Books σ} {s s' : σ} {given : Option Tuple} (hsource : b.source k = some s)
    (hnext : Source.next s = (.ok given, s')) :
    Books.Pulled F (.node k) b given.isSome (b.draw k s' given.isSome)
  | pop {k : Nat} {b : Books σ} (hteam : b.source k = none) (hwaiting : 0 < b.waiting k) :
    Books.Pulled F (.node k) b true (b.pop k)
  | spent {k : Nat} {b : Books σ} (hteam : b.source k = none) (hwaiting : b.waiting k = 0)
    (hended : ∀ x ∈ F.suppliesOf k, b.ended k x = true) : Books.Pulled F (.node k) b false b
  | feed {k : Nat} {b b₁ b' : Books σ} {x : Supply} {gave gave' : Bool} {out : Nat}
    (hteam : b.source k = none) (hwaiting : b.waiting k = 0) (hmem : x ∈ F.suppliesOf k)
    (hopen : b.ended k x = false) (hinput : Books.Pulled F x b gave b₁)
    (hagain : Books.Pulled F (.node k) (b₁.take (F.staff k) k x out gave) gave' b') :
    Books.Pulled F (.node k) b gave' b'
  | read {c : ConnectorId} {i : Nat} {b : Books σ}
    (hahead : b.position (.endpoint c i) < b.reach c) :
    Books.Pulled F (.endpoint c i) b true (b.read (.endpoint c i))
  | dry {c : ConnectorId} {i : Nat} {b : Books σ}
    (hbehind : b.reach c ≤ b.position (.endpoint c i)) (hdry : b.dry c = true) :
    Books.Pulled F (.endpoint c i) b false b
  | fetch {c : ConnectorId} {i : Nat} {b b₁ : Books σ}
    (hbehind : b.reach c ≤ b.position (.endpoint c i)) (hdry : b.dry c = false)
    (hproducer : Books.Pulled F (.node (F.producerOf c)) b true b₁) :
    Books.Pulled F (.endpoint c i) b true ((b₁.push c).read (.endpoint c i))
  | finish {c : ConnectorId} {i : Nat} {b b₁ : Books σ}
    (hbehind : b.reach c ≤ b.position (.endpoint c i)) (hdry : b.dry c = false)
    (hproducer : Books.Pulled F (.node (F.producerOf c)) b false b₁) :
    Books.Pulled F (.endpoint c i) b false (b₁.finish c)

/-- A supply is pulled until it gives none, after so many tuples. -/
inductive Books.Drained (F : Form) (x : Supply) : Books σ → Nat → Books σ → Prop
  | last {b b' : Books σ} (hpull : Books.Pulled F x b false b') : Books.Drained F x b 0 b'
  | more {b b₁ b' : Books σ} {n : Nat} (hpull : Books.Pulled F x b true b₁)
    (hrest : Books.Drained F x b₁ n b') : Books.Drained F x b (n + 1) b'

namespace Books.Pulled

lemma source_eq_none_iff (h : Books.Pulled F x b gave b') (k : Nat) :
    b'.source k = none ↔ b.source k = none := by
  induction h with
  | @draw j b s s' given hsource hnext =>
    by_cases hk : k = j
    · subst hk
      simp [Books.draw, hsource]
    · simp [Books.draw, hk]
  | @feed j b b₁ b' x gave gave' out hteam hwaiting hmem hopen hinput hagain ih ih' =>
    rw [ih', take_source, ih]
  | fetch _ _ _ ih => exact ih
  | finish _ _ _ ih => exact ih
  | pop | spent | read | dry => exact Iff.rfl

/-- A team that gave none has nothing waiting and no input that has not ended. -/
lemma nothing_left {k : Nat} (h : Books.Pulled F (.node k) b false b') (hteam : b.source k = none) :
    b'.waiting k = 0 ∧ ∀ x ∈ F.suppliesOf k, b'.ended k x = true := by
  generalize hx : Supply.node k = x at h
  generalize hgave : false = gave at h
  induction h with
  | draw hsource hnext =>
    cases hx
    rw [hsource] at hteam
    cases hteam
  | spent _ hwaiting hended =>
    cases hx
    exact ⟨hwaiting, hended⟩
  | @feed j b b₁ b' x gave gave' out _ _ _ _ hinput hagain ih ih' =>
    cases hx
    refine ih' ?_ rfl hgave
    rw [take_source]
    exact (hinput.source_eq_none_iff k).mpr hteam
  | pop => cases hgave
  | read | dry | fetch | finish => cases hx

/-- What is pulled ends inputs only of the node whose tuples it gives and of those below. -/
lemma ended_eq (hsound : F.Sound) (h : Books.Pulled F x b gave b') {k : Nat} (hlt : F.placeOf x < k)
    (y : Supply) : b'.ended k y = b.ended k y := by
  induction h with
  | @feed j b b₁ b' x gave gave' out hteam hwaiting hmem hopen hinput hagain ih ih' =>
    have hne : k ≠ j := ne_of_gt hlt
    have htake : (b₁.take (F.staff j) j x out gave).ended k = b₁.ended k := by
      cases gave with
      | true => rfl
      | false => exact Function.update_of_ne hne ..
    exact (ih' hlt).trans ((congrFun htake y).trans (ih ((hsound.placeOf_lt hmem).trans hlt)))
  | fetch _ _ _ ih => exact ih hlt
  | finish _ _ _ ih => exact ih hlt
  | draw | pop | spent | read | dry => rfl

/-- A connector is left alone by what is pulled at its producer or below. -/
lemma connector_eq (hsound : F.Sound) (h : Books.Pulled F x b gave b') {c : ConnectorId}
    (hplace : F.placeOf x ≤ F.producerOf c) (hnot : ∀ d i, x = .endpoint d i →
      F.producerOf d < F.producerOf c) :
    b'.reach c = b.reach c ∧ b'.dry c = b.dry c ∧
      ∀ i, b'.position (.endpoint c i) = b.position (.endpoint c i) := by
  induction h with
  | @feed k b b₁ b' x gave gave' out hteam hwaiting hmem hopen hinput hagain ih ih' =>
    have hlt : F.placeOf x < F.producerOf c := (hsound.placeOf_lt hmem).trans_le hplace
    obtain ⟨hreach, hdry, hposition⟩ :=
      ih hlt.le fun d i hx => by rw [hx] at hlt; exact hlt
    obtain ⟨hreach', hdry', hposition'⟩ := ih' hplace fun _ _ => Supply.noConfusion
    have htake : (b₁.take (F.staff k) k x out gave).reach = b₁.reach ∧
        (b₁.take (F.staff k) k x out gave).dry = b₁.dry ∧
        (b₁.take (F.staff k) k x out gave).position = b₁.position := by
      cases gave <;> exact ⟨rfl, rfl, rfl⟩
    rw [htake.1] at hreach'
    rw [htake.2.1] at hdry'
    rw [htake.2.2] at hposition'
    exact ⟨hreach'.trans hreach, hdry'.trans hdry, fun i => (hposition' i).trans (hposition i)⟩
  | @read d i b hahead =>
    have hne : c ≠ d := fun heq => (hnot d i rfl).ne' (heq ▸ rfl)
    exact ⟨rfl, rfl, fun j => raise_of_ne fun heq => hne (Supply.endpoint.inj heq).1⟩
  | @fetch d i b b₁ hbehind hdry hproducer ih =>
    have hne : c ≠ d := fun heq => (hnot d i rfl).ne' (heq ▸ rfl)
    obtain ⟨hreach, hdry, hposition⟩ := ih hplace fun _ _ => Supply.noConfusion
    refine ⟨(raise_of_ne hne).trans hreach, hdry, fun j => Eq.trans ?_ (hposition j)⟩
    exact raise_of_ne fun heq => hne (Supply.endpoint.inj heq).1
  | @finish d i b b₁ hbehind hdry hproducer ih =>
    have hne : c ≠ d := fun heq => (hnot d i rfl).ne' (heq ▸ rfl)
    obtain ⟨hreach, hdry, hposition⟩ := ih hplace fun _ _ => Supply.noConfusion
    exact ⟨hreach, (Function.update_of_ne hne ..).trans hdry, hposition⟩
  | draw | pop | spent | dry => exact ⟨rfl, rfl, fun _ => rfl⟩

end Books.Pulled

end Dataflow
