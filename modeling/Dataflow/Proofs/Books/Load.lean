import Mathlib.Algebra.Order.BigOperators.Group.Finset
import Mathlib.Data.DFinsupp.WellFounded
import Dataflow.Proofs.Books.Balance

/-!
# What is left to be done

What is left to be done in a tree is a list of numbers. Three of them belong to each node, from the
bottom up: what its source has left or how many of its inputs have not ended, how many tuples wait
at it, and how many its connector holds for its endpoints. Pulling lowers one of these numbers and
leaves alone those before it, whatever becomes of those behind it. So it comes to an end, although a
tuple may be turned into any number of others on its way.
-/

namespace Dataflow

/-- One of the first numbers became smaller, and those before it stayed the same. -/
def Drops (m : Nat) (f g : Nat → Nat) : Prop :=
  ∃ j < m, (∀ i < j, g i = f i) ∧ g j < f j

namespace Drops

variable {m n : Nat} {f g h : Nat → Nat}

lemma mono (hdrop : Drops m f g) (hle : m ≤ n) : Drops n f g := by
  obtain ⟨j, hj, hrest⟩ := hdrop
  exact ⟨j, hj.trans_le hle, hrest⟩

lemma congr (hdrop : Drops m f g) (hsame : ∀ i < m, h i = g i) : Drops m f h := by
  obtain ⟨j, hj, hbelow, hlt⟩ := hdrop
  refine ⟨j, hj, fun i hi => (hsame i (hi.trans hj)).trans (hbelow i hi), ?_⟩
  rwa [hsame j hj]

lemma trans (hdrop : Drops m f g) (hdrop' : Drops m g h) : Drops m f h := by
  obtain ⟨j, hj, hbelow, hlt⟩ := hdrop
  obtain ⟨j', hj', hbelow', hlt'⟩ := hdrop'
  rcases lt_trichotomy j j' with hjj | rfl | hjj
  · exact ⟨j, hj, fun i hi => (hbelow' i (hi.trans hjj)).trans (hbelow i hi),
      (hbelow' j hjj).trans_lt hlt⟩
  · exact ⟨j, hj, fun i hi => (hbelow' i hi).trans (hbelow i hi), hlt'.trans hlt⟩
  · exact ⟨j', hj', fun i hi => (hbelow' i hi).trans (hbelow i (hi.trans hjj)),
      hlt'.trans_eq (hbelow j' hjj)⟩

lemma wellFounded (m : Nat) : WellFounded fun g f => Drops m f g := by
  have hlex : WellFounded (Pi.Lex (· < ·) (fun {_} => (· < ·)) : (Fin m → Nat) → _ → Prop) :=
    Pi.Lex.wellFounded _ fun _ => wellFounded_lt
  refine Subrelation.wf ?_ (InvImage.wf (fun (f : Nat → Nat) (i : Fin m) => f i) hlex)
  rintro g f ⟨j, hj, hbelow, hlt⟩
  exact ⟨⟨j, hj⟩, fun i hi => hbelow i hi, hlt⟩

end Drops

namespace Books

variable {σ : Type} (left : σ → Nat) (F : Form) (b : Books σ)

/-- What the source of a node has left, or the number of inputs of a team that have not ended. -/
def opens (k : Nat) : Nat :=
  match b.source k with
  | some s => left s
  | none => (F.suppliesOf k).countP fun x => !b.ended k x

/-- The number of tuples that the connector of a node holds for its endpoints. -/
def unread (k : Nat) : Nat :=
  ∑ c ∈ Finset.range F.joints.length, if F.producerOf c = k then
    ∑ i ∈ Finset.range ((F.joints[c]?.map Prod.snd).getD 0),
      (b.reach c - b.position (.endpoint c i))
  else 0

/-- All that is left, three numbers for each node. -/
def load (j : Nat) : Nat :=
  if j % 3 = 0 then b.opens left F (j / 3)
  else if j % 3 = 1 then b.waiting (j / 3)
  else b.unread F (j / 3)

variable {left F b} {b' : Books σ} {k m : Nat}

lemma load_opens : b.load left F (3 * k) = b.opens left F k := by
  simp [load]

lemma load_waiting : b.load left F (3 * k + 1) = b.waiting k := by
  have hdiv : (3 * k + 1) / 3 = k := by omega
  simp [load, hdiv]

lemma load_unread : b.load left F (3 * k + 2) = b.unread F k := by
  have hdiv : (3 * k + 2) / 3 = k := by omega
  simp [load, hdiv]

lemma load_congr (hopens : ∀ k, 3 * k < m → b'.opens left F k = b.opens left F k)
    (hwaiting : ∀ k, 3 * k + 1 < m → b'.waiting k = b.waiting k)
    (hunread : ∀ k, 3 * k + 2 < m → b'.unread F k = b.unread F k) :
    ∀ j < m, b'.load left F j = b.load left F j := by
  intro j hj
  have hj' : j = 3 * (j / 3) + j % 3 := (Nat.div_add_mod j 3).symm
  have hlt : j % 3 < 3 := Nat.mod_lt _ (by omega)
  simp only [load]
  split_ifs with h0 h1
  · exact hopens _ (by omega)
  · exact hwaiting _ (by omega)
  · exact hunread _ (by omega)

variable {x : Supply} {c : ConnectorId} {i n : Nat} {gave : Bool}

lemma opens_congr (hsource : b'.source k = b.source k) (hended : b'.ended k = b.ended k) :
    b'.opens left F k = b.opens left F k := by
  rw [opens, opens, hsource, hended]

lemma opens_source {s : σ} (h : b.source k = some s) : b.opens left F k = left s := by
  rw [opens, h]

lemma unread_congr (h : ∀ c, F.producerOf c = k → b'.reach c = b.reach c ∧
      ∀ i, b'.position (.endpoint c i) = b.position (.endpoint c i)) :
    b'.unread F k = b.unread F k := by
  refine Finset.sum_congr rfl fun c _ => ?_
  split_ifs with hc
  · obtain ⟨hreach, hposition⟩ := h c hc
    simp only [hreach, hposition]
  · rfl

lemma opens_exhaust (hnodup : (F.suppliesOf k).Nodup) (hmem : x ∈ F.suppliesOf k)
    (hteam : b.source k = none) (hopen : b.ended k x = false) :
    (b.exhaust k x).opens left F k < b.opens left F k := by
  have hsplit (p : Supply → Bool) : (F.suppliesOf k).length =
      (F.suppliesOf k).countP p + (F.suppliesOf k).countP fun y => !p y := by
    simpa using List.length_eq_countP_add_countP p
  have hcount := countP_update hnodup hmem hopen
  have hbefore := hsplit (b.ended k)
  have hafter := hsplit (Function.update (b.ended k) x true)
  simp only [opens, exhaust, hteam, Function.update_self]
  omega

/-- A node takes in what an input gave: this changes only what is left at the node. -/
lemma load_take {staff out : Nat} :
    ∀ j < 3 * k, (b.take staff k x out gave).load left F j = b.load left F j := by
  refine load_congr (fun j hj => ?_) (fun j hj => ?_) fun j _ => ?_
  · have hne : j ≠ k := by omega
    refine opens_congr ?_ ?_
    · cases gave <;> rfl
    · cases gave with
      | true => rfl
      | false => exact Function.update_of_ne hne ..
  · have hne : j ≠ k := by omega
    cases gave <;> exact raise_of_ne hne
  · refine unread_congr fun c _ => ?_
    cases gave <;> exact ⟨rfl, fun _ => rfl⟩

lemma load_read : ∀ j < 3 * F.producerOf c + 2,
    (b.read (.endpoint c i)).load left F j = b.load left F j := by
  refine load_congr (fun _ _ => rfl) (fun _ _ => rfl) fun k hk => unread_congr fun d hd => ?_
  refine ⟨rfl, fun l => raise_of_ne ?_⟩
  rintro ⟨⟩
  omega

lemma load_push : ∀ j < 3 * F.producerOf c + 2,
    (b.push c).load left F j = b.load left F j := by
  refine load_congr (fun _ _ => rfl) (fun _ _ => rfl) fun k hk => unread_congr fun d hd => ?_
  refine ⟨raise_of_ne ?_, fun _ => rfl⟩
  rintro rfl
  omega

/-- A tuple that is read is held for one endpoint less. -/
lemma drops_read (hjoint : F.joints[c]? = some (F.producerOf c, n)) (hi : i < n)
    (hahead : b.position (.endpoint c i) < b.reach c) :
    Drops (3 * F.producerOf c + 3) (b.load left F) ((b.read (.endpoint c i)).load left F) := by
  refine ⟨3 * F.producerOf c + 2, Nat.lt_succ_self _, load_read, ?_⟩
  · rw [load_unread, load_unread]
    have hle (d : ConnectorId) (l : Nat) : (b.read (.endpoint c i)).reach d -
        (b.read (.endpoint c i)).position (.endpoint d l) ≤
          b.reach d - b.position (.endpoint d l) := by
      refine Nat.sub_le_sub_left ?_ _
      simp only [Books.read, raise]
      split_ifs <;> omega
    have hc : c ∈ Finset.range F.joints.length :=
      Finset.mem_range.mpr (List.getElem?_eq_some_iff.mp hjoint).1
    refine Finset.sum_lt_sum (fun d _ => ?_) ⟨c, hc, ?_⟩
    · split_ifs
      · exact Finset.sum_le_sum fun l _ => hle d l
      · exact le_rfl
    · rw [if_pos rfl, if_pos rfl, hjoint]
      refine Finset.sum_lt_sum (fun l _ => hle c l) ⟨i, Finset.mem_range.mpr hi, ?_⟩
      simp only [Books.read, raise_self]
      omega

end Books

open Books

variable {σ : Type} [Source σ] {left : σ → Nat} {F : Form} {x : Supply} {b b' : Books σ}
  {gave : Bool}

/-- The numbers up to those that pulling a supply may lower. -/
def Wiring.rank (w : Wiring) : Supply → Nat
  | .node k => 3 * k + 2
  | .endpoint c _ => 3 * w.producerOf c + 3

/-- A source has less left after it gave a tuple, and no more after it gave none. -/
def Source.Shrinks (left : σ → Nat) : Prop :=
  ∀ (s s' : σ) (given : Option Tuple), Source.next s = (.ok given, s') →
    left s' + given.isSome.toNat ≤ left s

lemma Wiring.rank_le (hsound : F.Sound) {k : Nat} (hmem : x ∈ F.suppliesOf k) :
    F.rank x ≤ 3 * k := by
  have hlt := hsound.placeOf_lt hmem
  cases x <;> simp only [Wiring.rank, Wiring.placeOf] at hlt ⊢ <;> omega

/-- Whatever a node takes in, what is left up to its inputs that have not ended is lowered: if an
input gave none and nothing changed below, there is one input less. -/
lemma Books.Pulled.drops_feed {k : Nat} (hsound : F.Sound) (hteam : b.source k = none)
    (hmem : x ∈ F.suppliesOf k) (hopen : b.ended k x = false) (h : Books.Pulled F x b gave b')
    (hdrops : Drops (F.rank x) (b.load left F) (b'.load left F) ∨
      (gave = false ∧ ∀ j, b'.load left F j = b.load left F j)) (out : Nat) :
    Drops (3 * k + 1) (b.load left F) ((b'.take (F.staff k) k x out gave).load left F) := by
  rcases hdrops with hdrop | ⟨rfl, hsame⟩
  · exact ((hdrop.mono (Wiring.rank_le hsound hmem)).congr load_take).mono (Nat.le_succ _)
  · refine ⟨3 * k, Nat.lt_succ_self _, fun j hj => (load_take j hj).trans (hsame j), ?_⟩
    rw [← hsame, load_opens, load_opens]
    exact opens_exhaust (hsound.nodup_suppliesOf k) hmem ((h.source_eq_none_iff k).mpr hteam)
      ((h.ended_eq hsound (hsound.placeOf_lt hmem) x).trans hopen)

/-- Pulling lowers what is left up to the supply that is pulled, unless this gives none and nothing
changes. -/
theorem Books.Pulled.drops (hsound : F.Sound) (hleft : Source.Shrinks left)
    (h : Books.Pulled F x b gave b') (hhas : F.Has x) :
    Drops (F.rank x) (b.load left F) (b'.load left F) ∨
      (gave = false ∧ ∀ j, b'.load left F j = b.load left F j) := by
  induction h with
  | @draw k b s s' given hsource hnext =>
    have hbelow : ∀ j < 3 * k, (b.draw k s' given.isSome).load left F j = b.load left F j :=
      load_congr (fun j hj => opens_congr (Function.update_of_ne (by omega) ..) rfl)
        (fun _ _ => rfl) fun _ _ => rfl
    have hopens : b.load left F (3 * k) = left s := load_opens.trans (opens_source hsource)
    have hopens' : (b.draw k s' given.isSome).load left F (3 * k) = left s' :=
      load_opens.trans (opens_source (Function.update_self ..))
    have hle := hleft s s' given hnext
    by_cases hlt : left s' < left s
    · exact .inl ⟨3 * k, by simp only [Wiring.rank]; omega, hbelow, by rwa [hopens, hopens']⟩
    · refine .inr ⟨?_, fun j => ?_⟩
      · cases given with
        | none => rfl
        | some x =>
          simp only [Option.isSome_some, Bool.toNat_true] at hle
          omega
      · have hall : ∀ i < j + 1,
            (b.draw k s' given.isSome).load left F i = b.load left F i := by
          refine load_congr (fun i _ => ?_) (fun _ _ => rfl) fun _ _ => rfl
          by_cases hi : i = k
          · subst hi
            rw [← load_opens, ← load_opens, hopens, hopens']
            omega
          · exact opens_congr (Function.update_of_ne hi ..) rfl
        exact hall j (Nat.lt_succ_self j)
  | @pop k b hteam hwaiting =>
    have hbelow : ∀ j < 3 * k + 1, (b.pop k).load left F j = b.load left F j :=
      load_congr (fun _ _ => rfl) (fun j hj => Function.update_of_ne (by omega) ..) fun _ _ => rfl
    refine .inl ⟨3 * k + 1, Nat.lt_succ_self _, hbelow, ?_⟩
    simp only [load_waiting, Books.pop, Function.update_self]
    omega
  | spent hteam hwaiting hended => exact .inr ⟨rfl, fun _ => rfl⟩
  | @feed k b b₁ b' x gave gave' out hteam hwaiting hmem hopen hinput hagain ih ih' =>
    have hfed := hinput.drops_feed hsound hteam hmem hopen
      (ih (hsound.has_of_hangs (.slot hmem))) out
    rcases ih' hhas with hdrop | ⟨-, hsame⟩
    · exact .inl ((hfed.mono (by simp only [Wiring.rank]; omega)).trans hdrop)
    · exact .inl ((hfed.mono (by simp only [Wiring.rank]; omega)).congr fun j _ => hsame j)
  | @read c i b hahead =>
    obtain ⟨n, hjoint, hi⟩ := hhas.exists_joint
    exact .inl (drops_read hjoint hi hahead)
  | dry hbehind hdry => exact .inr ⟨rfl, fun _ => rfl⟩
  | @fetch c i b b₁ hbehind hdry hproducer ih =>
    obtain ⟨n, hjoint, -⟩ := hhas.exists_joint
    have hbelow : ∀ j < 3 * F.producerOf c + 2,
        ((b₁.push c).read (.endpoint c i)).load left F j = b₁.load left F j :=
      fun j hj => (load_read j hj).trans (load_push j hj)
    rcases ih (hsound.has_of_hangs (.producer hjoint)) with hdrop | ⟨⟨⟩, -⟩
    exact .inl ((hdrop.congr hbelow).mono (Nat.le_succ _))
  | @finish c i b b₁ hbehind hdry hproducer ih =>
    obtain ⟨n, hjoint, -⟩ := hhas.exists_joint
    exact (ih (hsound.has_of_hangs (.producer hjoint))).imp_left fun hdrop =>
      hdrop.mono (Nat.le_succ _)

end Dataflow
