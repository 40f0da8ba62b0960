import Dataflow.Proofs.Books.Balance

/-!
# Every stream is pulled to its end once

A supply that gave none is never pulled again, and it has nothing left: a node has nothing waiting
and all its inputs have ended, an endpoint has read all that its connector was given, and a source
was asked once more than it gave tuples. So when the sink gives none, all streams have come to their
ends, and the tuples that went into a node are those that came out of its producers.
-/

namespace Dataflow

/-- A source gives tuples one after another, and then none. -/
inductive Source.Spends {σ : Type} [Source σ] : σ → List Tuple → Prop
  | last {s s' : σ} (hnext : Source.next s = (.ok none, s')) : Spends s []
  | give {s s' : σ} {x : Tuple} {rest : List Tuple} (hnext : Source.next s = (.ok (some x), s'))
    (hrest : Spends s' rest) : Spends s (x :: rest)

namespace Books

variable {σ : Type} {F : Form} {hand : Hand} {out m staff : Nat} {b b' : Books σ} {x y : Supply}
  {gave : Bool} {k q n : Nat} {c : ConnectorId} {p : Part}

/-! ### What is known of ends -/

/-- A consumer knows that a supply has ended. -/
def Notes (b : Books σ) (x : Supply) : Part → Prop
  | .supply (.node k) => b.ended k x = true
  | .supply (.endpoint ..) => False
  | .joint c => b.dry c = true

/-- A supply was pulled and gave none: its consumer knows of it, or will do so next. -/
def Past (F : Form) (hand : Hand) (b : Books σ) (x : Supply) : Prop :=
  (∃ p, F.Hangs x p ∧ b.Notes x p) ∨ hand = some (x, false)

/-- A supply has nothing left to pass on, and neither has what feeds it. -/
def Spent (F : Form) (b : Books σ) : Supply → Prop
  | .node k => b.waiting k = 0 ∧ ∀ x ∈ F.suppliesOf k, b.ended k x = true
  | .endpoint c i => b.dry c = true ∧ b.position (.endpoint c i) = b.reach c

/-- A supply that gave none has nothing left. -/
structure Timely (F : Form) (hand : Hand) (b : Books σ) : Prop where
  spent : ∀ x, Past F hand b x → Spent F b x
  idle : ∀ k s, b.source k = some s → F.suppliesOf k = [] ∧ b.waiting k = 0

lemma past_none_iff (hsound : F.Sound) (hhangs : F.Hangs x p) :
    Past F none b x ↔ b.Notes x p := by
  constructor
  · rintro (⟨p', hhangs', hnotes⟩ | ⟨⟨⟩⟩)
    exact hsound.hangs_unique hhangs hhangs' ▸ hnotes
  · exact fun hnotes => .inl ⟨p, hhangs, hnotes⟩

lemma not_past_input (hsound : F.Sound) (hmem : x ∈ F.suppliesOf k) (hopen : b.ended k x = false) :
    ¬Past F none b x := by
  rw [past_none_iff hsound (.slot hmem)]
  simp [Notes, hopen]

lemma not_past_producer (hsound : F.Sound) (hjoint : F.joints[c]? = some (q, n))
    (hdry : b.dry c = false) : ¬Past F none b (.node q) := by
  rw [past_none_iff hsound (.producer hjoint)]
  simp [Notes, hdry]

lemma not_past_root (hsound : F.Sound) : ¬Past F none b (.node F.root) := by
  rintro (⟨p, hhangs, -⟩ | ⟨⟨⟩⟩)
  exact hsound.not_hangs_root hhangs

lemma past_some_iff : Past F (some (x, gave)) b y ↔ Past F none b y ∨ (x = y ∧ gave = false) := by
  simp [Past]

lemma past_of_ne (h : x ≠ y) : Past F (some (x, gave)) b y ↔ Past F none b y := by
  simp [past_some_iff, h]

lemma past_congr (h : ∀ p, F.Hangs y p → (b'.Notes y p ↔ b.Notes y p)) :
    Past F hand b' y ↔ Past F hand b y :=
  or_congr_left (exists_congr fun p => and_congr_right (h p))

lemma notes_congr (hended : b'.ended = b.ended) (hdry : b'.dry = b.dry) :
    b'.Notes y p ↔ b.Notes y p := by
  cases p with
  | joint c => simp only [Notes, hdry]
  | supply z => cases z with
    | node k => simp only [Notes, hended]
    | endpoint => exact Iff.rfl

lemma past_true_iff (b b' : Books σ) (hended : b'.ended = b.ended) (hdry : b'.dry = b.dry) :
    Past F (some (x, true)) b' y ↔ Past F none b y := by
  rw [past_some_iff, past_congr fun p _ => notes_congr hended hdry]
  simp

/-- What a node takes in is known afterwards. -/
lemma past_take_iff (hsound : F.Sound) (hmem : x ∈ F.suppliesOf k) :
    Past F none (b.take staff k x m gave) y ↔ Past F (some (x, gave)) b y := by
  cases gave with
  | true => exact (past_true_iff (b.take staff k x m true) b rfl rfl).symm
  | false =>
    rw [past_some_iff]
    by_cases hxy : x = y
    · subst hxy
      rw [past_none_iff hsound (.slot hmem)]
      simp [Notes, take, work, exhaust]
    · have hnotes (p : Part) : (b.take staff k x m false).Notes y p ↔ b.Notes y p := by
        cases p with
        | joint c => exact Iff.rfl
        | supply z => cases z with
          | endpoint => exact Iff.rfl
          | node j =>
            by_cases hj : j = k
            · subst hj
              simp [Notes, take, work, exhaust, Ne.symm hxy]
            · simp [Notes, take, work, exhaust, hj]
      rw [past_congr fun p _ => hnotes p]
      simp [hxy]

lemma past_finish_iff (hsound : F.Sound) (hjoint : F.joints[c]? = some (q, n)) :
    Past F none (b.finish c) y ↔ Past F (some (.node q, false)) b y := by
  rw [past_some_iff]
  by_cases hy : .node q = y
  · subst hy
    rw [past_none_iff hsound (.producer hjoint)]
    simp [Notes, Books.finish]
  · rw [past_congr (b := b) fun p hhangs => ?_]
    · simp [hy]
    · match p with
      | .supply (.endpoint ..) => exact Iff.rfl
      | .supply (.node j) => exact Iff.rfl
      | .joint d =>
        have hd : d ≠ c := by
          rintro rfl
          exact hy ((Wiring.hangs_joint_iff hjoint).mp hhangs).symm
        simp [Notes, Books.finish, hd]

/-! ### Passing on -/

/-- A source has nothing that could be left waiting. -/
lemma Timely.draw {s : σ} (h : Timely F none b) (hsource : b.source k = some s) (s' : σ)
    (gave : Bool) : Timely F (some (.node k, gave)) (b.draw k s' gave) where
  spent := by
    intro y hy
    rw [past_some_iff] at hy
    rcases hy with hy | ⟨rfl, -⟩
    · have hspent := h.spent y hy
      cases y <;> exact hspent
    · obtain ⟨hsupplies, hwaiting⟩ := h.idle k s hsource
      exact ⟨hwaiting, by simp [hsupplies]⟩
  idle := by
    intro j s₁ hs₁
    by_cases hj : j = k
    · subst hj
      exact h.idle j s hsource
    · exact h.idle j s₁ ((Function.update_of_ne hj ..).symm.trans hs₁)

lemma Timely.pop (h : Timely F none b) (hteam : b.source k = none)
    (hnot : ¬Past F none b (.node k)) : Timely F (some (.node k, true)) (b.pop k) where
  spent := by
    intro y hy
    have hpast : Past F none b y := (past_true_iff b (b.pop k) rfl rfl).mp hy
    have hspent := h.spent y hpast
    cases y with
    | endpoint c i => exact hspent
    | node j =>
      have hj : j ≠ k := fun heq => hnot (heq ▸ hpast)
      exact ⟨(Function.update_of_ne hj ..).trans hspent.1, hspent.2⟩
  idle := by
    intro j s hs
    have hj : j ≠ k := by
      rintro rfl
      cases hteam.symm.trans hs
    obtain ⟨hsupplies, hwaiting⟩ := h.idle j s hs
    exact ⟨hsupplies, (Function.update_of_ne hj ..).trans hwaiting⟩

lemma Timely.refuse (h : Timely F none b) (hspent : Spent F b x) :
    Timely F (some (x, false)) b where
  spent := by
    intro y hy
    rw [past_some_iff] at hy
    rcases hy with hy | ⟨rfl, -⟩
    · exact h.spent y hy
    · exact hspent
  idle := h.idle

lemma Timely.read {i : Nat} (h : Timely F none b) (hnot : ¬Past F none b (.endpoint c i)) :
    Timely F (some (.endpoint c i, true)) (b.read (.endpoint c i)) where
  spent := by
    intro y hy
    have hspent := h.spent y ((past_true_iff b (b.read _) rfl rfl).mp hy)
    cases y with
    | node j => exact hspent
    | endpoint d j =>
      have hne : Supply.endpoint d j ≠ .endpoint c i := fun heq =>
        hnot ((past_true_iff b (b.read _) rfl rfl).mp (heq ▸ hy))
      exact ⟨hspent.1, (raise_of_ne hne).trans hspent.2⟩
  idle := h.idle

/-! ### Entering -/

/-- A node that is not known to have ended takes in what one of its inputs gave. -/
lemma Timely.take (hsound : F.Sound) (h : Timely F (some (x, gave)) b)
    (hmem : x ∈ F.suppliesOf k) (hteam : b.source k = none)
    (hnot : ¬Past F (some (x, gave)) b (.node k)) :
    Timely F none (b.take staff k x m gave) where
  spent := by
    intro y hy
    rw [past_take_iff hsound hmem] at hy
    have hspent := h.spent y hy
    cases y with
    | endpoint c i => cases gave <;> exact hspent
    | node j =>
      have hj : j ≠ k := fun heq => hnot (heq ▸ hy)
      obtain ⟨hwaiting, hended⟩ := hspent
      cases gave with
      | true => exact ⟨(raise_of_ne hj).trans hwaiting, hended⟩
      | false =>
        refine ⟨(raise_of_ne hj).trans hwaiting, fun z hz => ?_⟩
        simp only [Books.take, work, exhaust, Function.update_of_ne hj]
        exact hended z hz
  idle := by
    intro j s hs
    rw [take_source] at hs
    have hj : j ≠ k := by
      rintro rfl
      cases hteam.symm.trans hs
    obtain ⟨hsupplies, hwaiting⟩ := h.idle j s hs
    exact ⟨hsupplies, by cases gave <;> exact (raise_of_ne hj).trans hwaiting⟩

/-- A connector was given a tuple, so its endpoints have not come to the end. -/
lemma Timely.push (h : Timely F (some (x, true)) b) (hdry : b.dry c = false) :
    Timely F none (b.push c) where
  spent := by
    intro y hy
    have hspent := h.spent y ((past_true_iff (b.push c) b rfl rfl).mpr hy)
    cases y with
    | node j => exact hspent
    | endpoint d i =>
      have hd : d ≠ c := by
        rintro rfl
        rw [hspent.1] at hdry
        cases hdry
      exact ⟨hspent.1, hspent.2.trans (raise_of_ne hd).symm⟩
  idle := h.idle

/-- An endpoint that has read everything comes to the end along with the producer. -/
lemma Timely.finish {i : Nat} (hsound : F.Sound) (hjoint : F.joints[c]? = some (q, n))
    (h : Timely F (some (.node q, false)) b)
    (hposition : b.position (.endpoint c i) = b.reach c) :
    Timely F (some (.endpoint c i, false)) (b.finish c) where
  spent := by
    intro y hy
    rw [past_some_iff, past_finish_iff hsound hjoint] at hy
    rcases hy with hy | ⟨rfl, -⟩
    · have hspent := h.spent y hy
      cases y with
      | node j => exact hspent
      | endpoint d j =>
        refine ⟨?_, hspent.2⟩
        by_cases hd : d = c
        · subst hd
          exact Function.update_self ..
        · exact (Function.update_of_ne hd ..).trans hspent.1
    · exact ⟨Function.update_self .., hposition⟩
  idle := h.idle

/-! ### Sources -/

section Sources

variable [Source σ] {s₀ s s' : σ}

/-- The source of a node gave the tuples that came out of the node. It was asked for each of them,
and once more if the node has ended; if not, it goes on to give what it has left. -/
def Drawn (F : Form) (hand : Hand) (s₀ : σ) (k : Nat) (b : Books σ) : Prop :=
  ∃ s xs, b.source k = some s ∧ b.given k = xs.length ∧
    (¬Past F hand b (.node k) →
      b.nexts k = xs.length ∧ ∀ ys, Source.Spends s ys → Source.Spends s₀ (xs ++ ys)) ∧
    (Past F hand b (.node k) → b.nexts k = xs.length + 1 ∧ Source.Spends s₀ xs)

lemma Drawn.congr {hand' : Hand} (h : Drawn F hand s₀ k b)
    (hpast : Past F hand' b' (.node k) ↔ Past F hand b (.node k))
    (hsource : b'.source k = b.source k) (hgiven : b'.given k = b.given k)
    (hnexts : b'.nexts k = b.nexts k) : Drawn F hand' s₀ k b' := by
  rw [Drawn, hpast, hsource, hgiven, hnexts]
  exact h

lemma Drawn.source_ne_none (h : Drawn F hand s₀ k b) : b.source k ≠ none := by
  obtain ⟨s, -, hsource, -⟩ := h
  simp [hsource]

/-- A source is asked for a tuple, and has not given none before. -/
lemma Drawn.draw {given : Option Tuple} (h : Drawn F none s₀ k b) (hsource : b.source k = some s)
    (hnext : Source.next s = (.ok given, s')) (hnot : ¬Past F none b (.node k)) :
    Drawn F (some (.node k, given.isSome)) s₀ k (b.draw k s' given.isSome) := by
  obtain ⟨s₁, xs, hsource₁, hgiven, hopen, -⟩ := h
  cases hsource.symm.trans hsource₁
  obtain ⟨hnexts, hspends⟩ := hopen hnot
  have hsource' : (b.draw k s' given.isSome).source k = some s' := Function.update_self ..
  have hgiven' : (b.draw k s' given.isSome).given k = xs.length + given.isSome.toNat :=
    raise_self.trans (congrArg (· + _) hgiven)
  have hnexts' : (b.draw k s' given.isSome).nexts k = xs.length + 1 :=
    raise_self.trans (congrArg (· + 1) hnexts)
  cases given with
  | some x =>
    refine ⟨s', xs ++ [x], hsource', by simpa using hgiven', fun _ => ⟨by simpa using hnexts', ?_⟩,
      fun hpast => (hnot ((past_true_iff b _ rfl rfl).mp hpast)).elim⟩
    intro ys hys
    rw [List.append_assoc]
    exact hspends (x :: ys) (.give hnext hys)
  | none =>
    refine ⟨s', xs, hsource', hgiven', fun hopen => (hopen (.inr rfl)).elim, fun _ => ⟨hnexts', ?_⟩⟩
    have hlast := hspends [] (.last hnext)
    rwa [List.append_nil] at hlast

end Sources

end Books

/-! ### Pulling -/

open Books

variable {σ : Type} [Source σ] {F : Form} {x y : Supply} {b b' : Books σ} {gave : Bool} {out : Nat}

namespace Books.Pulled

lemma past_iff (hsound : F.Sound) (h : Books.Pulled F x b gave b')
    (hlt : F.placeOf x < F.placeOf y) :
    Past F none b' y ↔ Past F none b y := by
  refine past_congr fun p hhangs => ?_
  cases hhangs with
  | slot hmem =>
    simp only [Notes, h.ended_eq hsound (hlt.trans (hsound.placeOf_lt hmem))]
  | @producer c q n hjoint =>
    have hq : F.producerOf c = q := Wiring.producerOf_eq hjoint
    have hlt' : F.placeOf x < F.producerOf c := hq ▸ hlt
    obtain ⟨-, hdry, -⟩ := h.connector_eq hsound hlt'.le fun d i hx => by rwa [hx] at hlt'
    simp only [Notes, hdry]

lemma not_past {k : Nat} (hsound : F.Sound) (h : Books.Pulled F x b gave b')
    (hmem : x ∈ F.suppliesOf k) (hnot : ¬Past F none b (.node k)) :
    ¬Past F (some (x, gave)) b' (.node k) := by
  have hlt : F.placeOf x < F.placeOf (.node k) := hsound.placeOf_lt hmem
  rw [past_some_iff, h.past_iff hsound hlt]
  rintro (hpast | ⟨rfl, -⟩)
  · exact hnot hpast
  · exact lt_irrefl k hlt

/-- Pulling what has not ended leaves nothing behind in what has. -/
theorem timely (hsound : F.Sound) (h : Books.Pulled F x b gave b') (hhas : F.Has x)
    (hnot : ¬Past F none b x) (hb : Balanced F none out b) (ht : Timely F none b) :
    Timely F (some (x, gave)) b' := by
  induction h with
  | draw hsource hnext => exact ht.draw hsource _ _
  | pop hteam hwaiting => exact ht.pop hteam hnot
  | spent hteam hwaiting hended => exact ht.refuse ⟨hwaiting, hended⟩
  | @feed k b b₁ b' x gave gave' m hteam hwaiting hmem hopen hinput hagain ih ih' =>
    have hhas' := hsound.has_of_hangs (.slot hmem)
    have hopen' := (hinput.ended_eq hsound (hsound.placeOf_lt hmem) _).trans hopen
    have hnot' := hinput.not_past hsound hmem hnot
    have hteam' := (hinput.source_eq_none_iff k).mpr hteam
    refine ih' hhas ?_ ((hinput.balanced hsound hhas' hb).take hsound hmem hopen' m)
      ((ih hhas' (not_past_input hsound hmem hopen) hb ht).take hsound hmem hteam' hnot')
    rwa [past_take_iff hsound hmem]
  | read hahead => exact ht.read hnot
  | dry hbehind hdry =>
    exact ht.refuse ⟨hdry, le_antisymm (hb.position_le ..) hbehind⟩
  | @fetch c i b b₁ hbehind hdry hproducer ih =>
    obtain ⟨n, hjoint, -⟩ := hhas.exists_joint
    obtain ⟨-, hdry', -⟩ := hproducer.connector_eq hsound le_rfl fun _ _ => Supply.noConfusion
    have hproduced := ih (hsound.has_of_hangs (.producer hjoint))
      (not_past_producer hsound hjoint hdry) hb ht
    refine (hproduced.push (hdry'.trans hdry)).read fun hpast => ?_
    -- An endpoint that is past would have found its connector dry.
    have hspent := hproduced.spent _ ((past_true_iff (b₁.push c) b₁ rfl rfl).mpr hpast)
    rw [hspent.1, hdry] at hdry'
    cases hdry'
  | @finish c i b b₁ hbehind hdry hproducer ih =>
    obtain ⟨n, hjoint, -⟩ := hhas.exists_joint
    obtain ⟨hreach, -, hposition⟩ :=
      hproducer.connector_eq hsound le_rfl fun _ _ => Supply.noConfusion
    refine (ih (hsound.has_of_hangs (.producer hjoint)) (not_past_producer hsound hjoint hdry) hb
      ht).finish hsound hjoint ?_
    rw [hreach, hposition]
    exact le_antisymm (hb.position_le c i) hbehind

/-- Pulling asks a source no more after it gave none. -/
theorem drawn {s₀ : σ} {k : Nat} (hsound : F.Sound) (h : Books.Pulled F x b gave b')
    (hhas : F.Has x) (hnot : ¬Past F none b x) (hb : Drawn F none s₀ k b) :
    Drawn F (some (x, gave)) s₀ k b' := by
  induction h with
  | @draw j b s s' given hsource hnext =>
    by_cases hj : j = k
    · subst hj
      exact hb.draw hsource hnext hnot
    · have hk : k ≠ j := Ne.symm hj
      exact hb.congr ((past_of_ne fun heq => hj (Supply.node.inj heq)).trans Iff.rfl)
        (Function.update_of_ne hk ..) (raise_of_ne hk) (raise_of_ne hk)
  | @pop j b hteam hwaiting =>
    exact hb.congr (past_true_iff b (b.pop j) rfl rfl) rfl rfl rfl
  | @spent j b hteam hwaiting hended =>
    have hj : j ≠ k := fun heq => hb.source_ne_none (heq ▸ hteam)
    exact hb.congr (past_of_ne fun heq => hj (Supply.node.inj heq)) rfl rfl rfl
  | @feed j b b₁ b' x gave gave' m hteam hwaiting hmem hopen hinput hagain ih ih' =>
    have hinput' := ih (hsound.has_of_hangs (.slot hmem)) (not_past_input hsound hmem hopen) hb
    have hj : k ≠ j := by
      rintro rfl
      exact hb.source_ne_none hteam
    refine ih' hhas ?_ (hinput'.congr (past_take_iff hsound hmem) ?_ ?_ ?_)
    · rw [past_take_iff hsound hmem]
      exact hinput.not_past hsound hmem hnot
    · cases gave <;> rfl
    · cases gave <;> exact raise_of_ne hj
    · cases gave <;> rfl
  | @read c i b hahead =>
    exact hb.congr (past_true_iff b (b.read _) rfl rfl) rfl rfl rfl
  | dry hbehind hdry => exact hb.congr (past_of_ne Supply.noConfusion) rfl rfl rfl
  | @fetch c i b b₁ hbehind hdry hproducer ih =>
    obtain ⟨n, hjoint, -⟩ := hhas.exists_joint
    have hproduced := ih (hsound.has_of_hangs (.producer hjoint))
      (not_past_producer hsound hjoint hdry) hb
    have hpushed : Drawn F none s₀ k (b₁.push c) :=
      hproduced.congr (past_true_iff (b₁.push c) b₁ rfl rfl).symm rfl rfl rfl
    exact hpushed.congr (past_true_iff _ ((b₁.push c).read _) rfl rfl) rfl rfl rfl
  | @finish c i b b₁ hbehind hdry hproducer ih =>
    obtain ⟨n, hjoint, -⟩ := hhas.exists_joint
    have hproduced := ih (hsound.has_of_hangs (.producer hjoint))
      (not_past_producer hsound hjoint hdry) hb
    refine hproduced.congr ?_ rfl rfl rfl
    rw [past_of_ne Supply.noConfusion, past_finish_iff hsound hjoint]

end Books.Pulled

/-! ### To the end -/

namespace Books

/-- The books of a tree that was not pulled yet. -/
structure Blank (F : Form) (b : Books σ) : Prop where
  idle : ∀ k s, b.source k = some s → F.suppliesOf k = []
  waiting_eq : ∀ k, b.waiting k = 0
  ended_eq : ∀ k x, b.ended k x = false
  reach_eq : ∀ c, b.reach c = 0
  dry_eq : ∀ c q n, F.joints[c]? = some (q, n) → b.dry c = false
  position_eq : ∀ x, b.position x = 0
  taken_eq : ∀ k, b.taken k = 0
  given_eq : ∀ k, b.given k = 0
  nexts_eq : ∀ k, b.nexts k = 0
  works_eq : ∀ k, b.works k = 0

/-- The books balance, nothing is left behind in what has ended, and the sources were asked no more
than they should. -/
structure Kept (F : Form) (source₀ : Nat → Option σ) (hand : Hand) (out : Nat) (b : Books σ) :
    Prop where
  balanced : Balanced F hand out b
  timely : Timely F hand b
  drawn : ∀ k s₀, source₀ k = some s₀ → Drawn F hand s₀ k b

variable {source₀ : Nat → Option σ} {n : Nat}

omit [Source σ] in
lemma Blank.not_past (h : Blank F b) : ¬Past F none b x := by
  rintro (⟨p, hhangs, hnotes⟩ | ⟨⟨⟩⟩)
  cases hhangs with
  | slot =>
    rw [Notes, h.ended_eq] at hnotes
    cases hnotes
  | producer hjoint =>
    rw [Notes, h.dry_eq _ _ _ hjoint] at hnotes
    cases hnotes

lemma Blank.kept (h : Blank F b) : Kept F b.source none 0 b where
  balanced := by
    have hpassed (x : Supply) : b.passed x = 0 := by
      cases x with
      | node k => simp [passed, h.given_eq]
      | endpoint c i => exact h.position_eq _
    have hentered : b.entered none = fun _ => 0 := by
      funext x
      simp [entered, hpassed]
    refine ⟨fun k => ?_, fun c i => ?_, fun x => Nat.zero_le _, fun k => ?_, fun c q n _ => ?_, ?_,
      fun k => ?_⟩
    · rw [h.waiting_eq]
      exact Nat.zero_le _
    · rw [h.position_eq]
      exact Nat.zero_le _
    · simp [hentered, h.taken_eq]
    · simp [hentered, h.reach_eq]
    · simp [hentered]
    · simp [h.works_eq, h.taken_eq, h.ended_eq]
  timely := ⟨fun x hpast => (h.not_past hpast).elim, fun k s hs => ⟨h.idle k s hs, h.waiting_eq k⟩⟩
  drawn := fun k s₀ hs₀ => ⟨s₀, [], hs₀, h.given_eq k, fun _ => ⟨h.nexts_eq k, fun _ => id⟩,
    fun hpast => (h.not_past hpast).elim⟩

lemma Kept.pull (hsound : F.Sound) (h : Kept F source₀ none out b)
    (hpull : Books.Pulled F (.node F.root) b gave b') :
    Kept F source₀ (some (.node F.root, gave)) out b' where
  balanced := hpull.balanced hsound hsound.root_lt h.balanced
  timely := hpull.timely hsound hsound.root_lt (not_past_root hsound) h.balanced h.timely
  drawn := fun k s₀ hs₀ =>
    hpull.drawn hsound hsound.root_lt (not_past_root hsound) (h.drawn k s₀ hs₀)

lemma Kept.give (hsound : F.Sound) (h : Kept F source₀ (some (.node F.root, true)) out b) :
    Kept F source₀ none (out + 1) b where
  balanced := h.balanced.give hsound
  timely := ⟨fun x hpast => h.timely.spent x ((past_true_iff b b rfl rfl).mpr hpast), h.timely.idle⟩
  drawn := fun k s₀ hs₀ => (h.drawn k s₀ hs₀).congr (past_true_iff b b rfl rfl).symm rfl rfl rfl

/-- The sink is pulled until it gives none. -/
theorem Kept.drain (hsound : F.Sound) (h : Kept F source₀ none out b)
    (hdrain : Books.Drained F (.node F.root) b n b') :
    Kept F source₀ (some (.node F.root, false)) (out + n) b' := by
  induction hdrain generalizing out with
  | last hpull => exact h.pull hsound hpull
  | more hpull hrest ih =>
    have hlater := ih ((h.pull hsound hpull).give hsound)
    rwa [Nat.add_right_comm, Nat.add_assoc] at hlater

/-- When the sink has nothing left, neither has anything else. -/
lemma Kept.past (hsound : F.Sound) (h : Kept F source₀ (some (.node F.root, false)) out b)
    (hhas : F.Has x) : Past F (some (.node F.root, false)) b x := by
  let P : Part → Prop
    | .supply x => Past F (some (.node F.root, false)) b x
    | .joint c => b.dry c = true
  refine hsound.induct (P := P) (.inr rfl) (fun x p hhangs hp => ?_)
    (fun c q n hjoint hall => ?_) hhas
  · cases hhangs with
    | slot hmem =>
      obtain ⟨-, hended⟩ := h.timely.spent _ hp
      exact .inl ⟨_, .slot hmem, hended x hmem⟩
    | producer hjoint => exact .inl ⟨_, .producer hjoint, hp⟩
  · exact (h.timely.spent _ (hall 0 (hsound.pos c q n hjoint))).1

/-- What a supply passed on in the end is what came out of the node behind it. -/
lemma Kept.entered_eq (hsound : F.Sound) (h : Kept F source₀ (some (.node F.root, false)) out b)
    (hhas : F.Has x) : b.entered (some (.node F.root, false)) x = b.given (F.placeOf x) := by
  have hpassed (y : Supply) : b.entered (some (.node F.root, false)) y = b.passed y := by
    simp [entered, Hand.count]
  have hnode {k : Nat} (hk : F.Has (.node k)) : b.passed (.node k) = b.given k := by
    obtain ⟨hwaiting, -⟩ := h.timely.spent _ (h.past hsound hk)
    rw [passed, hwaiting, Nat.sub_zero]
  rw [hpassed]
  cases x with
  | node k => exact hnode hhas
  | endpoint c i =>
    obtain ⟨n, hjoint, -⟩ := hhas.exists_joint
    obtain ⟨-, hposition⟩ := h.timely.spent _ (h.past hsound hhas)
    calc b.position (.endpoint c i)
        = b.entered (some (.node F.root, false)) (.node (F.producerOf c)) :=
          hposition.trans (h.balanced.reach_eq c _ n hjoint)
      _ = b.given (F.producerOf c) :=
          (hpassed _).trans (hnode (hsound.has_of_hangs (.producer hjoint)))

/-- In the end the tuples that went into a node are those that came out of its producers, and its
workers were called once for each of them and once each for the end of each input. -/
theorem Kept.node_eq (hsound : F.Sound) (h : Kept F source₀ (some (.node F.root, false)) out b)
    (k : Nat) :
    b.taken k = ((F.suppliesOf k).map fun x => b.given (F.placeOf x)).sum ∧
      b.works k = b.taken k + F.staff k * (F.suppliesOf k).length := by
  constructor
  · refine (h.balanced.taken_eq k).trans (congrArg List.sum (List.map_congr_left fun x hx => ?_))
    exact h.entered_eq hsound (hsound.has_of_hangs (.slot hx))
  · have hall : (F.suppliesOf k).countP (b.ended k) = (F.suppliesOf k).length := by
      refine List.countP_eq_length.mpr fun x hx => ?_
      have hk : F.Has (.node k) := Wiring.lt_of_mem_suppliesOf hx
      exact (h.timely.spent _ (h.past hsound hk)).2 x hx
    rw [← hall]
    exact h.balanced.works_eq k

/-- In the end a source was asked for every tuple it has and once more. -/
theorem Kept.source_eq (hsound : F.Sound) (h : Kept F source₀ (some (.node F.root, false)) out b)
    {k : Nat} {s₀ : σ} (hk : k < F.supplies.length) (hs₀ : source₀ k = some s₀) :
    ∃ tuples, Source.Spends s₀ tuples ∧ b.given k = tuples.length ∧
      b.nexts k = tuples.length + 1 := by
  obtain ⟨s, tuples, -, hgiven, -, hpast⟩ := h.drawn k s₀ hs₀
  obtain ⟨hnexts, hspends⟩ := hpast (h.past hsound (x := .node k) hk)
  exact ⟨tuples, hspends, hgiven, hnexts⟩

/-- In the end the tree gave what came out of its sink. -/
theorem Kept.out_eq (hsound : F.Sound) (h : Kept F source₀ (some (.node F.root, false)) out b) :
    b.given F.root = out :=
  (h.balanced.out_eq.trans (h.entered_eq hsound (x := .node F.root) hsound.root_lt)).symm

end Books

end Dataflow
