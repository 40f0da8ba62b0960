import Dataflow.Proofs.Connector
import Dataflow.Proofs.Flow.Stream
import Dataflow.Proofs.Tree.Ledger

/-!
# Forecasts

A forecast says of every node and every endpoint what it will still give. In a tree that is open
it is a local matter whether a forecast is right: what a node gives has to follow from what feeds
it, and what an endpoint gives from its connector and the producer. So what is done to one part of
a tree does not concern the forecast of the others.
-/

namespace Dataflow

/-- What every node and every endpoint still gives. -/
abbrev Forecast : Type :=
  Supply → Stream

/-- The part that makes out what a supply gives. -/
def Supply.home : Supply → Part
  | .node k => .supply (.node k)
  | .endpoint c _ => .joint c

namespace Wiring

variable {w : Wiring}

/-- Consumers are on higher levels than what feeds them. -/
def level (w : Wiring) : Part → Nat
  | .supply (.node q) => 2 * q
  | .supply (.endpoint c _) => 2 * w.producerOf c + 1
  | .joint c => 2 * w.producerOf c + 1

lemma level_home (x : Supply) : w.level x.home = w.level (.supply x) := by
  cases x <;> rfl

lemma Sound.level_lt (hsound : w.Sound) {x : Supply} {b : Part} (h : w.Hangs x b) :
    w.level (.supply x) < w.level b := by
  cases h with
  | @slot x k hmem =>
    have hbelow := hsound.below k x hmem
    match x with
    | .node q =>
      have hlt : q < k := hbelow
      simp only [level]
      omega
    | .endpoint c i =>
      obtain ⟨q, n, hjoint, -, hlt⟩ := hbelow
      simp only [level, producerOf_eq hjoint]
      omega
  | producer hjoint =>
    simp only [level, producerOf_eq hjoint]
    omega

end Wiring

section Flows

variable {σ ω : Type} [Source σ] [Worker ω]

/-- What a crew gives follows from what feeds it. -/
def Crew.Flows (R : Forecast) (out : Stream) : Crew σ ω → Prop
  | .source s _ => Source.Yields s out
  | .team t => t.Yields (t.slots.map fun slot => R slot.supply) out

/-- What the endpoints of a connector give follows from what the producer gives. -/
structure Junction.Flows (R : Forecast) (c : ConnectorId) (junction : Junction) : Prop where
  ended : junction.connector.ended → R (.node junction.producer) = .done
  opened : ∀ e ∈ junction.connector.endpoints, e.phase = .opened
  sane : junction.connector.Sane
  ahead : ∀ (i : Nat) e, junction.connector.endpoints[i]? = some e →
    R (.endpoint c i) = (R (.node junction.producer)).after (junction.connector.ahead e)

/-- The forecast is right at one part of a tree. -/
def Tree.Flows (R : Forecast) (t : Tree σ ω) : Part → Prop
  | .supply (.node k) => ∀ node, t.nodes[k]? = some node →
      node.phase = .opened ∧ node.crew.Flows R (R (.node k))
  | .supply (.endpoint ..) => True
  | .joint c => ∀ junction, t.junctions[c]? = some junction → junction.Flows R c

omit [Source σ] [Worker ω] in
/-- A part of a tree is as it was. -/
def Tree.Untouched (t t' : Tree σ ω) : Part → Prop
  | .supply (.node k) => t'.nodes[k]? = t.nodes[k]?
  | .supply (.endpoint ..) => True
  | .joint c => t'.junctions[c]? = t.junctions[c]?

end Flows

namespace Tree

variable {σ ω : Type} {w : Wiring} {R R' R'' : Forecast} {t t' t'' : Tree σ ω} {n : Nat}
  {x : Supply}

/-- Parts above a level are as they were, and so is the forecast of what feeds them. -/
structure Shifts (w : Wiring) (n : Nat) (R : Forecast) (t : Tree σ ω) (R' : Forecast)
    (t' : Tree σ ω) : Prop where
  untouched : ∀ a, n < w.level a → t.Untouched t' a
  kept : ∀ y, (∀ a, w.Hangs y a → n < w.level a) → R' y = R y

/-- A supply was pulled: its forecast is one tuple shorter, and everything up to its level is in
order again. -/
structure Served [Source σ] [Worker ω] (w : Wiring) (R : Forecast) (x : Supply) (t : Tree σ ω)
    (R' : Forecast) (t' : Tree σ ω) : Prop where
  tail_eq : R' x = (R x).tail
  flows : ∀ a, w.level a ≤ w.level (.supply x) → t'.Flows R' a
  untouched : ∀ a, w.level (.supply x) < w.level a → t.Untouched t' a
  kept : ∀ y, y ≠ x → (∀ a, w.Hangs y a → w.level (.supply x) < w.level a) → R' y = R y

lemma Untouched.refl {a : Part} : t.Untouched t a := by
  match a with
  | .supply (.node k) => exact rfl
  | .supply (.endpoint ..) => trivial
  | .joint c => exact rfl

lemma Untouched.trans {a : Part} (h : t.Untouched t' a) (h' : t'.Untouched t'' a) :
    t.Untouched t'' a := by
  match a with
  | .supply (.node k) => exact Eq.trans h' h
  | .supply (.endpoint ..) => trivial
  | .joint c => exact Eq.trans h' h

lemma Shifts.trans (h : Shifts w n R t R' t') (h' : Shifts w n R' t' R'' t'') :
    Shifts w n R t R'' t'' where
  untouched := fun a ha => (h.untouched a ha).trans (h'.untouched a ha)
  kept := fun y hy => (h'.kept y hy).trans (h.kept y hy)

section Served

variable [Source σ] [Worker ω]

/-- Parts of which nothing changed stay in order. -/
lemma Flows.congr {a : Part} (h : t.Flows R a) (huntouched : t.Untouched t' a)
    (hself : ∀ x, x.home = a → R' x = R x)
    (hfeed : ∀ y, t.ledger.wiring.Hangs y a → R' y = R y) : t'.Flows R' a := by
  match a with
  | .supply (.endpoint ..) => trivial
  | .supply (.node k) =>
    intro node hk
    have hold : t.nodes[k]? = some node := huntouched ▸ hk
    obtain ⟨hphase, hcrew⟩ := h node hold
    refine ⟨hphase, ?_⟩
    rw [hself (.node k) rfl]
    match hc : node.crew with
    | .source s started =>
      rw [hc] at hcrew
      exact hcrew
    | .team team =>
      rw [hc] at hcrew
      have hins : (team.slots.map fun slot => R' slot.supply) =
          team.slots.map fun slot => R slot.supply :=
        List.map_congr_left fun slot hslot =>
          hfeed _ (.slot (mem_suppliesOf_of_mem_slots hold hc hslot))
      simp only [Crew.Flows, hins]
      exact hcrew
  | .joint c =>
    intro junction hc
    have hold : t.junctions[c]? = some junction := huntouched ▸ hc
    have hjunction := h junction hold
    have hproducer : R' (.node junction.producer) = R (.node junction.producer) :=
      hfeed _ (.producer (joint_of_junction hold))
    refine ⟨fun hended => hproducer.trans (hjunction.ended hended), hjunction.opened,
      hjunction.sane, fun i e he => ?_⟩
    rw [hproducer, hself (.endpoint c i) rfl]
    exact hjunction.ahead i e he

lemma Shifts.flows {a : Part} (h : Shifts w n R t R' t') (hsound : w.Sound)
    (hw : t.ledger.wiring = w) (ha : n < w.level a) (hflows : t.Flows R a) : t'.Flows R' a := by
  refine hflows.congr (h.untouched a ha) (fun x hx => ?_) fun y hy => ?_
  · rw [← hx, Wiring.level_home] at ha
    exact h.kept x fun b hb => ha.trans (hsound.level_lt hb)
  · rw [hw] at hy
    exact h.kept y fun b hb => hsound.hangs_unique hy hb ▸ ha

/-- When only the home of a supply changes, and gives what it gave before but for the head of the
supply, the supply was pulled. -/
lemma Served.of_home (hsound : w.Sound) (hw : t.ledger.wiring = w)
    (hflows : ∀ a, a ≠ x.home → w.level a ≤ w.level (.supply x) → t.Flows R a)
    (huntouched : ∀ a, a ≠ x.home → t.Untouched t' a)
    (hhome : t'.Flows (Function.update R x (R x).tail) x.home) :
    Served w R x t (Function.update R x (R x).tail) t' where
  tail_eq := Function.update_self ..
  flows := by
    intro a ha
    by_cases hhere : a = x.home
    · exact hhere ▸ hhome
    · refine (hflows a hhere ha).congr (huntouched a hhere) (fun y hy => ?_) fun y hy => ?_
      · refine Function.update_of_ne (fun heq => hhere ?_) ..
        rw [← hy, heq]
      · rw [hw] at hy
        refine Function.update_of_ne (fun heq => ?_) ..
        exact absurd (hsound.level_lt (heq ▸ hy)) (not_lt.mpr ha)
  untouched := fun a ha => huntouched a fun heq => by
    rw [heq, Wiring.level_home] at ha
    exact lt_irrefl _ ha
  kept := fun y hne _ => Function.update_of_ne hne ..

/-- A supply that was pulled may have changed everything up to the level of its consumer. -/
lemma Served.shifts {b : Part} (h : Served w R x t R' t') (hsound : w.Sound)
    (hb : w.Hangs x b) (hn : w.level b ≤ n) : Shifts w n R t R' t' where
  untouched := fun a ha => h.untouched a ((hsound.level_lt hb).trans (lt_of_le_of_lt hn ha))
  kept := by
    intro y hy
    refine h.kept y (fun heq => ?_) fun a ha =>
      (hsound.level_lt hb).trans (lt_of_le_of_lt hn (hy a ha))
    exact absurd (hy b (heq ▸ hb)) (not_lt.mpr hn)

/-- What was changed before, up to the level of a supply that is pulled, counts as part of the
pulling. -/
lemma Served.of_shifts (h : Shifts w (w.level (.supply x)) R t R' t')
    (hserved : Served w R' x t' R'' t'') (hsound : w.Sound) : Served w R x t R'' t'' where
  tail_eq := by
    rw [hserved.tail_eq, h.kept x fun a ha => hsound.level_lt ha]
  flows := hserved.flows
  untouched := fun a ha => (h.untouched a ha).trans (hserved.untouched a ha)
  kept := fun y hne hy => (hserved.kept y hne hy).trans (h.kept y hy)

lemma Served.flows_above {a : Part} (h : Served w R x t R' t') (hsound : w.Sound)
    (hw : t.ledger.wiring = w) (ha : w.level (.supply x) < w.level a) (hnot : ¬w.Hangs x a)
    (hflows : t.Flows R a) : t'.Flows R' a := by
  refine hflows.congr (h.untouched a ha) (fun z hz => ?_) fun y hy => ?_
  · rw [← hz, Wiring.level_home] at ha
    exact h.kept z (fun heq => lt_irrefl _ (heq ▸ ha)) fun b hb => ha.trans (hsound.level_lt hb)
  · rw [hw] at hy
    exact h.kept y (fun heq => hnot (heq ▸ hy)) fun b hb => hsound.hangs_unique hy hb ▸ ha

end Served

end Tree

end Dataflow
