import Dataflow.Proofs.Tree.Wiring

/-!
# Ledgers

The ledger of a tree keeps only what opening and closing are about: the phases of its parts, the
executors that were opened, and how often each executor was asked to open or to close. Pulling
does not change it.
-/

namespace Dataflow

/-- How often an executor was asked to open, did so, and was asked to close. -/
structure CallTally where
  starts : Nat
  opens : Nat
  stops : Nat

/-- The executor of a call: its node and the number of the worker. -/
def Call.executor (c : Call) : Nat × Option Nat :=
  (c.node, c.worker)

/-- A call of an executor to open. -/
def Call.isStart (x : Nat × Option Nat) (c : Call) : Bool :=
  c.executor = x ∧ c.event = .start

/-- A call of an executor to open that succeeded. -/
def Call.isOpen (x : Nat × Option Nat) (c : Call) : Bool :=
  c.executor = x ∧ c.event = .start ∧ c.failure = none

/-- A call of an executor to close. -/
def Call.isStop (x : Nat × Option Nat) (c : Call) : Bool :=
  c.executor = x ∧ c.event = .stop

/-- The tally of an executor over a list of calls. -/
def tally (calls : List Call) (x : Nat × Option Nat) : CallTally :=
  ⟨calls.countP (Call.isStart x), calls.countP (Call.isOpen x), calls.countP (Call.isStop x)⟩

section CallTally

variable {calls : List Call} {c : Call} {x : Nat × Option Nat}

lemma tally_cons_of_ne (h : c.executor ≠ x) : tally (c :: calls) x = tally calls x := by
  simp [tally, Call.isStart, Call.isOpen, Call.isStop, h]

lemma tally_cons_of_quiet (hstart : c.event ≠ .start) (hstop : c.event ≠ .stop) :
    tally (c :: calls) x = tally calls x := by
  simp [tally, Call.isStart, Call.isOpen, Call.isStop, hstart, hstop]

lemma tally_cons_of_worker_ne {w : Option Nat} (h : w ≠ c.worker) :
    tally (c :: calls) (c.node, w) = tally calls (c.node, w) :=
  tally_cons_of_ne fun heq => h (congrArg Prod.snd heq).symm

lemma tally_cons_start {k : Nat} {w : Option Nat} {failure : Option Error} :
    tally (⟨k, w, .start, failure⟩ :: calls) (k, w) =
      ⟨(tally calls (k, w)).starts + 1,
        (tally calls (k, w)).opens + if failure = none then 1 else 0,
        (tally calls (k, w)).stops⟩ := by
  by_cases h : failure = none <;>
    simp [tally, Call.isStart, Call.isOpen, Call.isStop, Call.executor, h]

lemma tally_cons_stop {k : Nat} {w : Option Nat} {failure : Option Error} :
    tally (⟨k, w, .stop, failure⟩ :: calls) (k, w) =
      ⟨(tally calls (k, w)).starts, (tally calls (k, w)).opens,
        (tally calls (k, w)).stops + 1⟩ := by
  simp [tally, Call.isStart, Call.isOpen, Call.isStop, Call.executor]

end CallTally

/-- What the ledger says of a node. -/
structure NodeEntry where
  phase : Phase
  supplies : List Supply
  /-- The executors that were opened, by the numbers of the workers. -/
  opened : List (Option Nat)
  staff : List (Option Nat)

/-- What the ledger says of a connector. -/
structure JointEntry where
  producer : Nat
  phases : List Phase
  started : Bool

/-- The phases of all parts of a tree and the tallies of its executors. -/
structure Ledger where
  nodes : List NodeEntry
  joints : List JointEntry
  root : Nat
  tally : Nat × Option Nat → CallTally

/-- The tallies of the executors of a node fit its entry: each was asked to open at most once, the
opened ones are those that did so, and they were asked to close once if the node is closed. -/
structure NodeEntry.Tracked (e : NodeEntry) (tally : Option Nat → CallTally) : Prop where
  fresh : e.phase = .unopened → ∀ w, (tally w).starts = 0
  starts_le : ∀ w, (tally w).starts ≤ 1
  opens_le : ∀ w, (tally w).opens ≤ (tally w).starts
  opens_eq : ∀ w, (tally w).opens = e.opened.count w
  stops_eq : ∀ w, (tally w).stops = if e.phase = .closed then e.opened.count w else 0
  opened_subset : e.opened ⊆ e.staff

lemma NodeEntry.Tracked.opened_eq_nil {e : NodeEntry} {tally : Option Nat → CallTally}
    (h : e.Tracked tally) (hphase : e.phase = .unopened) : e.opened = [] := by
  rw [List.eq_nil_iff_forall_not_mem]
  intro w hw
  have hpos := List.count_pos_iff.mpr hw
  have hle := h.opens_le w
  rw [← h.opens_eq w] at hpos
  rw [h.fresh hphase w] at hle
  omega

section Entries

variable {σ ω : Type}

/-- The executors of a crew that were opened. -/
def Crew.opened : Crew σ ω → List (Option Nat)
  | .source _ started => if started then [none] else []
  | .team t => (List.range t.started).map some

/-- The executors of a crew. -/
def Crew.staff : Crew σ ω → List (Option Nat)
  | .source .. => [none]
  | .team t => (List.range t.workers.length).map some

/-- What feeds a crew. -/
def Crew.supplies : Crew σ ω → List Supply
  | .source .. => []
  | .team t => t.slots.map Slot.supply

/-- The entry of a node. -/
def Node.entry (node : Node σ ω) : NodeEntry :=
  ⟨node.phase, node.crew.supplies, node.crew.opened, node.crew.staff⟩

/-- The phases of the endpoints of a connector. -/
def Connector.phases (c : Connector) : List Phase :=
  c.endpoints.map Endpoint.phase

/-- The entry of a connector. -/
def Junction.entry (junction : Junction) : JointEntry :=
  ⟨junction.producer, junction.connector.phases, junction.connector.started⟩

/-- The ledger of a tree. -/
def Tree.ledger (t : Tree σ ω) : Ledger :=
  ⟨t.nodes.map Node.entry, t.junctions.map Junction.entry, t.root, Dataflow.tally t.newestCalls⟩

end Entries

namespace Ledger

/-- The wiring in a ledger. -/
def wiring (l : Ledger) : Wiring :=
  ⟨l.nodes.map NodeEntry.supplies,
    l.joints.map fun joint => (joint.producer, joint.phases.length), l.root⟩

/-- How far a node or an endpoint has come. -/
def phase? (l : Ledger) : Supply → Option Phase
  | .node k => l.nodes[k]?.map NodeEntry.phase
  | .endpoint c i => l.joints[c]?.bind fun joint => joint.phases[i]?

/-- The parts that were asked to open or to close. -/
def Reached (l : Ledger) : Part → Prop
  | .supply x => ∃ phase, l.phase? x = some phase ∧ phase ≠ .unopened
  | .joint c => ∃ joint, l.joints[c]? = some joint ∧ joint.started

/-- The parts that are closed. A connector is closed along with the last of its endpoints. -/
def Done (l : Ledger) : Part → Prop
  | .supply x => l.phase? x = some .closed
  | .joint c => ∃ joint, l.joints[c]? = some joint ∧ ∀ phase ∈ joint.phases, phase = .closed

variable {l l' l'' : Ledger}

lemma suppliesOf_eq {k : Nat} {e : NodeEntry} (h : l.nodes[k]? = some e) :
    l.wiring.suppliesOf k = e.supplies := by
  simp [wiring, Wiring.suppliesOf, h]

/-- A connector is closed exactly if all its endpoints are. -/
lemma done_joint_iff {c : ConnectorId} :
    l.Done (.joint c) ↔ ∃ q n, l.wiring.joints[c]? = some (q, n) ∧
      ∀ i < n, l.phase? (.endpoint c i) = some .closed := by
  match hc : l.joints[c]? with
  | none => simp [Done, wiring, hc]
  | some joint =>
    simp only [Done, hc, wiring, List.getElem?_map, Option.map_some, Option.some.injEq,
      Prod.mk.injEq, phase?, Option.bind_some, exists_eq_left']
    constructor
    · intro h
      refine ⟨_, _, ⟨rfl, rfl⟩, fun i hi => ?_⟩
      rw [List.getElem?_eq_getElem hi, h _ (List.getElem_mem hi)]
    · rintro ⟨q, n, ⟨-, rfl⟩, h⟩ phase hmem
      obtain ⟨i, hi, rfl⟩ := List.mem_iff_getElem.mp hmem
      have hclosed := h i hi
      rwa [List.getElem?_eq_getElem hi, Option.some.injEq] at hclosed

/-- The tallies of all executors of a node fit its entry. -/
def Tracked (l : Ledger) (k : Nat) : Prop :=
  ∀ e, l.nodes[k]? = some e → e.Tracked fun w => l.tally (k, w)

/-- Only nodes below a place changed, and those that were tracked still are. -/
structure Keeps (n : Nat) (l l' : Ledger) : Prop where
  wiring_eq : l'.wiring = l.wiring
  node_eq : ∀ k, n ≤ k → l'.nodes[k]? = l.nodes[k]?
  tally_eq : ∀ k, n ≤ k → ∀ w, l'.tally (k, w) = l.tally (k, w)
  tracked : ∀ k, l.Tracked k → l'.Tracked k

namespace Keeps

variable {n m : Nat}

lemma refl : Keeps n l l :=
  ⟨rfl, fun _ _ => rfl, fun _ _ _ => rfl, fun _ => id⟩

lemma trans (h : Keeps n l l') (h' : Keeps n l' l'') : Keeps n l l'' where
  wiring_eq := h'.wiring_eq.trans h.wiring_eq
  node_eq := fun k hk => (h'.node_eq k hk).trans (h.node_eq k hk)
  tally_eq := fun k hk w => (h'.tally_eq k hk w).trans (h.tally_eq k hk w)
  tracked := fun k hk => h'.tracked k (h.tracked k hk)

lemma mono (h : Keeps n l l') (hle : n ≤ m) : Keeps m l l' where
  wiring_eq := h.wiring_eq
  node_eq := fun k hk => h.node_eq k (hle.trans hk)
  tally_eq := fun k hk => h.tally_eq k (hle.trans hk)
  tracked := h.tracked

end Keeps

/-- A mark spreads from some supplies: nothing loses it, and apart from these supplies only what
hangs on newly marked parts gets it. -/
structure Spread (M : Ledger → Part → Prop) (xs : List Supply) (l l' : Ledger) : Prop where
  mono : ∀ a, M l a → M l' a
  only : ∀ y, M l' (.supply y) → M l (.supply y) ∨ y ∈ xs ∨
    ∃ b, l.wiring.Hangs y b ∧ ¬M l b ∧ M l' b

/-- If a part is marked, then so is all that hangs on it. -/
def Full (M : Ledger → Part → Prop) (l : Ledger) (b : Part) : Prop :=
  M l b → ∀ y, l.wiring.Hangs y b → M l (.supply y)

/-- What hangs on a part is marked only if this part is. -/
def Rooted (M : Ledger → Part → Prop) (l : Ledger) : Prop :=
  ∀ y b, l.wiring.Hangs y b → M l (.supply y) → M l b

variable {M : Ledger → Part → Prop} {xs ys : List Supply} {y : Supply} {b : Part}

namespace Spread

lemma refl : Spread M xs l l :=
  ⟨fun _ => id, fun _ => .inl⟩

lemma mono_list (h : Spread M xs l l') (hsub : xs ⊆ ys) : Spread M ys l l' where
  mono := h.mono
  only := fun z hz => (h.only z hz).imp_right fun hz => hz.imp_left fun hmem => hsub hmem

lemma trans (h : Spread M xs l l') (h' : Spread M ys l' l'') (hwiring : l'.wiring = l.wiring) :
    Spread M (xs ++ ys) l l'' where
  mono := fun a ha => h'.mono a (h.mono a ha)
  only := by
    intro z hz
    rcases h'.only z hz with hz | hmem | ⟨c, hhangs, hc, hc'⟩
    · rcases h.only z hz with hz | hmem | ⟨c, hhangs, hc, hc'⟩
      · exact .inl hz
      · exact .inr (.inl (List.mem_append_left _ hmem))
      · exact .inr (.inr ⟨c, hhangs, hc, h'.mono c hc'⟩)
    · exact .inr (.inl (List.mem_append_right _ hmem))
    · exact .inr (.inr ⟨c, hwiring ▸ hhangs, fun h₀ => hc (h.mono c h₀), hc'⟩)

/-- A mark that has spread to a part spreads on to what hangs on it. -/
lemma trans_hangs (h : Spread M xs l l') (h' : Spread M ys l' l'')
    (hwiring : l'.wiring = l.wiring) (hys : ∀ y ∈ ys, l.wiring.Hangs y b) (hb : ¬M l b)
    (hb' : M l' b) : Spread M xs l l'' where
  mono := (h.trans h' hwiring).mono
  only := by
    intro z hz
    rcases (h.trans h' hwiring).only z hz with hz | hmem | hnew
    · exact .inl hz
    · rcases List.mem_append.mp hmem with hmem | hmem
      · exact .inr (.inl hmem)
      · exact .inr (.inr ⟨b, hys z hmem, hb, h'.mono b hb'⟩)
    · exact .inr (.inr hnew)

lemma congr (h : Spread M xs l l') (hsame : ∀ a, M l'' a ↔ M l' a) : Spread M xs l l'' where
  mono := fun a ha => (hsame a).mpr (h.mono a ha)
  only := by
    intro z hz
    rcases h.only z ((hsame _).mp hz) with hz | hmem | ⟨c, hhangs, hc, hc'⟩
    · exact .inl hz
    · exact .inr (.inl hmem)
    · exact .inr (.inr ⟨c, hhangs, hc, (hsame c).mpr hc'⟩)

/-- What was not marked and hangs on something marked stays so, unless the mark spreads from it. -/
lemma not_marked (h : Spread M xs l l') (hsound : l.wiring.Sound) (hnotmem : y ∉ xs)
    (hy : l.wiring.Hangs y b) (hb : M l b) (hnot : ¬M l (.supply y)) : ¬M l' (.supply y) := by
  intro hmarked
  rcases h.only y hmarked with hold | hmem | ⟨c, hc, hnotc, -⟩
  · exact hnot hold
  · exact hnotmem hmem
  · exact hnotc (hsound.hangs_unique hy hc ▸ hb)

lemma rooted (h : Spread M xs l l') (hsound : l.wiring.Sound) (hwiring : l'.wiring = l.wiring)
    (hrooted : l.Rooted M) (hxs : ∀ x ∈ xs, ∀ b, l.wiring.Hangs x b → M l b) : l'.Rooted M := by
  intro y b hy hmarked
  rw [hwiring] at hy
  rcases h.only y hmarked with hold | hmem | ⟨c, hc, -, hmark⟩
  · exact h.mono b (hrooted y b hy hold)
  · exact h.mono b (hxs y hmem b hy)
  · rwa [hsound.hangs_unique hy hc]

end Spread

lemma Full.imp (h : l.Full M b) (hspread : Spread M xs l l') (hwiring : l'.wiring = l.wiring)
    (hb : M l' b → M l b) : l'.Full M b :=
  fun hmarked y hy => hspread.mono _ (h (hb hmarked) y (hwiring ▸ hy))

lemma full_endpoint {c : ConnectorId} {i : Nat} : l.Full M (.supply (.endpoint c i)) := by
  intro _ y hy
  cases hy

/-- One part changes its phase, and nothing else changes. -/
structure Moves (x : Supply) (phase : Phase) (l l' : Ledger) : Prop where
  wiring_eq : l'.wiring = l.wiring
  phase?_self : l'.phase? x = some phase
  phase?_ne : ∀ y, y ≠ x → l'.phase? y = l.phase? y

namespace Moves

variable {x : Supply} {phase : Phase}

lemma done_iff (h : Moves x phase l l') (hphase : phase ≠ .closed)
    (hx : l.phase? x ≠ some .closed) (a : Part) : l'.Done a ↔ l.Done a := by
  have hsame (y : Supply) : l'.phase? y = some .closed ↔ l.phase? y = some .closed := by
    by_cases hy : y = x
    · subst hy
      simp [h.phase?_self, hphase, hx]
    · rw [h.phase?_ne y hy]
  match a with
  | .supply y => exact hsame y
  | .joint c => simp only [done_joint_iff, h.wiring_eq, hsame]

/-- Closing spreads from the part that is closed. -/
lemma spread_done (h : Moves x .closed l l') : Spread Done [x] l l' where
  mono := by
    have hmono (y : Supply) (hy : l.phase? y = some .closed) : l'.phase? y = some .closed := by
      by_cases heq : y = x
      · rw [heq, h.phase?_self]
      · rwa [h.phase?_ne y heq]
    intro a ha
    match a with
    | .supply y => exact hmono y ha
    | .joint c =>
      rw [done_joint_iff, h.wiring_eq]
      obtain ⟨q, n, hjoint, hall⟩ := done_joint_iff.mp ha
      exact ⟨q, n, hjoint, fun i hi => hmono _ (hall i hi)⟩
  only := by
    intro y hy
    by_cases heq : y = x
    · exact .inr (.inl (List.mem_singleton.mpr heq))
    · exact .inl ((h.phase?_ne y heq).symm.trans hy)

/-- Opening spreads from the part that is opened. -/
lemma spread_reached (h : Moves x phase l l') (hphase : phase ≠ .unopened)
    (hjoint : ∀ c, l.Reached (.joint c) → l'.Reached (.joint c)) : Spread Reached [x] l l' where
  mono := by
    intro a ha
    match a with
    | .joint c => exact hjoint c ha
    | .supply y =>
      by_cases heq : y = x
      · exact ⟨phase, heq ▸ h.phase?_self, hphase⟩
      · obtain ⟨old, hold, hne⟩ := ha
        exact ⟨old, (h.phase?_ne y heq).trans hold, hne⟩
  only := by
    intro y hy
    by_cases heq : y = x
    · exact .inr (.inl (List.mem_singleton.mpr heq))
    · obtain ⟨old, hold, hne⟩ := hy
      exact .inl ⟨old, (h.phase?_ne y heq).symm.trans hold, hne⟩

end Moves

end Ledger

namespace Tree

variable {σ ω : Type} {t : Tree σ ω} {k : Nat}

lemma has_node_iff : t.ledger.wiring.Has (.node k) ↔ k < t.nodes.length := by
  simp [Wiring.Has, Ledger.wiring, ledger]

lemma exists_node_of_has (h : t.ledger.wiring.Has (.node k)) : ∃ node, t.nodes[k]? = some node :=
  ⟨_, List.getElem?_eq_getElem (has_node_iff.mp h)⟩

lemma joint_eq_some_iff {c : ConnectorId} {q n : Nat} :
    t.ledger.wiring.joints[c]? = some (q, n) ↔ ∃ junction, t.junctions[c]? = some junction ∧
      junction.producer = q ∧ junction.connector.endpoints.length = n := by
  simp [Ledger.wiring, ledger, Junction.entry, Connector.phases]

lemma joint_of_junction {c : ConnectorId} {junction : Junction}
    (h : t.junctions[c]? = some junction) : t.ledger.wiring.joints[c]? =
      some (junction.producer, junction.connector.endpoints.length) :=
  joint_eq_some_iff.mpr ⟨junction, h, rfl, rfl⟩

lemma phase?_endpoint_eq_some_iff {c : ConnectorId} {i : Nat} {phase : Phase} :
    t.ledger.phase? (.endpoint c i) = some phase ↔
      ∃ junction, t.junctions[c]? = some junction ∧
        junction.connector.phases[i]? = some phase := by
  simp [Ledger.phase?, ledger, Junction.entry, Option.bind_eq_some_iff]

lemma phase?_endpoint {c : ConnectorId} {junction : Junction}
    (h : t.junctions[c]? = some junction) (i : Nat) :
    t.ledger.phase? (.endpoint c i) = junction.connector.phases[i]? := by
  rw [Ledger.phase?, ledger, List.getElem?_map, h, Option.map_some, Option.bind_some]
  rfl

section Node

variable {node : Node σ ω} (h : t.nodes[k]? = some node)

include h

lemma ledger_getElem? : t.ledger.nodes[k]? = some node.entry := by
  rw [ledger, List.getElem?_map, h, Option.map_some]

lemma phase?_node : t.ledger.phase? (.node k) = some node.phase := by
  rw [Ledger.phase?, ledger_getElem? h, Option.map_some]
  rfl

lemma suppliesOf_node : t.ledger.wiring.suppliesOf k = node.crew.supplies :=
  Ledger.suppliesOf_eq (ledger_getElem? h)

variable {team : Team ω} (hcrew : node.crew = .team team)

include hcrew

lemma suppliesOf_team : t.ledger.wiring.suppliesOf k = team.slots.map Slot.supply := by
  rw [suppliesOf_node h, hcrew]
  rfl

lemma mem_suppliesOf_of_mem_slots {slot : Slot} (hslot : slot ∈ team.slots) :
    slot.supply ∈ t.ledger.wiring.suppliesOf k := by
  rw [suppliesOf_team h hcrew]
  exact List.mem_map_of_mem hslot

end Node

lemma exists_node_of_mem_suppliesOf {x : Supply} (h : x ∈ t.ledger.wiring.suppliesOf k) :
    ∃ node, t.nodes[k]? = some node ∧ x ∈ node.crew.supplies := by
  match hk : t.nodes[k]? with
  | none => simp [Wiring.suppliesOf, Ledger.wiring, ledger, hk] at h
  | some node => exact ⟨node, rfl, suppliesOf_node hk ▸ h⟩

end Tree

end Dataflow
