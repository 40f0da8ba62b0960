import Mathlib.Tactic
import Mathlib.Data.List.Nodup
import Dataflow.Tree.Basic

/-!
# Wiring

The wiring of a tree is what never changes once it is built: which supplies feed which node and
which node feeds which connector. In a sound wiring everything but the sink feeds exactly one
consumer, and whatever feeds a node lies below it.
-/

namespace Dataflow

/-- A part of a tree that can be opened and closed: a node, an endpoint or a connector. -/
inductive Part where
  | supply (x : Supply)
  | joint (c : ConnectorId)
  deriving DecidableEq

/-- How the parts of a tree are connected. -/
structure Wiring where
  supplies : List (List Supply)
  /-- The producer and the number of endpoints of each connector. -/
  joints : List (Nat × Nat)
  root : Nat

namespace Wiring

/-- What feeds a node. -/
def suppliesOf (w : Wiring) (k : Nat) : List Supply :=
  w.supplies[k]?.getD []

/-- The nodes and endpoints that there are. -/
def Has (w : Wiring) : Supply → Prop
  | .node k => k < w.supplies.length
  | .endpoint c i => ∃ q n, w.joints[c]? = some (q, n) ∧ i < n

/-- A supply hangs on the node that it feeds, and a producer on the connector that it feeds. -/
inductive Hangs (w : Wiring) : Supply → Part → Prop
  | slot {x : Supply} {k : Nat} (hmem : x ∈ w.suppliesOf k) : Hangs w x (.supply (.node k))
  | producer {c : ConnectorId} {q n : Nat} (hjoint : w.joints[c]? = some (q, n)) :
    Hangs w (.node q) (.joint c)

/-- The node where the tuples of a supply come from is below a node. -/
def Below (w : Wiring) (k : Nat) : Supply → Prop
  | .node q => q < k
  | .endpoint c i => ∃ q n, w.joints[c]? = some (q, n) ∧ i < n ∧ q < k

/-- The node that feeds a connector. -/
def producerOf (w : Wiring) (c : ConnectorId) : Nat :=
  (w.joints[c]?.map Prod.fst).getD 0

/-- The node whose tuples a supply gives. -/
def placeOf (w : Wiring) : Supply → Nat
  | .node k => k
  | .endpoint c _ => w.producerOf c

/-- A node gives its tuples to another one, directly or through a connector. -/
def Feeds (w : Wiring) (q k : Nat) : Prop :=
  ∃ x ∈ w.suppliesOf k, w.placeOf x = q

/-- A node is another one, or gives its tuples to it through any number of nodes between them. -/
def Upstream (w : Wiring) : Nat → Nat → Prop :=
  Relation.ReflTransGen w.Feeds

/-- All supplies in use: those of the nodes and the producers of the connectors. -/
def feeders (w : Wiring) : List Supply :=
  w.supplies.flatten ++ w.joints.map fun joint => .node joint.1

/-- Everything but the sink feeds exactly one consumer, from below. -/
structure Sound (w : Wiring) : Prop where
  root_lt : w.root < w.supplies.length
  nodup : w.feeders.Nodup
  mem_feeders : ∀ x, x ∈ w.feeders ↔ w.Has x ∧ x ≠ .node w.root
  below : ∀ k x, x ∈ w.suppliesOf k → w.Below k x
  pos : ∀ (c : ConnectorId) (q n : Nat), w.joints[c]? = some (q, n) → 0 < n

variable {w : Wiring}

lemma producerOf_eq {c : ConnectorId} {q n : Nat} (h : w.joints[c]? = some (q, n)) :
    w.producerOf c = q := by
  rw [producerOf, h, Option.map_some, Option.getD_some]

lemma has_endpoint_iff {c : ConnectorId} {i q n : Nat} (hjoint : w.joints[c]? = some (q, n)) :
    w.Has (.endpoint c i) ↔ i < n := by
  constructor
  · rintro ⟨q', n', hjoint', hi⟩
    rw [hjoint] at hjoint'
    cases hjoint'
    exact hi
  · exact fun hi => ⟨q, n, hjoint, hi⟩

lemma hangs_node_iff {x : Supply} {k : Nat} :
    w.Hangs x (.supply (.node k)) ↔ x ∈ w.suppliesOf k := by
  constructor
  · rintro (hmem | _)
    exact hmem
  · exact .slot

lemma hangs_joint_iff {x : Supply} {c : ConnectorId} {q n : Nat}
    (hjoint : w.joints[c]? = some (q, n)) : w.Hangs x (.joint c) ↔ x = .node q := by
  constructor
  · rintro (_ | hjoint')
    rw [hjoint] at hjoint'
    cases hjoint'
    rfl
  · rintro rfl
    exact .producer hjoint

lemma lt_of_mem_suppliesOf {x : Supply} {k : Nat} (hmem : x ∈ w.suppliesOf k) :
    k < w.supplies.length := by
  by_contra hnot
  rw [suppliesOf, List.getElem?_eq_none (Nat.not_lt.mp hnot)] at hmem
  exact List.not_mem_nil hmem

lemma mem_flatten_iff {x : Supply} : x ∈ w.supplies.flatten ↔ ∃ k, x ∈ w.suppliesOf k := by
  rw [List.mem_flatten]
  constructor
  · rintro ⟨xs, hxs, hx⟩
    obtain ⟨k, hk⟩ := List.mem_iff_getElem?.mp hxs
    exact ⟨k, by rwa [suppliesOf, hk]⟩
  · rintro ⟨k, hx⟩
    rw [suppliesOf] at hx
    match hk : w.supplies[k]? with
    | none => rw [hk] at hx; simp at hx
    | some xs => rw [hk] at hx; exact ⟨xs, List.mem_of_getElem? hk, hx⟩

lemma mem_producers_iff {x : Supply} :
    x ∈ w.joints.map (fun joint => Supply.node joint.1) ↔
      ∃ (c : ConnectorId) (q n : Nat), w.joints[c]? = some (q, n) ∧ x = .node q := by
  rw [List.mem_map]
  constructor
  · rintro ⟨⟨q, n⟩, hmem, rfl⟩
    obtain ⟨c, hc⟩ := List.mem_iff_getElem?.mp hmem
    exact ⟨c, q, n, hc, rfl⟩
  · rintro ⟨c, q, n, hc, rfl⟩
    exact ⟨(q, n), List.mem_of_getElem? hc, rfl⟩

lemma mem_feeders_iff {x : Supply} : x ∈ w.feeders ↔ ∃ b, w.Hangs x b := by
  rw [feeders, List.mem_append, mem_flatten_iff, mem_producers_iff]
  constructor
  · rintro (⟨k, hmem⟩ | ⟨c, q, n, hjoint, rfl⟩)
    · exact ⟨_, .slot hmem⟩
    · exact ⟨_, .producer hjoint⟩
  · rintro ⟨b, hmem | hjoint⟩
    · exact .inl ⟨_, hmem⟩
    · exact .inr ⟨_, _, _, hjoint, rfl⟩

namespace Sound

lemma hangs_of_has (h : w.Sound) {x : Supply} (hhas : w.Has x) (hroot : x ≠ .node w.root) :
    ∃ b, w.Hangs x b :=
  mem_feeders_iff.mp ((h.mem_feeders x).mpr ⟨hhas, hroot⟩)

lemma has_of_hangs (h : w.Sound) {x : Supply} {b : Part} (hhangs : w.Hangs x b) : w.Has x :=
  ((h.mem_feeders x).mp (mem_feeders_iff.mpr ⟨b, hhangs⟩)).1

lemma not_hangs_root (h : w.Sound) {b : Part} : ¬w.Hangs (.node w.root) b :=
  fun hhangs => ((h.mem_feeders _).mp (mem_feeders_iff.mpr ⟨b, hhangs⟩)).2 rfl

lemma nodup_suppliesOf (h : w.Sound) (k : Nat) : (w.suppliesOf k).Nodup := by
  have hnodup := (List.nodup_flatten.mp (List.nodup_append.mp h.nodup).1).1
  rw [suppliesOf]
  match hk : w.supplies[k]? with
  | none => exact List.nodup_nil
  | some xs => exact hnodup xs (List.mem_of_getElem? hk)

lemma eq_of_mem_suppliesOf (h : w.Sound) {x : Supply} {k k' : Nat} (hk : x ∈ w.suppliesOf k)
    (hk' : x ∈ w.suppliesOf k') : k = k' := by
  have hdisjoint := (List.nodup_flatten.mp (List.nodup_append.mp h.nodup).1).2
  have hget {j : Nat} (hj : x ∈ w.suppliesOf j) :
      ∃ hlt : j < w.supplies.length, x ∈ w.supplies[j] := by
    rw [suppliesOf] at hj
    by_cases hlt : j < w.supplies.length
    · exact ⟨hlt, by simpa [List.getElem?_eq_getElem hlt] using hj⟩
    · simp [List.getElem?_eq_none (Nat.not_lt.mp hlt)] at hj
  obtain ⟨hlt, hmem⟩ := hget hk
  obtain ⟨hlt', hmem'⟩ := hget hk'
  by_contra hne
  rcases Nat.lt_or_gt_of_ne hne with hk | hk
  · exact List.pairwise_iff_getElem.mp hdisjoint _ _ hlt hlt' hk hmem hmem'
  · exact List.pairwise_iff_getElem.mp hdisjoint _ _ hlt' hlt hk hmem' hmem

lemma eq_of_joints (h : w.Sound) {c c' q n n' : Nat} (hc : w.joints[c]? = some (q, n))
    (hc' : w.joints[c']? = some (q, n')) : c = c' := by
  have hnodup := (List.nodup_append.mp h.nodup).2.1
  have hget {d m : Nat} (hd : w.joints[d]? = some (q, m)) :
      (w.joints.map fun joint => Supply.node joint.1)[d]? = some (.node q) := by
    rw [List.getElem?_map, hd, Option.map_some]
  have hlt : c < (w.joints.map fun joint => Supply.node joint.1).length := by
    rw [List.length_map]
    exact (List.getElem?_eq_some_iff.mp hc).1
  exact (List.getElem?_inj hlt hnodup).mp ((hget hc).trans (hget hc').symm)

lemma placeOf_lt (h : w.Sound) {x : Supply} {k : Nat} (hx : x ∈ w.suppliesOf k) :
    w.placeOf x < k := by
  have hbelow := h.below k x hx
  match x with
  | .node q => exact hbelow
  | .endpoint c i =>
    obtain ⟨q, n, hjoint, -, hlt⟩ := hbelow
    rwa [placeOf, producerOf_eq hjoint]

lemma hangs_unique (h : w.Sound) {x : Supply} {b b' : Part} (hb : w.Hangs x b)
    (hb' : w.Hangs x b') : b = b' := by
  have hdisjoint := (List.nodup_append.mp h.nodup).2.2
  have hcross {k q c n : Nat} (hmem : .node q ∈ w.suppliesOf k)
      (hjoint : w.joints[c]? = some (q, n)) : False :=
    hdisjoint _ (mem_flatten_iff.mpr ⟨k, hmem⟩) _
      (mem_producers_iff.mpr ⟨c, q, n, hjoint, rfl⟩) rfl
  cases hb with
  | slot hmem =>
    cases hb' with
    | slot hmem' => rw [h.eq_of_mem_suppliesOf hmem hmem']
    | producer hjoint => exact (hcross hmem hjoint).elim
  | producer hjoint =>
    cases hb' with
    | slot hmem => exact (hcross hmem hjoint).elim
    | producer hjoint' => rw [h.eq_of_joints hjoint hjoint']

lemma exists_consumer (h : w.Sound) {c : ConnectorId} {q n i : Nat}
    (hjoint : w.joints[c]? = some (q, n)) (hi : i < n) :
    ∃ k, .endpoint c i ∈ w.suppliesOf k ∧ q < k := by
  obtain ⟨b, hb⟩ := h.hangs_of_has (x := .endpoint c i) ⟨q, n, hjoint, hi⟩ Supply.noConfusion
  cases hb with
  | slot hmem =>
    obtain ⟨q', n', hjoint', -, hlt⟩ := h.below _ _ hmem
    rw [hjoint] at hjoint'
    cases hjoint'
    exact ⟨_, hmem, hlt⟩

section Induct

variable {P : Part → Prop} (hroot : P (.supply (.node w.root)))
  (hhangs : ∀ x b, w.Hangs x b → P b → P (.supply x))
  (hjoint : ∀ (c : ConnectorId) (q n : Nat), w.joints[c]? = some (q, n) →
    (∀ i < n, P (.supply (.endpoint c i))) → P (.joint c))

include hroot hhangs hjoint

/-- The induction goes down from the sink, since consumers lie above what feeds them. -/
lemma induct_node (h : w.Sound) {k : Nat} (hlt : k < w.supplies.length) :
    P (.supply (.node k)) := by
  induction hdepth : w.supplies.length - k using Nat.strong_induction_on generalizing k with
  | _ depth ih =>
    have hconsumer {x : Supply} {j : Nat} (hmem : x ∈ w.suppliesOf j) (hkj : k < j) :
        P (.supply x) := by
      have hj := lt_of_mem_suppliesOf hmem
      exact hhangs x _ (.slot hmem) (ih _ (by omega) hj rfl)
    by_cases hk : Supply.node k = .node w.root
    · rwa [hk]
    · obtain ⟨b, hb⟩ := h.hangs_of_has (x := .node k) hlt hk
      cases hb with
      | slot hmem => exact hconsumer hmem (h.below _ _ hmem)
      | producer hc =>
        refine hhangs _ _ (.producer hc) (hjoint _ _ _ hc fun i hi => ?_)
        obtain ⟨j, hmem, hkj⟩ := h.exists_consumer hc hi
        exact hconsumer hmem hkj

/-- What holds of the sink, passes from a consumer to what hangs on it and from the endpoints of
a connector to the connector, holds of everything. -/
theorem induct (h : w.Sound) {x : Supply} (hhas : w.Has x) : P (.supply x) := by
  have hnode {k : Nat} (hlt : k < w.supplies.length) : P (.supply (.node k)) :=
    induct_node hroot hhangs hjoint h hlt
  match x with
  | .node k => exact hnode hhas
  | .endpoint c i =>
    obtain ⟨q, n, hc, hi⟩ := hhas
    obtain ⟨k, hmem, -⟩ := h.exists_consumer hc hi
    exact hhangs _ _ (.slot hmem) (hnode (lt_of_mem_suppliesOf hmem))

end Induct

end Sound

end Wiring

namespace Team

variable {ω : Type}

lemma pick?_eq_some {team : Team ω} {i : Nat} {slot : Slot} (h : team.pick? = some (i, slot)) :
    team.slots[i]? = some slot ∧ slot.exhausted = false := by
  have hmem : (i, slot) ∈ team.slots.zipIdx.map fun entry => (entry.2, entry.1) := by
    rcases List.mem_append.mp (List.mem_of_find?_eq_some h) with hdrop | htake
    · exact List.mem_of_mem_drop hdrop
    · exact List.mem_of_mem_take htake
  obtain ⟨⟨slot', i'⟩, hzip, heq⟩ := List.mem_map.mp hmem
  cases heq
  exact ⟨List.mem_zipIdx_iff_getElem?.mp hzip, by simpa using List.find?_some h⟩

lemma pick?_eq_none_iff {team : Team ω} :
    team.pick? = none ↔ ∀ slot ∈ team.slots, slot.exhausted = true := by
  rw [pick?, List.find?_eq_none]
  have hmem (entry : Nat × Slot) :
      entry ∈ (team.slots.zipIdx.map fun entry => (entry.2, entry.1)).drop team.nextSlot ++
        (team.slots.zipIdx.map fun entry => (entry.2, entry.1)).take team.nextSlot ↔
      entry ∈ team.slots.zipIdx.map fun entry => (entry.2, entry.1) := by
    rw [List.mem_append, or_comm, ← List.mem_append, List.take_append_drop]
  constructor
  · intro h slot hslot
    obtain ⟨i, hi⟩ := List.getElem?_of_mem hslot
    simpa using h (i, slot) ((hmem _).mpr (List.mem_map.mpr
      ⟨(slot, i), List.mem_zipIdx_iff_getElem?.mpr hi, rfl⟩))
  · intro h entry hentry
    obtain ⟨⟨slot, i⟩, hzip, rfl⟩ := List.mem_map.mp ((hmem entry).mp hentry)
    simpa using h slot (List.mem_of_getElem? (List.mem_zipIdx_iff_getElem?.mp hzip))

lemma pick?_singleton {team : Team ω} {slot : Slot} (h : team.slots = [slot])
    (hleft : slot.exhausted = false) : team.pick? = some (0, slot) := by
  match hpick : team.pick? with
  | none =>
    rw [pick?_eq_none_iff.mp hpick slot (h ▸ List.mem_singleton_self slot)] at hleft
    cases hleft
  | some (i, slot') =>
    obtain ⟨hi, -⟩ := pick?_eq_some hpick
    rw [h] at hi
    match i with
    | 0 =>
      cases hi
      rfl

end Team

end Dataflow
