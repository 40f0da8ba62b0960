import Dataflow.Proofs.Connector
import Dataflow.Proofs.Tree.Change

/-!
# Failures and the calls behind them

An operation is explained by the calls that executors got during it if it fails exactly along with
the first of them that failed. Operations that go down a tree one part after another are explained
part by part, as long as each part is next in turn.
-/

namespace Dataflow

/-- The error of the first call of a list that failed. -/
def firstFailure (calls : List Call) : Option Error :=
  calls.findSome? Call.failure

namespace Ledger

variable {M : Ledger → Part → Prop} {x y : Supply} {l l' : Ledger}

/-- A supply is next to get a mark: it does not have it yet, and its consumer has it. -/
structure Ready (M : Ledger → Part → Prop) (x : Supply) (l : Ledger) : Prop where
  sound : l.wiring.Sound
  has : l.wiring.Has x
  rooted : l.Rooted M
  not_marked : ¬M l (.supply x)
  consumer : ∀ b, l.wiring.Hangs x b → M l b

lemma Ready.under (h : Ready M x l) (hspread : Spread M [x] l l')
    (hwiring : l'.wiring = l.wiring) (hhas : l.wiring.Has y) (hy : ¬M l' (.supply y))
    (hconsumer : ∀ b, l.wiring.Hangs y b → M l' b) : Ready M y l' where
  sound := hwiring ▸ h.sound
  has := hwiring ▸ hhas
  rooted := hspread.rooted h.sound hwiring h.rooted fun _ hz =>
    List.mem_singleton.mp hz ▸ h.consumer
  not_marked := hy
  consumer := fun b hb => hconsumer b (hwiring ▸ hb)

lemma Ready.later (h : Ready M y l) (hx : Ready M x l) (hne : y ≠ x)
    (hspread : Spread M [x] l l') (hwiring : l'.wiring = l.wiring) : Ready M y l' := by
  refine hx.under hspread hwiring h.has (fun hmarked => ?_) fun b hb =>
    hspread.mono b (h.consumer b hb)
  rcases hspread.only y hmarked with hold | hmem | ⟨b, hb, hnot, -⟩
  · exact h.not_marked hold
  · exact hne (List.mem_singleton.mp hmem)
  · exact hnot (h.consumer b hb)

lemma Ready.slot {place : Nat} (h : Ready M (.node place) l) (hspread : Spread M [.node place] l l')
    (hwiring : l'.wiring = l.wiring) (hself : M l' (.supply (.node place)))
    (hold : ∀ y ≠ .node place, M l' (.supply y) → M l (.supply y))
    (hx : x ∈ l.wiring.suppliesOf place) : Ready M x l' := by
  have hhangs : l.wiring.Hangs x (.supply (.node place)) := .slot hx
  refine h.under hspread hwiring (h.sound.has_of_hangs hhangs) (fun hmarked => ?_) fun b hb => ?_
  · refine h.not_marked (h.rooted _ _ hhangs (hold x (fun heq => ?_) hmarked))
    have hlt := h.sound.below place x hx
    rw [heq] at hlt
    exact lt_irrefl place hlt
  · rwa [h.sound.hangs_unique hb hhangs]

lemma Ready.producer {c : ConnectorId} {i q n : Nat} (h : Ready M (.endpoint c i) l)
    (hspread : Spread M [.endpoint c i] l l') (hwiring : l'.wiring = l.wiring)
    (hjoint : l.wiring.joints[c]? = some (q, n)) (hnot : ¬M l (.joint c)) (hself : M l' (.joint c))
    (hold : M l' (.supply (.node q)) → M l (.supply (.node q))) : Ready M (.node q) l' := by
  have hhangs : l.wiring.Hangs (.node q) (.joint c) := .producer hjoint
  refine h.under hspread hwiring (h.sound.has_of_hangs hhangs) (fun hmarked => ?_) fun b hb => ?_
  · exact hnot (h.rooted _ _ hhangs (hold hmarked))
  · rwa [h.sound.hangs_unique hb hhangs]

lemma not_done_of_not_reached (hsound : l.wiring.Sound) (h : ∀ a, ¬l.Reached a) (a : Part) :
    ¬l.Done a := by
  have hsupply (x : Supply) : ¬l.Done (.supply x) :=
    fun hdone => h (.supply x) ⟨.closed, hdone, Phase.noConfusion⟩
  match a with
  | .supply x => exact hsupply x
  | .joint c =>
    rw [done_joint_iff]
    rintro ⟨q, n, hc, hall⟩
    exact hsupply _ (hall 0 (hsound.pos c q n hc))

lemma ready_root (hsound : l.wiring.Sound) (hM : ∀ a, ¬M l a) : Ready M (.node l.root) l where
  sound := hsound
  has := hsound.root_lt
  rooted := fun y _ _ hy => (hM (.supply y) hy).elim
  not_marked := hM _
  consumer := fun _ hb => (hsound.not_hangs_root hb).elim

end Ledger

namespace Tree

open Act Ledger

variable {σ ω : Type}

/-- No endpoint of a tree is behind its connector. -/
def Sane (t : Tree σ ω) : Prop :=
  ∀ junction ∈ t.junctions, junction.connector.Sane

/-- The calls from one tree to another explain a failure: it is that of the first executor that
failed. No endpoint falls behind. -/
structure Explained (P : Call → Prop) (t : Tree σ ω) (failure : Option Error) (t' : Tree σ ω) :
    Prop where
  newCalls : ∃ new, t'.calls = t.calls ++ new ∧ (∀ c ∈ new, P c) ∧ firstFailure new = failure
  sane : t.Sane → t'.Sane

namespace Explained

variable {t t' t'' : Tree σ ω} {P : Call → Prop} {failure failure' : Option Error}

lemma refl : Explained P t none t where
  newCalls := ⟨[], (List.append_nil _).symm, fun _ => List.not_mem_nil.elim, rfl⟩
  sane := id

lemma or (h : Explained P t failure t') (h' : Explained P t' failure' t'') :
    Explained P t (failure.or failure') t'' where
  newCalls := by
    obtain ⟨new, hnew, hP, hfailure⟩ := h.newCalls
    obtain ⟨new', hnew', hP', hfailure'⟩ := h'.newCalls
    refine ⟨new ++ new', by rw [hnew', hnew, List.append_assoc], fun c hc => ?_, ?_⟩
    · exact (List.mem_append.mp hc).elim (hP c) (hP' c)
    · rw [firstFailure, List.findSome?_append, ← firstFailure, ← firstFailure, hfailure, hfailure']
  sane := fun hsane => h'.sane (h.sane hsane)

lemma trans (h : Explained P t none t') (h' : Explained P t' failure t'') :
    Explained P t failure t'' :=
  h.or h'

lemma imp {Q : Call → Prop} (h : Explained P t failure t') (hcalls : ∀ c, P c → Q c) :
    Explained Q t failure t' where
  newCalls := by
    obtain ⟨new, hnew, hP, hfailure⟩ := h.newCalls
    exact ⟨new, hnew, fun c hc => hcalls c (hP c hc), hfailure⟩
  sane := h.sane

lemma of_eq (hcalls : t'.newestCalls = t.newestCalls) (hjunctions : t'.junctions = t.junctions) :
    Explained P t none t' where
  newCalls := ⟨[], by rw [calls, calls, hcalls, List.append_nil],
    fun _ => List.not_mem_nil.elim, rfl⟩
  sane := fun hsane junction hmem => hsane junction (hjunctions ▸ hmem)

lemma of_call {c : Call} (hcalls : t'.newestCalls = c :: t.newestCalls) (hc : P c)
    (hjunctions : t'.junctions = t.junctions) : Explained P t c.failure t' where
  newCalls := by
    refine ⟨[c], by rw [calls, calls, hcalls, List.reverse_cons], ?_, ?_⟩
    · rintro c' hc'
      rwa [List.mem_singleton.mp hc']
    · match hfailure : c.failure with
      | none => simp [firstFailure, hfailure]
      | some e => simp [firstFailure, hfailure]
  sane := fun hsane junction hmem => hsane junction (hjunctions ▸ hmem)

end Explained

/-- A connector is put in the place of another, with no endpoint behind. -/
lemma Explained.of_write {t : Tree σ ω} {P : Call → Prop} {c : ConnectorId} {con : Connector}
    (h : ((seat c).read t).Sane → con.Sane) : Explained P t none ((seat c).write con t) where
  newCalls := ⟨[], (List.append_nil _).symm, fun _ => List.not_mem_nil.elim, rfl⟩
  sane := by
    intro hsane junction hmem
    obtain ⟨d, hd⟩ := List.mem_iff_getElem?.mp hmem
    simp only [seat, List.getElem?_modify] at hd
    cases hold : t.junctions[d]? with
    | none => rw [hold] at hd; cases hd
    | some old =>
      rw [hold] at hd
      by_cases hcd : c = d
      · subst hcd
        simp only [if_true, Option.map_eq_map, Option.map_some, Option.some.injEq] at hd
        subst hd
        refine h ?_
        simpa [seat, hold] using hsane old (List.mem_of_getElem? hold)
      · simp only [hcd, if_false, Option.map_eq_map, Option.map_some, Option.some.injEq] at hd
        subst hd
        exact hsane old (List.mem_of_getElem? hold)

end Tree

end Dataflow
