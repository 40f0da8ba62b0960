import Dataflow.Proofs.Lists
import Dataflow.Proofs.Tree.Build
import Dataflow.Proofs.Tree.Ledger

/-!
# Everything built is consumed once

While a tree is built, every node and every endpoint that was handed out is either fed to one
consumer or still loose. In the end the root alone is loose, so the wiring of the tree is sound.
-/

namespace Dataflow

variable {σ ω : Type}

/-! ### What was not used yet -/

/-- A crew that did not work yet. -/
def Crew.Fresh : Crew σ ω → Prop
  | .source _ started => started = false
  | .team t => t.started = 0 ∧ t.nextSlot = 0 ∧ t.nextWorker = 0 ∧ t.pending = [] ∧
    t.workers ≠ [] ∧ ∀ slot ∈ t.slots, slot.exhausted = false

/-- A node that was not opened yet. -/
structure Node.Fresh (node : Node σ ω) : Prop where
  phase_eq : node.phase = .unopened
  crew : node.crew.Fresh

/-- A connector that was not opened yet. -/
structure Connector.Fresh (con : Connector) : Prop where
  buffer_eq : con.buffer = []
  base_eq : con.base = 0
  started_eq : con.started = false
  ended_eq : con.ended = false
  pos : 0 < con.endpoints.length
  endpoints : ∀ e ∈ con.endpoints, e.position = 0 ∧ e.phase = .unopened

lemma Connector.fresh_create {c : ConnectorId} {producer : OperatorId} {schema : Schema} {n : Nat}
    {con : Connector} (h : Connector.create c producer schema n = .ok con) : con.Fresh := by
  rw [Connector.create] at h
  split at h
  · cases h
  · next hn =>
    cases h
    refine ⟨rfl, rfl, rfl, rfl, by simpa using Nat.pos_of_ne_zero hn, fun e he => ?_⟩
    rw [List.eq_of_mem_replicate he]
    exact ⟨rfl, rfl⟩

lemma Connector.not_taken_create {c : ConnectorId} {producer : OperatorId} {schema : Schema}
    {n : Nat} {con : Connector} (h : Connector.create c producer schema n = .ok con) :
    ∀ e ∈ con.endpoints, e.taken = false := by
  rw [Connector.create] at h
  split at h
  · cases h
  · cases h
    intro e he
    rw [List.eq_of_mem_replicate he]

/-- An endpoint that was handed out. -/
def Connector.HandedOut (con : Connector) (i : Nat) : Prop :=
  ∃ e, con.endpoints[i]? = some e ∧ e.taken

/-- A connector after one more endpoint was handed out. -/
structure Connector.Takes (i : Nat) (con con' : Connector) : Prop where
  fresh : con.Fresh → con'.Fresh
  length_eq : con'.endpoints.length = con.endpoints.length
  countP_eq : con'.endpoints.countP Endpoint.taken = con.endpoints.countP Endpoint.taken + 1
  handedOut_iff : ∀ j, con'.HandedOut j ↔ j = i ∨ con.HandedOut j
  not_handedOut : ¬con.HandedOut i

lemma Connector.takes_of_take {con con' : Connector} {i : Nat} (h : con.take i = .ok con') :
    con.Takes i con' := by
  rw [Connector.take] at h
  match he : con.endpoints[i]? with
  | none => rw [he] at h; cases h
  | some e =>
    cases htaken : e.taken with
    | true => simp [he, htaken] at h
    | false =>
      have hset : con.endpoints.modify i (fun e => { e with taken := true }) =
          con.endpoints.set i { e with taken := true } := by
        rw [List.modify_eq_set_getElem?, he]
        rfl
      simp only [he, htaken, Connector.change, hset] at h
      cases h
      obtain ⟨hlt, hget⟩ := List.getElem?_eq_some_iff.mp he
      refine ⟨fun hfresh => ?_, List.length_set, ?_, fun j => ?_, ?_⟩
      · refine { hfresh with pos := ?_, endpoints := fun e' he' => ?_ }
        · exact List.length_set.symm ▸ hfresh.pos
        · rcases List.mem_or_eq_of_mem_set he' with hold | rfl
          · exact hfresh.endpoints e' hold
          · exact hfresh.endpoints e (List.mem_of_getElem? he)
      · simp [List.countP_set hlt, hget, htaken]
      · simp only [HandedOut, List.getElem?_set]
        by_cases hij : i = j
        · subst hij
          simp [hlt]
        · simp [hij, Ne.symm hij]
      · rintro ⟨e', he', htaken'⟩
        rw [he, Option.some.injEq] at he'
        rw [← he', htaken] at htaken'
        cases htaken'

namespace Scaffold

open Act

variable {registry : Registry σ ω} {context : Context} {plan : PhysicalPlan}
  {s s' : Scaffold σ ω} {loose : List Supply}

lemma createCrew_nil {operator : Operator} {workers : Nat} {inputs : List Schema} {output : Schema}
    {crew : Crew σ ω}
    (h : createCrew registry context operator workers [] inputs output = .ok crew) :
    ∃ s, crew = .source s false := by
  rw [createCrew] at h
  match hmake : registry.require operator.kind.tag with
  | .error e => rw [hmake] at h; cases h
  | .ok make =>
    simp only [hmake, Result.ok_bind, List.isEmpty_nil, if_true] at h
    match hmade : make ⟨operator, inputs, [].map Slot.link, output, 0, context⟩ with
    | .error e => rw [hmade] at h; cases h
    | .ok (.worker w) => rw [hmade] at h; cases h
    | .ok (.source s) =>
      rw [hmade] at h
      cases h
      exact ⟨s, rfl⟩

/-- A new crew is fed by the slots it was made with, and did not work yet. -/
lemma createCrew_eq_ok {operator : Operator} {workers : Nat} {slots : List Slot}
    {inputs : List Schema} {output : Schema} {crew : Crew σ ω}
    (hslots : ∀ slot ∈ slots, slot.exhausted = false)
    (h : createCrew registry context operator workers slots inputs output = .ok crew) :
    crew.supplies = slots.map Slot.supply ∧ crew.Fresh := by
  by_cases hempty : slots = []
  · subst hempty
    obtain ⟨s, rfl⟩ := createCrew_nil h
    exact ⟨rfl, rfl⟩
  rw [createCrew] at h
  match hmake : registry.require operator.kind.tag with
  | .error e => rw [hmake] at h; cases h
  | .ok make =>
    simp only [hmake, Result.ok_bind, List.isEmpty_iff, if_neg hempty] at h
    generalize hteam : (List.range (max workers 1)).mapM (m := Result) _ = team at h
    match team with
    | .error e => cases h
    | .ok ws =>
      cases h
      refine ⟨rfl, rfl, rfl, rfl, rfl, ?_, hslots⟩
      have hlength := (mapM_eq_ok_iff.mp hteam).length_eq
      rw [List.length_range] at hlength
      rintro rfl
      rw [List.length_nil] at hlength
      omega

/-! ### The books -/

/-- The nodes and the endpoints handed out that there are so far. -/
def Has (s : Scaffold σ ω) : Supply → Prop
  | .node k => k < s.nodes.length
  | .endpoint c i => ∃ junction, s.junctions[c]? = some (some junction) ∧
      junction.connector.HandedOut i

/-- The node where the tuples of a supply come from is there and below a place. -/
def Below (s : Scaffold σ ω) (k : Nat) : Supply → Prop
  | .node q => q < k
  | .endpoint c i => ∃ junction, s.junctions[c]? = some (some junction) ∧
      i < junction.connector.endpoints.length ∧ junction.producer < k

/-- What feeds a connector, if it is there. -/
def feeding : Option Junction → List Supply
  | none => []
  | some junction => [.node junction.producer]

/-- What feeds the nodes and the connectors so far. -/
def used (s : Scaffold σ ω) : List Supply :=
  s.nodes.flatMap (fun node => node.crew.supplies) ++ s.junctions.flatMap feeding

/-- Everything is either loose or used, once, from above, and nothing was opened yet. -/
structure Balanced (loose : List Supply) (s : Scaffold σ ω) : Prop where
  nodup : (loose ++ s.used).Nodup
  mem_iff : ∀ x, x ∈ loose ++ s.used ↔ s.Has x
  below : ∀ (k : Nat) node, s.nodes[k]? = some node → ∀ x ∈ node.crew.supplies, s.Below k x
  nodes : ∀ node ∈ s.nodes, node.Fresh
  junctions : ∀ (c : ConnectorId) junction, s.junctions[c]? = some (some junction) →
    junction.connector.Fresh ∧
      junction.consumers.length = junction.connector.endpoints.countP Endpoint.taken

lemma Balanced.add {r : Scaffold σ ω} {l n : List Supply} (h : Balanced loose s)
    (hperm : (l ++ r.used).Perm (n ++ (loose ++ s.used))) (hnodup : n.Nodup)
    (hnew : ∀ x ∈ n, ¬s.Has x) (hhas : ∀ x, r.Has x ↔ x ∈ n ∨ s.Has x) :
    (l ++ r.used).Nodup ∧ ∀ x, x ∈ l ++ r.used ↔ r.Has x := by
  constructor
  · rw [hperm.nodup_iff, List.nodup_append']
    exact ⟨hnodup, h.nodup, fun x hx hold => hnew x hx ((h.mem_iff x).mp hold)⟩
  · intro x
    rw [hperm.mem_iff, List.mem_append, h.mem_iff, hhas]

lemma Below.mono {k : Nat} {x : Supply} (h : s.Below k x)
    (hjunctions : ∀ (c : ConnectorId) junction, s.junctions[c]? = some (some junction) →
      ∃ junction', s'.junctions[c]? = some (some junction') ∧
        junction'.connector.endpoints.length = junction.connector.endpoints.length ∧
        junction'.producer = junction.producer) : s'.Below k x := by
  match x with
  | .node q => exact h
  | .endpoint c i =>
    obtain ⟨junction, hc, hi, hlt⟩ := h
    obtain ⟨junction', hc', hlength, hproducer⟩ := hjunctions c junction hc
    exact ⟨junction', hc', hlength ▸ hi, hproducer ▸ hlt⟩

lemma Balanced.below_length (h : Balanced loose s) {x : Supply} (hx : s.Has x) :
    s.Below s.nodes.length x := by
  match x with
  | .node q => exact hx
  | .endpoint c i =>
    obtain ⟨junction, hc, e, he, -⟩ := hx
    have hmem : .node junction.producer ∈ loose ++ s.used :=
      List.mem_append_right _ (List.mem_append_right _ (List.mem_flatMap.mpr
        ⟨some junction, List.mem_of_getElem? hc, List.mem_singleton.mpr rfl⟩))
    exact ⟨junction, hc, (List.getElem?_eq_some_iff.mp he).1, (h.mem_iff _).mp hmem⟩

/-- Before anything is built, the books are empty. -/
lemma balanced_nil {specs : List ConnectorSpec} :
    Balanced [] (⟨[], specs.map fun _ => none⟩ : Scaffold σ ω) := by
  have hget (c : ConnectorId) (junction : Junction) :
      (specs.map fun _ => (none : Option Junction))[c]? ≠ some (some junction) := by
    rw [List.getElem?_map]
    cases specs[c]? <;> nofun
  have hused : used (⟨[], specs.map fun _ => none⟩ : Scaffold σ ω) = [] := by
    simp [used, List.flatMap_eq_nil_iff, feeding]
  refine ⟨?_, fun x => ?_, fun k node hk => ?_, fun _ => List.not_mem_nil.elim,
    fun c junction hc => (hget c junction hc).elim⟩
  · rw [hused]
    exact List.nodup_nil
  · rw [hused]
    refine ⟨List.not_mem_nil.elim, fun hx => ?_⟩
    match x with
    | .node k => exact absurd hx (Nat.not_lt_zero k)
    | .endpoint c i =>
      obtain ⟨junction, hc, -⟩ := hx
      exact (hget c junction hc).elim
  · rw [List.getElem?_nil] at hk
    cases hk

/-! ### Steps -/

/-- A new node uses what its slots stand for, and is loose itself. -/
lemma balanced_createNode {operator : Operator} {workers : Nat} {slots : List Slot}
    (hslots : ∀ slot ∈ slots, slot.exhausted = false)
    (h : Balanced (loose ++ slots.map Slot.supply) s) :
    (createNode registry context operator workers slots).Gives s fun place s' =>
      Balanced (loose ++ [.node place]) s' := by
  refine gives_createNode fun schema crew _ hcrew => ?_
  obtain ⟨hsupplies, hfresh⟩ := createCrew_eq_ok hslots hcrew
  have hbooks := h.add (r := { s with nodes := s.nodes ++ [⟨operator, schema, .unopened, crew⟩] })
    (l := loose ++ [.node s.nodes.length]) (n := [.node s.nodes.length]) ?_
    (List.nodup_singleton _) ?_ ?_
  · refine ⟨hbooks.1, hbooks.2, fun k node hk => ?_, fun node hmem => ?_, h.junctions⟩
    · intro x hx
      refine Below.mono ?_ fun c junction hc => ⟨junction, hc, rfl, rfl⟩
      rcases getElem?_concat_eq_some_iff.mp hk with hold | ⟨rfl, rfl⟩
      · exact h.below k node hold x hx
      · refine h.below_length ((h.mem_iff x).mp ?_)
        exact List.mem_append_left _ (List.mem_append_right _ (hsupplies ▸ hx))
    · rcases List.mem_append.mp hmem with hold | hnew
      · exact h.nodes node hold
      · rw [List.mem_singleton.mp hnew]
        exact ⟨rfl, hfresh⟩
  · rw [List.perm_iff_count]
    intro y
    simp only [used, List.flatMap_append, List.flatMap_singleton, hsupplies, List.count_append]
    omega
  · rintro x hx hhas
    rw [List.mem_singleton.mp hx] at hhas
    exact Nat.lt_irrefl _ hhas
  · intro x
    match x with
    | .node k => simp [Has]; omega
    | .endpoint c i => simp [Has]

/-- An endpoint that is handed out is loose. -/
lemma balanced_joinEndpoint {c : ConnectorId} {i : Nat} {consumer : OperatorId}
    (h : Balanced loose s) :
    (joinEndpoint c i consumer : Build σ ω Unit).Gives s fun _ s' =>
      Balanced (loose ++ [.endpoint c i]) s' := by
  refine gives_joinEndpoint fun junction connector hsome htake => ?_
  have htakes := Connector.takes_of_take htake
  have hget (d : ConnectorId) (joined : Option Junction) : (s.junctions.set c joined)[d]? =
      if c = d then some joined else s.junctions[d]? := by
    rw [List.getElem?_set]
    simp [(List.getElem?_eq_some_iff.mp hsome).1]
  have hbooks := h.add (r := { s with junctions := s.junctions.set c (some
      ⟨connector, junction.producer, junction.consumers ++ [(consumer, i)]⟩) })
    (l := loose ++ [.endpoint c i]) (n := [.endpoint c i]) ?_ (List.nodup_singleton _)
    ?_ ?_
  · refine ⟨hbooks.1, hbooks.2, fun k node hk x hx => ?_, h.nodes, fun d new hnew => ?_⟩
    · refine (h.below k node hk x hx).mono fun d old hd => ?_
      simp only [hget]
      by_cases hcd : c = d
      · subst hcd
        rw [hsome] at hd
        cases hd
        exact ⟨_, if_pos rfl, htakes.length_eq, rfl⟩
      · exact ⟨old, (if_neg hcd).trans hd, rfl, rfl⟩
    · simp only [hget] at hnew
      split_ifs at hnew with hcd
      · cases hnew
        obtain ⟨hfresh, hcount⟩ := h.junctions c junction hsome
        refine ⟨htakes.fresh hfresh, ?_⟩
        rw [htakes.countP_eq, List.length_append, hcount, List.length_singleton]
      · exact h.junctions d new hnew
  · have hused : (s.junctions.set c (some ⟨connector, junction.producer,
        junction.consumers ++ [(consumer, i)]⟩)).flatMap feeding = s.junctions.flatMap feeding :=
      flatMap_set_of_eq hsome rfl
    rw [List.perm_iff_count]
    intro y
    simp only [used, hused, List.count_append]
    omega
  · intro x hx hhas
    rw [List.mem_singleton.mp hx] at hhas
    obtain ⟨old, hold, hout⟩ := hhas
    rw [hsome] at hold
    cases hold
    exact htakes.not_handedOut hout
  · intro x
    match x with
    | .node k => simp [Has]
    | .endpoint d j =>
      simp only [Has, hget, List.mem_singleton, Supply.endpoint.injEq]
      by_cases hcd : c = d
      · subst hcd
        simp [hsome, htakes.handedOut_iff]
      · simp [hcd, Ne.symm hcd]

/-- A new connector uses its producer, and none of its endpoints was handed out. -/
lemma Balanced.addJunction {c : ConnectorId} {q : Nat} {con : Connector}
    (h : Balanced (loose ++ [.node q]) s) (hmissing : s.Missing c) (hfresh : con.Fresh)
    (htaken : ∀ e ∈ con.endpoints, e.taken = false) :
    Balanced loose { s with junctions := s.junctions.set c (some ⟨con, q, []⟩) } := by
  have hget (d : ConnectorId) (new : Option Junction) : (s.junctions.set c new)[d]? =
      if c = d then some new else s.junctions[d]? := by
    rw [List.getElem?_set]
    simp [(List.getElem?_eq_some_iff.mp hmissing).1]
  have hnone (e : Endpoint) (he : e ∈ con.endpoints) : ¬e.taken = true := by simp [htaken e he]
  have hbooks := h.add (r := { s with junctions := s.junctions.set c (some ⟨con, q, []⟩) })
    (l := loose) (n := []) ?_ List.nodup_nil (fun _ => List.not_mem_nil.elim) ?_
  · refine ⟨hbooks.1, hbooks.2, fun k node hk x hx => ?_, h.nodes, fun d new hnew => ?_⟩
    · refine (h.below k node hk x hx).mono fun d old hd => ⟨old, ?_, rfl, rfl⟩
      have hcd : c ≠ d := by
        rintro rfl
        rw [hmissing] at hd
        cases hd
      exact (hget ..).trans ((if_neg hcd).trans hd)
    · simp only [hget] at hnew
      split_ifs at hnew with hcd
      · cases hnew
        exact ⟨hfresh, (List.countP_eq_zero.mpr hnone).symm⟩
      · exact h.junctions d new hnew
  · have hused := flatMap_set_perm hmissing (some ⟨con, q, []⟩) feeding
    rw [List.perm_iff_count] at hused ⊢
    intro y
    have hcount := hused y
    simp only [used, List.count_append, feeding, List.count_nil] at hcount ⊢
    omega
  · intro x
    match x with
    | .node k => simp [Has]
    | .endpoint d j =>
      simp only [Has, hget, List.not_mem_nil, false_or]
      by_cases hcd : c = d
      · subst hcd
        have hout : ¬con.HandedOut j := fun ⟨e, he, htaken⟩ =>
          hnone e (List.mem_of_getElem? he) htaken
        simp [Missing.eq_1 s c ▸ hmissing, hout]
      · simp [hcd]

lemma along_balanced {connect : ConnectorId → Build σ ω Unit}
    (hconnect : ∀ loose s c, Balanced loose s →
      (connect c).Gives s fun _ s' => Balanced loose s') :
    Along registry context connect (fun _ => True) (fun _ => True) Balanced where
  connect := fun loose s c _ h => (hconnect loose s c h).mono fun _ _ h' => ⟨trivial, h'⟩
  join := fun _ _ _ _ _ _ h => balanced_joinEndpoint h
  create := fun _ _ _ _ _ hslots h => balanced_createNode hslots h

lemma balanced_connect (depth : Nat) {c : ConnectorId} (h : Balanced loose s) :
    (connect registry context plan depth c).Gives s fun _ s' => Balanced loose s' := by
  induction depth generalizing loose c s with
  | zero => exact gives_endless
  | succ depth ih =>
    refine gives_connectWith (fun _ _ => h) fun spec hmissing hspec => ?_
    have halong := (along_balanced fun _ _ _ h => ih h :
      Along registry context (connect registry context plan depth) _ _ _)
    refine ((halong.gives_buildNode (fun _ _ => trivial) h).and
      (missing_after_buildNode depth hmissing hspec)).mono ?_
    rintro q s' ⟨⟨-, h'⟩, hmissing'⟩ connector hcreate
    exact h'.addJunction hmissing' (Connector.fresh_create hcreate)
      (Connector.not_taken_create hcreate)

/-! ### Whole trees -/

/-- The connectors of a finished tree are those that were built, all of whose endpoints were
handed out. -/
lemma finishJunctions_eq_ok {junctions : List (Option Junction)} {finished : List Junction}
    (h : finishJunctions junctions = .ok finished) :
    junctions = finished.map some ∧
      ∀ junction ∈ finished, junction.consumers.length = junction.connector.size := by
  have hall : List.Forall₂ (fun junction new => new.consumers.length = new.connector.size ∧
      some new = junction) (junctions.zipIdx.map Prod.fst) finished := by
    rw [List.forall₂_map_left_iff]
    refine (mapM_eq_ok_iff.mp h).imp fun (junction, id) new hnew => ?_
    match junction with
    | none => cases hnew
    | some junction =>
      simp only at hnew
      split at hnew
      · next hlength =>
        cases hnew
        exact ⟨hlength, rfl⟩
      · cases hnew
  rw [List.zipIdx_map_fst] at hall
  obtain ⟨hlength, heq⟩ := (List.forall₂_and_left _ _).mp hall.flip
  rw [← List.forall₂_map_left_iff (R := Eq), List.forall₂_eq_eq_eq] at heq
  exact ⟨heq.symm, hlength⟩

/-- What was built makes up a tree that has a consumer for each endpoint. -/
structure MakesUp (s : Scaffold σ ω) (t : Tree σ ω) : Prop where
  nodes_eq : s.nodes = t.nodes
  junctions_eq : s.junctions = t.junctions.map some
  length_eq : ∀ junction ∈ t.junctions, junction.consumers.length = junction.connector.size

section MakesUp

variable {t : Tree σ ω} (hmakes : s.MakesUp t)

include hmakes

lemma MakesUp.getElem?_iff {c : ConnectorId} {junction : Junction} :
    s.junctions[c]? = some (some junction) ↔ t.junctions[c]? = some junction := by
  simp [hmakes.junctions_eq]

lemma MakesUp.feeders_eq : t.ledger.wiring.feeders = s.used := by
  have hproducers : s.junctions.flatMap feeding =
      t.junctions.map fun junction => .node junction.producer := by
    rw [hmakes.junctions_eq, List.flatMap_map, List.map_eq_flatMap]
    rfl
  simp [Wiring.feeders, Ledger.wiring, Tree.ledger, used, hmakes.nodes_eq, hproducers,
    List.flatMap_def, Node.entry, Junction.entry, Function.comp_def]

lemma MakesUp.below {k : Nat} {x : Supply} (h : s.Below k x) : t.ledger.wiring.Below k x := by
  match x with
  | .node q => exact h
  | .endpoint c i =>
    obtain ⟨junction, hc, hi, hlt⟩ := h
    exact ⟨_, _, Tree.joint_of_junction (hmakes.getElem?_iff.mp hc), hi, hlt⟩

/-- A connector has as many consumers as endpoints that were handed out, so all of them were. -/
lemma Balanced.handedOut_iff (h : Balanced loose s) {c : ConnectorId} {junction : Junction}
    (hc : t.junctions[c]? = some junction) {i : Nat} :
    junction.connector.HandedOut i ↔ i < junction.connector.endpoints.length := by
  have hcount := (h.junctions c junction (hmakes.getElem?_iff.mpr hc)).2
  rw [hmakes.length_eq junction (List.mem_of_getElem? hc), Connector.size, eq_comm,
    List.countP_eq_length] at hcount
  constructor
  · rintro ⟨e, he, -⟩
    exact (List.getElem?_eq_some_iff.mp he).1
  · exact fun hi => ⟨_, List.getElem?_eq_getElem hi, hcount _ (List.getElem_mem hi)⟩

lemma Balanced.has_iff (h : Balanced loose s) (x : Supply) :
    s.Has x ↔ t.ledger.wiring.Has x := by
  match x with
  | .node k => rw [Tree.has_node_iff, Has, hmakes.nodes_eq]
  | .endpoint c i =>
    constructor
    · rintro ⟨junction, hc, hout⟩
      have hc' := hmakes.getElem?_iff.mp hc
      rw [Wiring.has_endpoint_iff (Tree.joint_of_junction hc')]
      exact (h.handedOut_iff hmakes hc').mp hout
    · rintro ⟨_, _, hjoint, hi⟩
      obtain ⟨junction, hc, rfl, rfl⟩ := Tree.joint_eq_some_iff.mp hjoint
      exact ⟨junction, hmakes.getElem?_iff.mpr hc, (h.handedOut_iff hmakes hc).mpr hi⟩

/-- What is balanced with the root alone loose is wired soundly. -/
lemma Balanced.sound (h : Balanced [.node t.root] s) : t.ledger.wiring.Sound := by
  have hmem (x : Supply) : x = .node t.root ∨ x ∈ s.used ↔ t.ledger.wiring.Has x := by
    rw [← h.has_iff hmakes, ← h.mem_iff, List.singleton_append, List.mem_cons]
  have hnodup := List.nodup_cons.mp (List.singleton_append ▸ h.nodup)
  refine ⟨(hmem (.node t.root)).mp (.inl rfl), ?_, fun x => ?_, fun k x hx => ?_,
    fun c q n hc => ?_⟩
  · rw [hmakes.feeders_eq]
    exact hnodup.2
  · rw [hmakes.feeders_eq, ← hmem]
    constructor
    · intro hx
      exact ⟨.inr hx, fun heq => hnodup.1 (heq ▸ hx)⟩
    · rintro ⟨heq | hx, hne⟩
      · exact (hne heq).elim
      · exact hx
  · obtain ⟨node, hk, hx'⟩ := Tree.exists_node_of_mem_suppliesOf hx
    exact hmakes.below (h.below k node (hmakes.nodes_eq ▸ hk) x hx')
  · obtain ⟨junction, hjunction, -, rfl⟩ := Tree.joint_eq_some_iff.mp hc
    exact (h.junctions c junction (hmakes.getElem?_iff.mpr hjunction)).1.pos

end MakesUp

end Scaffold

/-- A tree that was built and not opened yet. -/
structure Tree.Fresh (t : Tree σ ω) : Prop where
  sound : t.ledger.wiring.Sound
  nodes : ∀ node ∈ t.nodes, node.Fresh
  junctions : ∀ junction ∈ t.junctions, junction.connector.Fresh
  calls_eq : t.newestCalls = []
  metrics_eq : t.metrics = .empty

open Act Scaffold

section Build

variable {plan : PhysicalPlan} {registry : Registry σ ω} {context : Context} {clock : Nat → Nat}
  {t : Tree σ ω}

/-- Once the root is there, a plan is built if all connectors are in use. -/
lemma Scaffold.gives_buildPlan {want : Nat → Scaffold σ ω → Prop}
    (hroot : (buildNode registry context
      (connect registry context plan (2 * plan.connectors.length + 1)) plan.root).Gives
        ⟨[], plan.connectors.map fun _ => none⟩ want) :
    (buildPlan registry context plan).Gives ⟨[], plan.connectors.map fun _ => none⟩
      fun made s => want made.1 s ∧ finishJunctions s.junctions = .ok made.2 := by
  rw [buildPlan, gives_bind]
  refine hroot.mono fun root s h => ?_
  rw [gives_bind, gives_get, gives_bind, gives_lift]
  exact fun junctions hfinished => gives_pure.mpr ⟨h, hfinished⟩

/-- A tree is what was built when the root was there, with all connectors in use. -/
lemma PhysicalPlan.exists_of_tree? (h : plan.tree? registry context clock = some (.ok t))
    {want : Nat → Scaffold σ ω → Prop}
    (hroot : (buildNode registry context
      (connect registry context plan (2 * plan.connectors.length + 1)) plan.root).Gives
        ⟨[], plan.connectors.map fun _ => none⟩ want) :
    ∃ s, want t.root s ∧ s.junctions = t.junctions.map some ∧
      (∀ junction ∈ t.junctions, junction.consumers.length = junction.connector.size) ∧
      t = {
        nodes := s.nodes, junctions := t.junctions, root := t.root, metrics := .empty, clock } := by
  rw [tree?] at h
  simp only [Option.bind_eq_bind, Option.bind_eq_some_iff] at h
  obtain ⟨⟨built, s⟩, houtcome, hbuilt⟩ := h
  rcases built with e | ⟨root, junctions⟩
  · cases hbuilt
  · cases hbuilt
    obtain ⟨hwant, hfinished⟩ := gives_iff.mp (gives_buildPlan hroot) _ _ houtcome
    obtain ⟨hjunctions, hlength⟩ := finishJunctions_eq_ok hfinished
    exact ⟨s, hwant, hjunctions, hlength, rfl⟩

lemma Scaffold.balanced_root :
    (buildNode registry context (connect registry context plan (2 * plan.connectors.length + 1))
      plan.root).Gives ⟨[], plan.connectors.map fun _ => none⟩ fun root s =>
        Balanced [.node root] s := by
  have halong : Along registry context
      (connect registry context plan (2 * plan.connectors.length + 1)) (fun _ => True)
      (fun _ => True) Balanced := along_balanced fun _ _ _ => balanced_connect _
  exact (halong.gives_buildNode (fun _ _ => trivial) balanced_nil).mono fun _ _ h => h.2

theorem PhysicalPlan.fresh_of_tree? (h : plan.tree? registry context clock = some (.ok t)) :
    t.Fresh := by
  obtain ⟨s, hbalanced, hjunctions, hlength, heq⟩ := exists_of_tree? h balanced_root
  have hmakes : s.MakesUp t := ⟨by rw [heq], hjunctions, hlength⟩
  refine ⟨hbalanced.sound hmakes, hmakes.nodes_eq ▸ hbalanced.nodes,
    fun junction hmem => ?_, by rw [heq], by rw [heq]⟩
  obtain ⟨c, hc⟩ := List.mem_iff_getElem?.mp hmem
  exact (hbalanced.junctions c junction (hmakes.getElem?_iff.mpr hc)).1

end Build

end Dataflow
