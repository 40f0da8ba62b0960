import Dataflow.Executor.Standard
import Dataflow.Pattern.Search
import Dataflow.Proofs.Tree.Account
import Dataflow.Proofs.Tree.Grounded

/-!
# When building comes to an end

Building a connector builds its producer, which asks for the connectors that it reads. If it asks
for one that is being built already, the producer of that one is built once more; it fails as soon
as it comes to an endpoint that it took before. So building goes on without an end only where some
connectors ask for one another before they have taken anything. Wherever no connector leads back to
itself by way of what it asks for first, building comes to an answer: there is a tree or an error.
-/

namespace Dataflow

open Act Relation

/-! ### Steps of building -/

namespace Scaffold

variable {σ ω : Type} {registry : Registry σ ω} {context : Context} {plan : PhysicalPlan}
  {connect : ConnectorId → Build σ ω Unit} {s s' : Scaffold σ ω} {c d : ConnectorId}
  {x : ConnectorId × Nat}

lemma ends_schemaOf (supply : Supply) : (schemaOf supply : Build σ ω Schema).Ends := by
  refine ends_get.bind fun s => ?_
  cases supply <;> exact ends_pure _

lemma ends_createNode (operator : Operator) (workers : Nat) (slots : List Slot) :
    (createNode registry context operator workers slots).Ends := by
  refine (ends_mapM slots fun slot => ends_schemaOf slot.supply).bind fun inputs => ?_
  refine (ends_lift _).bind fun schema => (ends_lift _).bind fun crew => ?_
  exact ends_get.bind fun s => (ends_set _).bind fun _ => ends_pure _

lemma ends_joinEndpoint (c : ConnectorId) (i : Nat) (consumer : OperatorId) :
    (joinEndpoint c i consumer : Build σ ω Unit).Ends := by
  refine ends_get.bind fun s => ?_
  split
  · exact ends_throw _
  · exact (ends_lift _).bind fun _ => ends_set _

/-- Every step of building keeps `I`, which speaks of the endpoints that are still to be taken. -/
structure Ahead (connect : ConnectorId → Build σ ω Unit)
    (I : List (ConnectorId × Nat) → Scaffold σ ω → Prop) : Prop where
  take : ∀ x rest s, I (x :: rest) s → (connect x.1).Brings s fun _ s' =>
    ∀ junction connector consumers, s'.junctions[x.1]? = some (some junction) →
      junction.connector.take x.2 = .ok connector →
        I rest { s' with
          junctions := s'.junctions.set x.1 (some ⟨connector, junction.producer, consumers⟩) }
  same : ∀ rest s s', s'.junctions = s.junctions → I rest s → I rest s'

section Ahead

variable {I : List (ConnectorId × Nat) → Scaffold σ ω → Prop}

mutual

lemma Ahead.brings_buildNode (hsteps : Ahead connect I) {n : PhysicalNode}
    {l : List (ConnectorId × Nat)} {s : Scaffold σ ω} (h : I (n.endpoints ++ l) s) :
    (buildNode registry context connect n).Brings s fun _ s' => I l s' := by
  match n with
  | .node operator workers inputs =>
    rw [PhysicalNode.endpoints] at h
    rw [buildNode]
    refine (hsteps.brings_buildInputs operator.id h).bind fun slots s' h' => ?_
    exact ⟨ends_createNode operator workers slots s',
      gives_createNode fun _ _ _ _ => hsteps.same l s' _ rfl h'⟩

lemma Ahead.brings_buildInputs (hsteps : Ahead connect I) (consumer : OperatorId)
    {inputs : List PhysicalInput} {l : List (ConnectorId × Nat)} {s : Scaffold σ ω}
    (h : I (PhysicalInput.endpointsOf inputs ++ l) s) :
    (buildInputs registry context connect consumer inputs).Brings s fun _ s' => I l s' := by
  match inputs with
  | [] =>
    rw [buildInputs]
    rw [PhysicalInput.endpointsOf, List.nil_append] at h
    exact ⟨rfl, gives_pure.mpr h⟩
  | .direct link node :: inputs =>
    rw [PhysicalInput.endpointsOf, List.append_assoc] at h
    rw [buildInputs]
    refine (hsteps.brings_buildNode h).bind fun place s' h' => ?_
    refine (hsteps.brings_buildInputs consumer h').bind fun slots s'' h'' => ?_
    exact ⟨rfl, gives_pure.mpr h''⟩
  | .endpoint link c i :: inputs =>
    rw [PhysicalInput.endpointsOf, List.cons_append] at h
    rw [buildInputs]
    refine (hsteps.take _ _ s h).bind fun _ s' h' => ?_
    have hjoin : (joinEndpoint c i consumer : Build σ ω Unit).Brings s' fun _ s'' =>
        I (PhysicalInput.endpointsOf inputs ++ l) s'' :=
      ⟨ends_joinEndpoint c i consumer s', gives_joinEndpoint fun junction connector =>
        h' junction connector _⟩
    refine hjoin.bind fun _ s'' h'' => ?_
    exact (hsteps.brings_buildInputs consumer h'').bind fun slots s₃ h₃ => ⟨rfl, gives_pure.mpr h₃⟩

end

end Ahead

/-- A connector is there in the end, or building its producer comes to an end. -/
lemma brings_connectWith {want : Scaffold σ ω → Prop}
    (hbuilt : ∀ junction, s.junctions[c]? = some (some junction) → want s)
    (hnew : ∀ spec, s.Missing c → plan.connector? c = some spec →
      (buildNode registry context connect spec.producer).Brings s fun place s' =>
        ∀ connector, Connector.create c spec.producer.id (s'.seen (.node place)) spec.endpoints =
          .ok connector →
          want { s' with junctions := s'.junctions.set c (some ⟨connector, place, []⟩) }) :
    (connectWith registry context plan connect c).Brings s fun _ => want := by
  refine ⟨?_, gives_connectWith hbuilt fun spec h hspec => (hnew spec h hspec).gives⟩
  rw [connectWith, outcome_bind, outcome_get, andThen]
  rcases hc : s.junctions[c]? with _ | _ | junction
  · rfl
  · cases hspec : plan.connector? c with
    | none => rfl
    | some spec =>
      exact isSome_bind (hnew spec hc hspec).ends fun place =>
        (ends_schemaOf _).bind fun schema => (ends_lift _).bind fun _ => ends_modify _
  · rfl

/-! ### Endpoints that were taken -/

/-- An endpoint of a connector that is there was handed out. -/
def Used (s : Scaffold σ ω) (x : ConnectorId × Nat) : Prop :=
  ∃ junction, s.junctions[x.1]? = some (some junction) ∧ junction.connector.HandedOut x.2

lemma used_of_junctions (h : s'.junctions = s.junctions) (hx : s.Used x) : s'.Used x := by
  rw [Used, h]
  exact hx

/-- When an endpoint is handed out, nothing changes for the others. -/
lemma used_join_iff {y : ConnectorId × Nat} {junction : Junction} {connector : Connector}
    {consumers : List (OperatorId × Nat)} (hjunction : s.junctions[x.1]? = some (some junction))
    (htake : junction.connector.take x.2 = .ok connector) :
    Used { s with
      junctions := s.junctions.set x.1 (some ⟨connector, junction.producer, consumers⟩) } y ↔
        y = x ∨ s.Used y := by
  have hlt := (List.getElem?_eq_some_iff.mp hjunction).1
  have htakes := (Connector.takes_of_take htake).handedOut_iff
  obtain ⟨c, i⟩ := x
  obtain ⟨d, j⟩ := y
  by_cases hcd : c = d
  · subst hcd
    simp [Used, List.getElem?_set_self hlt, hjunction, htakes]
  · simp [Used, List.getElem?_set_ne hcd, Ne.symm hcd]

/-- What was handed out before a connector is built stays so. -/
lemma used_connect (depth : Nat) {s₀ : Scaffold σ ω} (h : ∀ x, s₀.Used x → s.Used x) :
    (Scaffold.connect registry context plan depth c).Gives s fun _ s' =>
      ∀ x, s₀.Used x → s'.Used x := by
  induction depth generalizing c s with
  | zero => exact gives_endless
  | succ depth ih =>
    refine gives_connectWith (fun _ _ => h) fun spec hmissing hspec => ?_
    have halong : Along registry context (Scaffold.connect registry context plan depth)
        (fun _ => True) (fun _ => True) fun _ s' => ∀ x, s₀.Used x → s'.Used x :=
      { connect := fun _ s c _ h => (ih h).mono fun _ _ h' => ⟨trivial, h'⟩
        join := fun _ s c i _ _ h => gives_joinEndpoint fun _ _ hjunction htake x hx =>
          (used_join_iff (x := (c, i)) hjunction htake).mpr (.inr (h x hx))
        create := fun _ _ _ _ _ _ h => gives_createNode fun _ _ _ _ x hx =>
          used_of_junctions rfl (h x hx) }
    have hbuild := halong.gives_buildNode (n := spec.producer) (l := []) (fun _ _ => trivial) h
    refine (hbuild.and (missing_after_buildNode depth hmissing hspec)).mono ?_
    rintro place s' ⟨⟨-, h'⟩, hmissing'⟩ connector - x hx
    obtain ⟨junction, hjunction, htaken⟩ := h' x hx
    have hne : c ≠ x.1 := by
      rintro rfl
      rw [Missing, hjunction] at hmissing'
      cases hmissing'
    exact ⟨junction, by rwa [List.getElem?_set_ne hne], htaken⟩

/-! ### Connectors under way -/

/-- The endpoint that the producer of a connector takes first was handed out. -/
def Tired (plan : PhysicalPlan) (s : Scaffold σ ω) (c : ConnectorId) : Prop :=
  ∃ spec x, plan.connector? c = some spec ∧ spec.producer.endpoints.head? = some x ∧ s.Used x

/-- So far some connectors are being built, and each of them either asks first for another of them
or for the one that is to be built now, or its producer has taken an endpoint. -/
structure UnderWay (plan : PhysicalPlan) (P : Finset ConnectorId) (d : ConnectorId)
    (s : Scaffold σ ω) : Prop where
  missing : ∀ c ∈ P, s.Missing c
  opens : ∀ c ∈ P, s.Tired plan c ∨ ∃ e, plan.AsksFirst c e ∧ (e = d ∨ e ∈ P)

lemma Tired.mono (h : s.Tired plan c) (hused : ∀ x, s.Used x → s'.Used x) : s'.Tired plan c := by
  obtain ⟨spec, x, hspec, hhead, hx⟩ := h
  exact ⟨spec, x, hspec, hhead, hused x hx⟩

lemma asksFirst_of_head? {spec : ConnectorSpec} (hspec : plan.connector? c = some spec)
    (hhead : spec.producer.endpoints.head? = some x) : plan.AsksFirst c x.1 := by
  refine ⟨spec, hspec, ?_⟩
  rw [PhysicalNode.asks_eq_map, List.head?_map, hhead, Option.map_some]

lemma Tired.exists_asksFirst (h : s.Tired plan c) : ∃ e, plan.AsksFirst c e := by
  obtain ⟨spec, x, hspec, hhead, -⟩ := h
  exact ⟨x.1, asksFirst_of_head? hspec hhead⟩

/-- A node is not built if the endpoint that it takes first cannot be taken. -/
lemma brings_buildNode_of_head? {n : PhysicalNode} (hhead : n.endpoints.head? = some x)
    (hconnect : ∀ s', s'.junctions = s.junctions → (connect x.1).Brings s' fun _ s'' =>
      s''.junctions = s.junctions ∧ s.Used x) :
    (buildNode registry context connect n).Brings s fun _ _ => False := by
  obtain ⟨later, hlater⟩ := List.head?_eq_some_iff.mp hhead
  have hahead : Ahead connect fun rest s' => rest = n.endpoints ∧ s'.junctions = s.junctions :=
    { take := by
        rintro y rest s' ⟨hrest, hsame⟩
        obtain ⟨rfl, rfl⟩ := List.cons_eq_cons.mp (hrest.trans hlater)
        refine (hconnect s' hsame).mono ?_
        rintro - s'' ⟨hsame', junction, hjunction, htaken⟩ junction' connector consumers
          hjunction' htake
        rw [hsame', hjunction, Option.some.injEq, Option.some.injEq] at hjunction'
        subst hjunction'
        exact absurd htaken (Connector.takes_of_take htake).not_handedOut
      same := fun rest s' s'' hsame h => ⟨h.1, hsame.trans h.2⟩ }
  refine (hahead.brings_buildNode (l := []) ⟨List.append_nil _, rfl⟩).mono ?_
  rintro - s' ⟨hnil, -⟩
  rw [hlater] at hnil
  cases hnil

/-- A connector whose producer has taken an endpoint already is not built once more. -/
lemma Tired.brings_connect (h : s.Tired plan c) (hmissing : s.Missing c) (depth : Nat) :
    (Scaffold.connect registry context plan (depth + 2) c).Brings s fun _ _ => False := by
  obtain ⟨spec, x, hspec, hhead, hused⟩ := h
  refine brings_connectWith (fun _ hbuilt => hmissing.not_built hbuilt) fun spec' _ hspec' => ?_
  obtain rfl : spec = spec' := Option.some.inj (hspec.symm.trans hspec')
  refine (brings_buildNode_of_head? hhead fun s' hsame => ?_).mono fun _ _ hfalse => hfalse.elim
  obtain ⟨junction, hjunction, htaken⟩ := hused
  refine brings_connectWith (fun _ _ => ⟨hsame, junction, hjunction, htaken⟩)
    fun _ hmissing' _ => ?_
  rw [Missing, hsame, hjunction] at hmissing'
  cases hmissing'

/-- A connector that is being built is not built once more, and trying to comes to an end. -/
lemma UnderWay.brings_connect_of_mem {P : Finset ConnectorId} (h : UnderWay plan P d s)
    (hd : d ∈ P) {depth : Nat} (htall : ¬plan.Tall depth d) :
    (Scaffold.connect registry context plan depth d).Brings s fun _ _ => False := by
  induction depth generalizing d s with
  | zero => exact absurd trivial htall
  | succ depth ih =>
    have hmissing := h.missing d hd
    have hlower (e : ConnectorId) (he : plan.AsksFirst d e) : ¬plan.Tall depth e :=
      fun htall' => htall ⟨e, he, htall'⟩
    rcases h.opens d hd with htired | ⟨e, hasks, he⟩
    · obtain ⟨e, hasks⟩ := htired.exists_asksFirst
      obtain ⟨depth, rfl⟩ : ∃ k, depth = k + 1 := by
        refine ⟨depth - 1, (Nat.succ_pred_eq_of_ne_zero ?_).symm⟩
        rintro rfl
        exact hlower e hasks trivial
      exact htired.brings_connect hmissing depth
    · have heP : e ∈ P := he.elim (fun heq => heq ▸ hd) id
      obtain ⟨spec, hspec, hhead⟩ := hasks
      rw [PhysicalNode.asks_eq_map, List.head?_map, Option.map_eq_some_iff] at hhead
      obtain ⟨x, hhead, rfl⟩ := hhead
      refine brings_connectWith (fun _ hbuilt => hmissing.not_built hbuilt) fun spec' _ hspec' => ?_
      obtain rfl : spec = spec' := Option.some.inj (hspec.symm.trans hspec')
      refine (brings_buildNode_of_head? hhead fun s' hsame => ?_).mono fun _ _ hfalse => hfalse.elim
      have h' : UnderWay plan P x.1 s' := by
        refine ⟨fun c hc => ?_, fun c hc => ?_⟩
        · rw [Missing, hsame]
          exact h.missing c hc
        · rcases h.opens c hc with htired | ⟨e, hasks, he⟩
          · exact .inl (htired.mono fun _ => used_of_junctions hsame)
          · exact .inr ⟨e, hasks, .inr (he.elim (fun heq => heq ▸ hd) id)⟩
      refine (ih h' heP ?_).mono fun _ _ hfalse => hfalse.elim
      exact hlower x.1 (asksFirst_of_head? hspec hhead)

lemma UnderWay.card_le {P : Finset ConnectorId} (h : UnderWay plan P d s) :
    P.card ≤ plan.connectors.length := by
  have hsubset : P ⊆ Finset.range plan.connectors.length := by
    intro c hc
    obtain ⟨e, hasks⟩ : ∃ e, plan.AsksFirst c e := by
      rcases h.opens c hc with htired | ⟨e, hasks, -⟩
      · exact htired.exists_asksFirst
      · exact ⟨e, hasks⟩
    exact Finset.mem_range.mpr hasks.lt
  simpa using Finset.card_le_card hsubset

/-- The producer of `d` is being built, from `s` on: what is under way is still missing, what was
handed out stays so, and unless all endpoints of the producer are still to be taken, the first one
was. -/
structure Within (plan : PhysicalPlan) (P : Finset ConnectorId) (d : ConnectorId)
    (spec : ConnectorSpec) (s : Scaffold σ ω) (rest : List (ConnectorId × Nat))
    (s' : Scaffold σ ω) : Prop where
  missing : ∀ c ∈ insert d P, s'.Missing c
  used : ∀ x, s.Used x → s'.Used x
  suffix : rest <:+ spec.producer.endpoints
  first : rest = spec.producer.endpoints ∨ s'.Tired plan d

section Within

variable {P : Finset ConnectorId} {spec : ConnectorSpec} {rest : List (ConnectorId × Nat)}
  {s'' : Scaffold σ ω}

lemma Within.of_junctions (h : Within plan P d spec s rest s')
    (hsame : s''.junctions = s'.junctions) :
    Within plan P d spec s rest s'' where
  missing := by
    intro c hc
    rw [Missing, hsame]
    exact h.missing c hc
  used := fun x hx => used_of_junctions hsame (h.used x hx)
  suffix := h.suffix
  first := h.first.imp id fun htired => htired.mono fun _ => used_of_junctions hsame

/-- The producer is under way along with the others when it asks for its next endpoint. -/
lemma Within.underWay (h : Within plan P d spec s (x :: rest) s') (hbefore : UnderWay plan P d s)
    (hspec : plan.connector? d = some spec) : UnderWay plan (insert d P) x.1 s' where
  missing := h.missing
  opens := by
    intro c hc
    rcases Finset.mem_insert.mp hc with rfl | hc
    · rcases h.first with hfirst | htired
      · exact .inr ⟨x.1, asksFirst_of_head? hspec (by rw [← hfirst]; rfl), .inl rfl⟩
      · exact .inl htired
    · rcases hbefore.opens c hc with htired | ⟨e, hasks, he⟩
      · exact .inl (htired.mono h.used)
      · exact .inr ⟨e, hasks, .inr (Finset.mem_insert.mpr he)⟩

lemma Within.asks (h : Within plan P d spec s (x :: rest) s')
    (hspec : plan.connector? d = some spec) : plan.Asks d x.1 := by
  refine ⟨spec, hspec, ?_⟩
  rw [PhysicalNode.asks_eq_map]
  exact List.mem_map_of_mem (h.suffix.subset List.mem_cons_self)

/-- The next endpoint is taken of a connector that is there by then. -/
lemma Within.join {junction : Junction} {connector : Connector}
    {consumers : List (OperatorId × Nat)} (h : Within plan P d spec s (x :: rest) s')
    (hspec : plan.connector? d = some spec) (hmissing : ∀ c ∈ insert d P, s''.Missing c)
    (hused : ∀ y, s'.Used y → s''.Used y)
    (hjunction : s''.junctions[x.1]? = some (some junction))
    (htake : junction.connector.take x.2 = .ok connector) :
    Within plan P d spec s rest { s'' with
      junctions := s''.junctions.set x.1 (some ⟨connector, junction.producer, consumers⟩) } where
  missing := fun c hc => (missing_set_iff_of_built hjunction).mpr (hmissing c hc)
  used := fun y hy => (used_join_iff hjunction htake).mpr (.inr (hused y (h.used y hy)))
  suffix := (List.suffix_cons x rest).trans h.suffix
  first := by
    rcases h.first with hfirst | htired
    · exact .inr ⟨spec, x, hspec, by rw [← hfirst]; rfl,
        (used_join_iff hjunction htake).mpr (.inl rfl)⟩
    · exact .inr (htired.mono fun y hy => (used_join_iff hjunction htake).mpr (.inr (hused y hy)))

end Within

/-- Building a connector comes to an end, and those that are being built are not built by the way.
Each connector under way leaves one level less, and the rest are enough for those that are asked for
again. -/
lemma UnderWay.brings_connect (hgrounded : plan.Grounded) {P : Finset ConnectorId} {depth : Nat}
    (hdepth : 2 * plan.connectors.length + 1 ≤ P.card + depth) (h : UnderWay plan P d s)
    (hd : plan.LeadsTo d) : (Scaffold.connect registry context plan depth d).Brings s
      fun _ s' => ∀ c ∈ P, s'.Missing c := by
  have hcard := h.card_le
  induction depth generalizing P d s with
  | zero => omega
  | succ depth ih =>
    by_cases hdP : d ∈ P
    · have htall : ¬plan.Tall (depth + 1) d :=
        fun htall => hgrounded.not_tall hd (htall.mono (by omega))
      exact (h.brings_connect_of_mem hdP htall).mono fun _ _ hfalse => hfalse.elim
    · refine brings_connectWith (fun _ _ => h.missing) fun spec hmissing hspec => ?_
      have hinsert : (insert d P).card = P.card + 1 := Finset.card_insert_of_notMem hdP
      have hahead : Ahead (Scaffold.connect registry context plan depth)
          (Within plan P d spec s) :=
        { take := by
            intro x rest s' h'
            have hunder := h'.underWay h hspec
            have hconnect := ih (by omega) hunder (hd.tail (h'.asks hspec)) hunder.card_le
            refine ⟨hconnect.ends, (hconnect.gives.and (used_connect depth fun _ => id)).mono ?_⟩
            rintro - s'' ⟨hmissing', hused⟩ junction connector consumers hjunction htake
            exact h'.join hspec hmissing' hused hjunction htake
          same := fun _ _ _ hsame h' => h'.of_junctions hsame }
      have hstart : Within plan P d spec s (spec.producer.endpoints ++ []) s :=
        ⟨(Finset.forall_mem_insert ..).mpr ⟨hmissing, h.missing⟩, fun _ => id, by simp, by simp⟩
      refine (hahead.brings_buildNode hstart).mono ?_
      rintro place s' ⟨hmissing', -⟩ connector - c hc
      have hne : d ≠ c := fun heq => hdP (heq ▸ hc)
      rw [Missing, List.getElem?_set_ne hne]
      exact hmissing' c (Finset.mem_insert_of_mem hc)

/-! ### Whole plans -/

mutual

/-- Where building connectors comes to an end in more cases, so does building a node. -/
lemma refines_buildNode {connect' : ConnectorId → Build σ ω Unit}
    (h : ∀ c, (connect c).Refines (connect' c)) (n : PhysicalNode) :
    (buildNode registry context connect n).Refines (buildNode registry context connect' n) := by
  match n with
  | .node operator workers inputs =>
    rw [buildNode, buildNode]
    exact (refines_buildInputs h operator.id inputs).bind fun _ => .refl

lemma refines_buildInputs {connect' : ConnectorId → Build σ ω Unit}
    (h : ∀ c, (connect c).Refines (connect' c)) (consumer : OperatorId)
    (inputs : List PhysicalInput) : (buildInputs registry context connect consumer inputs).Refines
      (buildInputs registry context connect' consumer inputs) := by
  match inputs with
  | [] =>
    rw [buildInputs, buildInputs]
    exact .refl
  | .direct link node :: inputs =>
    rw [buildInputs, buildInputs]
    refine (refines_buildNode h node).bind fun _ => ?_
    exact (refines_buildInputs h consumer inputs).bind fun _ => .refl
  | .endpoint link c i :: inputs =>
    rw [buildInputs, buildInputs]
    refine (h c).bind fun _ => .bind_right fun _ => ?_
    exact (refines_buildInputs h consumer inputs).bind fun _ => .refl

end

lemma refines_connect {depth depth' : Nat} (hle : depth ≤ depth') (c : ConnectorId) :
    (Scaffold.connect registry context plan depth c).Refines
      (Scaffold.connect registry context plan depth' c) := by
  induction depth generalizing depth' c with
  | zero => exact refines_endless
  | succ depth ih =>
    obtain ⟨depth', rfl⟩ := Nat.exists_eq_add_of_le' (Nat.one_le_of_lt hle)
    refine .bind_right fun s => ?_
    split
    · exact .refl
    · exact (refines_buildNode (ih (by omega)) _).bind fun _ => .refl
    · exact .refl

end Scaffold

namespace PhysicalPlan

variable {σ ω : Type} {registry : Registry σ ω} {context : Context} {clock : Nat → Nat}
  {plan : PhysicalPlan}

/-- Building the tree of the sink comes to an end, with twice as many levels as there are
connectors. -/
lemma Grounded.ends_buildNode (h : plan.Grounded) {depth : Nat}
    (hdepth : 2 * plan.connectors.length < depth) :
    (Scaffold.buildNode registry context (Scaffold.connect registry context plan depth)
      plan.root).Ends := by
  intro s
  have hahead : Scaffold.Ahead (Scaffold.connect registry context plan depth)
      fun rest _ => rest <:+ plan.root.endpoints :=
    { take := by
        intro x rest s hsuffix
        have hroot : plan.LeadsTo x.1 := by
          refine ⟨x.1, ?_, .refl⟩
          rw [PhysicalNode.asks_eq_map]
          exact List.mem_map_of_mem (hsuffix.subset List.mem_cons_self)
        have hnone : Scaffold.UnderWay plan ∅ x.1 s := ⟨by simp, by simp⟩
        refine (hnone.brings_connect h (by simpa using hdepth) hroot).mono ?_
        exact fun _ _ _ _ _ _ _ _ => (List.suffix_cons x rest).trans hsuffix
      same := fun _ _ _ _ => id }
  exact (hahead.brings_buildNode (l := []) (by simp)).ends

lemma Grounded.ends_buildPlan (h : plan.Grounded) :
    (Scaffold.buildPlan registry context plan).Ends := by
  refine (h.ends_buildNode (Nat.lt_succ_self _)).bind fun root => ?_
  exact ends_get.bind fun s => (ends_lift _).bind fun junctions => ends_pure _

lemma Grounded.isSome_tree? (h : plan.Grounded) : (plan.tree? registry context clock).isSome := by
  have hends : (Scaffold.buildPlan registry context plan).Ends := h.ends_buildPlan
  obtain ⟨⟨built, s⟩, houtcome⟩ :=
    Option.isSome_iff_exists.mp (hends ⟨[], plan.connectors.map fun _ => none⟩)
  rw [tree?]
  simp only [houtcome]
  rfl

/-- Building comes to an answer, which is a tree or an error, if no connector that the sink leads to
leads back to itself by way of what is asked for first. So many connectors are built above one
another at most as twice their number: to allow for more of them changes nothing.

The numbers of workers and endpoints are taken to be such that there is memory for them. No machine
has it for `2 ^ 59` workers of a node or `2 ^ 60` endpoints of a connector, where an allocation is
refused from the start and building breaks off without an answer. -/
theorem building_ends (h : plan.Grounded) :
    (∃ result, plan.tree? registry context clock = some result) ∧
      ∀ depth s, 2 * plan.connectors.length < depth →
        (Scaffold.buildNode registry context (Scaffold.connect registry context plan depth)
          plan.root).outcome s =
        (Scaffold.buildNode registry context (Scaffold.connect registry context plan
          (2 * plan.connectors.length + 1)) plan.root).outcome s := by
  refine ⟨Option.isSome_iff_exists.mp h.isSome_tree?, fun depth s hdepth => ?_⟩
  have hends : (Scaffold.buildNode registry context (Scaffold.connect registry context plan
      (2 * plan.connectors.length + 1)) plan.root).Ends := h.ends_buildNode (Nat.lt_succ_self _)
  obtain ⟨_, houtcome⟩ := Option.isSome_iff_exists.mp (hends s)
  rw [houtcome]
  exact (Scaffold.refines_buildNode (Scaffold.refines_connect hdepth) _).outcome_eq houtcome

end PhysicalPlan

/-- A plan with a connector whose producer reads it, but reads another one before. -/
def lateLoop : PhysicalPlan :=
  ⟨.node ⟨"sink", .tupleSink⟩ 1 [.endpoint ⟨"join", "sink"⟩ 1 0],
    [⟨0, .node ⟨"scan", .scanSource "docs"⟩ 1 [], 1⟩,
      ⟨1, .node ⟨"join", .join "page" "page" 1⟩ 1
        [.endpoint ⟨"scan", "join"⟩ 0 0, .endpoint ⟨"join", "join"⟩ 1 1], 2⟩]⟩

/-- The settings and an empty table. -/
def noDocs : Context :=
  ⟨{}, ⟨[("docs", ⟨⟨[⟨"page", .text⟩], by decide⟩, [], by decide⟩)]⟩⟩

/-- The connector asks for itself, but then it takes the endpoint of the other one twice, which is
an error. -/
theorem lateLoop_answered : lateLoop.Asks 1 1 ∧ lateLoop.Grounded ∧
    lateLoop.tree? (Registry.standard Pattern.engine) noDocs (fun _ => 0) =
      some (.error (.run (.endpointTaken 0 0))) := by
  have hfirst (c d : ConnectorId) (h : lateLoop.AsksFirst c d) : c = 1 ∧ d = 0 := by
    obtain ⟨spec, hspec, hhead⟩ := h
    match c with
    | 0 =>
      cases hspec
      cases hhead
    | 1 =>
      cases hspec
      cases hhead
      exact ⟨rfl, rfl⟩
    | _ + 2 => cases hspec
  have hgrounded : lateLoop.Grounded := by
    intro c _ hcycle
    obtain ⟨d, hcd, hdc⟩ := TransGen.head'_iff.mp hcycle
    obtain ⟨rfl, rfl⟩ := hfirst c d hcd
    rcases hdc.cases_head with heq | ⟨e, hde, -⟩
    · cases heq
    · cases (hfirst 0 e hde).1
  refine ⟨⟨_, rfl, by decide⟩, hgrounded, ?_⟩
  have hanswer : ∃ result, lateLoop.tree? (Registry.standard Pattern.engine) noDocs (fun _ => 0) =
      some result :=
    (PhysicalPlan.building_ends hgrounded).1
  obtain ⟨result, hresult⟩ := hanswer
  have herror : (lateLoop.tree? (Registry.standard Pattern.engine) noDocs fun _ => 0).map
      (fun built => match built with | .ok _ => none | .error e => some e) =
        some (some (.run (.endpointTaken 0 0))) := by
    decide +kernel
  rw [hresult] at herror ⊢
  cases result with
  | ok t => cases herror
  | error e =>
    simp only [Option.map_some, Option.some.injEq] at herror
    rw [herror]

end Dataflow
