import Mathlib.Logic.Relation
import Dataflow.Proofs.Act
import Dataflow.Tree.Build

/-!
# How building goes on

Building follows the tree of a physical node, and goes aside for a connector that is not there yet.
What every single step preserves is thus preserved by the whole. A connector that is being built
is not built by the way: it would have to ask for itself, and that never comes to an end.
-/

namespace Dataflow

mutual

/-- The connectors that a physical node asks for. -/
def PhysicalNode.asks : PhysicalNode → List ConnectorId
  | .node _ _ inputs => PhysicalInput.asksOf inputs

/-- The connectors that a list of inputs asks for. -/
def PhysicalInput.asksOf : List PhysicalInput → List ConnectorId
  | [] => []
  | .direct _ node :: inputs => node.asks ++ PhysicalInput.asksOf inputs
  | .endpoint _ c _ :: inputs => c :: PhysicalInput.asksOf inputs

end

namespace Scaffold

open Act

variable {σ ω : Type} {registry : Registry σ ω} {context : Context} {plan : PhysicalPlan}
  {s s' : Scaffold σ ω} {depth : Nat}

/-- The schema that a supply is seen with. -/
def seen (s : Scaffold σ ω) : Supply → Schema
  | .node place => (s.nodes[place]?.map Node.schema).getD .empty
  | .endpoint c _ =>
    (s.junctions[c]?.join.map fun junction => junction.connector.schema).getD .empty

@[simp] lemma gives_schemaOf {supply : Supply} {want : Schema → Scaffold σ ω → Prop} :
    (schemaOf supply : Build σ ω Schema).Gives s want ↔ want (s.seen supply) s := by
  rw [schemaOf, gives_bind, gives_get]
  cases supply <;> exact gives_pure

@[simp] lemma gives_mapM_schemaOf {slots : List Slot} {want : List Schema → Scaffold σ ω → Prop} :
    (slots.mapM fun slot => schemaOf slot.supply : Build σ ω (List Schema)).Gives s want ↔
      want (slots.map fun slot => s.seen slot.supply) s := by
  induction slots generalizing want with
  | nil => exact gives_pure
  | cons slot slots ih =>
    rw [List.mapM_cons, gives_bind, gives_schemaOf, gives_bind, ih, gives_pure, List.map_cons]

lemma outcome_schemaOf (supply : Supply) (s : Scaffold σ ω) :
    (schemaOf supply : Build σ ω Schema).outcome s = some (.ok (s.seen supply), s) := by
  cases supply <;> rfl

lemma outcome_mapM_schemaOf (slots : List Slot) (s : Scaffold σ ω) :
    (slots.mapM fun slot => schemaOf slot.supply : Build σ ω (List Schema)).outcome s =
      some (.ok (slots.map fun slot => s.seen slot.supply), s) := by
  induction slots with
  | nil => rfl
  | cons slot slots ih =>
    rw [List.mapM_cons, outcome_bind, outcome_schemaOf, andThen, outcome_bind, ih]
    rfl

lemma gives_createNode {operator : Operator} {workers : Nat} {slots : List Slot}
    {want : Nat → Scaffold σ ω → Prop}
    (h : ∀ schema crew,
      operator.outputSchema context.catalog.schemas (slots.map fun slot => s.seen slot.supply) =
        .ok schema →
      createCrew registry context operator workers slots (slots.map fun slot => s.seen slot.supply)
        schema = .ok crew →
      want s.nodes.length { s with nodes := s.nodes ++ [⟨operator, schema, .unopened, crew⟩] }) :
    (createNode registry context operator workers slots).Gives s want := by
  rw [createNode, gives_bind, gives_mapM_schemaOf, gives_bind, gives_lift]
  intro schema hschema
  rw [gives_bind, gives_lift]
  intro crew hcrew
  rw [addNode, gives_bind, gives_get, gives_bind, gives_set, gives_pure]
  exact h schema crew hschema hcrew

/-- An endpoint is taken from a connector that is there. -/
lemma gives_joinEndpoint {c : ConnectorId} {i : Nat} {consumer : OperatorId}
    {want : Scaffold σ ω → Prop}
    (h : ∀ junction connector, s.junctions[c]? = some (some junction) →
      junction.connector.take i = .ok connector →
      want { s with junctions := s.junctions.set c (some
        ⟨connector, junction.producer, junction.consumers ++ [(consumer, i)]⟩) }) :
    (joinEndpoint c i consumer : Build σ ω Unit).Gives s fun _ => want := by
  rw [joinEndpoint, gives_bind, gives_get]
  match hc : s.junctions[c]?.join with
  | none => exact gives_throw
  | some junction =>
    simp only
    rw [gives_bind, gives_lift]
    intro connector htake
    exact gives_set.mpr (h junction connector (Option.join_eq_some_iff.mp hc) htake)

/-- Every step of building preserves `P`, which speaks of what is still to be consumed. Connectors
with `A` may be asked for, and one that was built has `B`. -/
structure Along (registry : Registry σ ω) (context : Context)
    (connect : ConnectorId → Build σ ω Unit) (A B : ConnectorId → Prop)
    (P : List Supply → Scaffold σ ω → Prop) : Prop where
  connect : ∀ loose s c, A c → P loose s → (connect c).Gives s fun _ s' => B c ∧ P loose s'
  join : ∀ loose s c i consumer, A c → P loose s →
    (joinEndpoint c i consumer).Gives s fun _ s' => P (loose ++ [.endpoint c i]) s'
  create : ∀ loose s operator workers slots, (∀ slot ∈ slots, slot.exhausted = false) →
    P (loose ++ slots.map Slot.supply) s →
    (createNode registry context operator workers slots).Gives s fun place s' =>
      P (loose ++ [.node place]) s'

section Along

variable {connect : ConnectorId → Build σ ω Unit} {A B : ConnectorId → Prop}
  {P : List Supply → Scaffold σ ω → Prop}

mutual

lemma Along.gives_buildNode (hsteps : Along registry context connect A B P) {n : PhysicalNode}
    {l : List Supply} {s : Scaffold σ ω} (hasks : ∀ c ∈ n.asks, A c) (h : P l s) :
    (buildNode registry context connect n).Gives s fun place s' =>
      (∀ c ∈ n.asks, B c) ∧ P (l ++ [.node place]) s' := by
  match n with
  | .node operator workers inputs =>
    rw [PhysicalNode.asks] at hasks ⊢
    rw [buildNode, gives_bind]
    refine (hsteps.gives_buildInputs operator.id hasks h).mono ?_
    rintro slots s' ⟨hbuilt, hfresh, h'⟩
    exact (hsteps.create l s' operator workers slots hfresh h').mono fun _ _ h'' => ⟨hbuilt, h''⟩

lemma Along.gives_buildInputs (hsteps : Along registry context connect A B P)
    (consumer : OperatorId) {inputs : List PhysicalInput} {loose : List Supply}
    {s : Scaffold σ ω} (hasks : ∀ c ∈ PhysicalInput.asksOf inputs, A c) (h : P loose s) :
    (buildInputs registry context connect consumer inputs).Gives s fun slots s' =>
      (∀ c ∈ PhysicalInput.asksOf inputs, B c) ∧ (∀ slot ∈ slots, slot.exhausted = false) ∧
        P (loose ++ slots.map Slot.supply) s' := by
  match inputs with
  | [] =>
    rw [buildInputs]
    refine gives_pure.mpr ⟨fun _ => List.not_mem_nil.elim, fun _ => List.not_mem_nil.elim, ?_⟩
    rwa [List.map_nil, List.append_nil]
  | .direct link node :: inputs =>
    rw [PhysicalInput.asksOf] at hasks ⊢
    obtain ⟨hnode, hinputs⟩ := List.forall_mem_append.mp hasks
    rw [buildInputs, gives_bind]
    refine (hsteps.gives_buildNode hnode h).mono fun place s' ⟨hbuilt, h'⟩ => ?_
    rw [gives_bind]
    refine (hsteps.gives_buildInputs consumer hinputs h').mono ?_
    rintro slots s'' ⟨hbuilt', hfresh, h''⟩
    refine gives_pure.mpr ⟨List.forall_mem_append.mpr ⟨hbuilt, hbuilt'⟩,
      List.forall_mem_cons.mpr ⟨rfl, hfresh⟩, ?_⟩
    rwa [List.map_cons, List.append_cons]
  | .endpoint link c i :: inputs =>
    rw [PhysicalInput.asksOf] at hasks ⊢
    obtain ⟨hc, hinputs⟩ := List.forall_mem_cons.mp hasks
    rw [buildInputs, gives_bind]
    refine (hsteps.connect loose s c hc h).mono fun _ s' ⟨hbuilt, h'⟩ => ?_
    rw [gives_bind]
    refine (hsteps.join loose s' c i consumer hc h').mono fun _ s'' h'' => ?_
    rw [gives_bind]
    refine (hsteps.gives_buildInputs consumer hinputs h'').mono ?_
    rintro slots s₃ ⟨hbuilt', hfresh, h₃⟩
    refine gives_pure.mpr ⟨List.forall_mem_cons.mpr ⟨hbuilt, hbuilt'⟩,
      List.forall_mem_cons.mpr ⟨rfl, hfresh⟩, ?_⟩
    rwa [List.map_cons, List.append_cons]

end

end Along

/-- A connector of the plan that is not there yet. -/
def Missing (s : Scaffold σ ω) (c : ConnectorId) : Prop :=
  s.junctions[c]? = some none

lemma Missing.not_built {c : ConnectorId} {junction : Junction} (h : s.Missing c) :
    s.junctions[c]? ≠ some (some junction) := by
  rw [h]
  exact nofun

lemma missing_set_iff {c d : ConnectorId} {junction : Junction} (hlt : d < s.junctions.length) :
    Missing { s with junctions := s.junctions.set d (some junction) } c ↔ c ≠ d ∧ s.Missing c := by
  by_cases hdc : d = c
  · subst hdc
    simp [Missing, List.getElem?_set_self hlt]
  · simp [Missing, List.getElem?_set_ne hdc, Ne.symm hdc]

lemma missing_set_iff_of_built {c d : ConnectorId} {junction junction' : Junction}
    (hjunction : s.junctions[d]? = some (some junction)) :
    Missing { s with junctions := s.junctions.set d (some junction') } c ↔ s.Missing c := by
  refine (missing_set_iff (List.getElem?_eq_some_iff.mp hjunction).1).trans
    (and_iff_right_of_imp ?_)
  rintro hc rfl
  exact hc.not_built hjunction

/-- A connector that is not there yet asks for another when its producer is built. -/
def AsksFor (plan : PhysicalPlan) (s : Scaffold σ ω) (c d : ConnectorId) : Prop :=
  s.Missing c ∧ ∃ spec, plan.connector? c = some spec ∧ d ∈ spec.producer.asks

/-- Connectors may have been added, but not those of a given kind. -/
structure Spares (W : ConnectorId → Prop) (s s' : Scaffold σ ω) : Prop where
  missing : ∀ c, s'.Missing c → s.Missing c
  spared : ∀ c, W c → s.Missing c → s'.Missing c

section Spares

variable {W : ConnectorId → Prop} {s₀ : Scaffold σ ω}

lemma Spares.refl : Spares W s s :=
  ⟨fun _ => id, fun _ _ => id⟩

lemma Spares.trans {s'' : Scaffold σ ω} (h : Spares W s s') (h' : Spares W s' s'') :
    Spares W s s'' :=
  ⟨fun c hc => h.missing c (h'.missing c hc), fun c hW hc => h'.spared c hW (h.spared c hW hc)⟩

lemma spares_of_junctions (h : s'.junctions = s.junctions) : Spares W s s' :=
  ⟨fun c => by rw [Missing, Missing, h]; exact id, fun c _ => by rw [Missing, Missing, h]; exact id⟩

lemma spares_createNode {operator : Operator} {workers : Nat} {slots : List Slot}
    (h : Spares W s₀ s) :
    (createNode registry context operator workers slots).Gives s fun _ s' => Spares W s₀ s' :=
  gives_createNode fun _ _ _ _ => h.trans (spares_of_junctions rfl)

lemma spares_joinEndpoint {c : ConnectorId} {i : Nat} {consumer : OperatorId}
    (h : Spares W s₀ s) :
    (joinEndpoint c i consumer : Build σ ω Unit).Gives s fun _ s' => Spares W s₀ s' := by
  refine gives_joinEndpoint fun junction connector hsome _ => h.trans ⟨fun d => ?_, fun d _ => ?_⟩
  · exact (missing_set_iff_of_built hsome).mp
  · exact (missing_set_iff_of_built hsome).mpr

/-- Building along connectors that must not be spared keeps those that must be. -/
lemma along_spares {connect : ConnectorId → Build σ ω Unit} {A B : ConnectorId → Prop}
    (hconnect : ∀ s c, A c → Spares W s₀ s →
      (connect c).Gives s fun _ s' => B c ∧ Spares W s₀ s') :
    Along registry context connect A B fun _ s => Spares W s₀ s where
  connect := fun _ s c => hconnect s c
  join := fun _ _ _ _ _ _ h => spares_joinEndpoint h
  create := fun _ _ _ _ _ _ h => spares_createNode h

/-- What a connector does to the others: it is there in the end, and its producer was built. -/
lemma gives_connectWith {connect : ConnectorId → Build σ ω Unit} {c : ConnectorId}
    {want : Scaffold σ ω → Prop}
    (hbuilt : ∀ junction, s.junctions[c]? = some (some junction) → want s)
    (hnew : ∀ spec, s.Missing c → plan.connector? c = some spec →
      (buildNode registry context connect spec.producer).Gives s fun place s' =>
        ∀ connector, Connector.create c spec.producer.id (s'.seen (.node place)) spec.endpoints =
          .ok connector →
          want { s' with junctions := s'.junctions.set c (some ⟨connector, place, []⟩) }) :
    (connectWith registry context plan connect c).Gives s fun _ => want := by
  rw [connectWith, gives_bind, gives_get]
  match hc : s.junctions[c]?, hspec : plan.connector? c with
  | some (some junction), _ => exact gives_pure.mpr (hbuilt junction hc)
  | some none, some spec =>
    simp only
    rw [gives_bind]
    refine (hnew spec hc hspec).mono fun place s' hwant => ?_
    rw [gives_bind, gives_schemaOf, gives_bind, gives_lift]
    intro connector hconnector
    exact gives_modify.mpr (hwant connector hconnector)
  | none, _ => exact gives_throw
  | some none, none => exact gives_throw

/-- Connectors that nothing else asks for are spared when something else is built. -/
lemma spares_connect (hW : ∀ c d, ¬W c → AsksFor plan s₀ c d → ¬W d) (depth : Nat)
    {c : ConnectorId} (hc : ¬W c) (h : Spares W s₀ s) :
    (connect registry context plan depth c).Gives s fun _ s' => Spares W s₀ s' := by
  induction depth generalizing c s with
  | zero => exact gives_endless
  | succ depth ih =>
    refine gives_connectWith (fun _ _ => h) fun spec hmissing hspec => ?_
    have halong : Along registry context (connect registry context plan depth) (fun c => ¬W c)
        (fun _ => True) fun _ s => Spares W s₀ s :=
      along_spares fun s c hc h => (ih hc h).mono fun _ _ h' => ⟨trivial, h'⟩
    refine (halong.gives_buildNode (l := []) (fun d hd => ?_) h).mono ?_
    · exact hW c d hc ⟨h.missing c hmissing, spec, hspec, hd⟩
    · rintro place s' ⟨-, h'⟩ connector -
      refine h'.trans ⟨fun d => ?_, fun d hd => ?_⟩
      · simp only [Missing, List.getElem?_set]
        split_ifs <;> simp_all
      · have hne : c ≠ d := fun heq => hc (heq ▸ hd)
        simp only [Missing, List.getElem?_set_ne hne]
        exact id

/-- Connectors each of which asks for another one of them are never built. -/
lemma not_connect (hW : ∀ c d, ¬W c → AsksFor plan s₀ c d → ¬W d)
    (hmissing : ∀ c, W c → s₀.Missing c)
    (htrap : ∀ c spec, W c → plan.connector? c = some spec → ∃ d ∈ spec.producer.asks, W d)
    (depth : Nat) {c : ConnectorId} (h : Spares W s₀ s) :
    (connect registry context plan depth c).Gives s fun _ s' => ¬W c ∧ Spares W s₀ s' := by
  induction depth generalizing c s with
  | zero => exact gives_endless
  | succ depth ih =>
    by_cases hc : W c
    · refine gives_connectWith (fun junction hjunction => ?_) fun spec _ hspec => ?_
      · have hold := h.spared c hc (hmissing c hc)
        rw [Missing, hjunction] at hold
        cases hold
      · have halong : Along registry context (connect registry context plan depth)
            (fun _ => True) (fun c => ¬W c) fun _ s => Spares W s₀ s :=
          along_spares fun s c _ h => ih h
        refine (halong.gives_buildNode (l := []) (fun _ _ => trivial) h).mono ?_
        rintro place s' ⟨hnone, -⟩
        obtain ⟨d, hd, hWd⟩ := htrap c spec hc hspec
        exact (hnone d hd hWd).elim
    · exact (spares_connect hW (depth + 1) hc h).mono fun _ _ h' => ⟨hc, h'⟩

/-- Building the producer of a connector does not build the connector by the way. -/
theorem missing_after_buildNode {c : ConnectorId} {spec : ConnectorSpec} (depth : Nat)
    (hmissing : s.Missing c) (hspec : plan.connector? c = some spec) :
    (buildNode registry context (connect registry context plan depth) spec.producer).Gives s
      fun _ s' => s'.Missing c := by
  -- The connectors that lead to this one through connectors that are not there yet.
  let W (d : ConnectorId) : Prop := Relation.ReflTransGen (AsksFor plan s) d c
  have hW (d e : ConnectorId) (hd : ¬W d) (hasks : AsksFor plan s d e) : ¬W e :=
    fun he => hd (.head hasks he)
  have hmissingW (d : ConnectorId) (hd : W d) : s.Missing d := by
    rcases Relation.ReflTransGen.cases_head hd with rfl | ⟨e, hasks, -⟩
    · exact hmissing
    · exact hasks.1
  by_cases hself : ∃ d ∈ spec.producer.asks, W d
  · have htrap (d : ConnectorId) (spec' : ConnectorSpec) (hd : W d)
        (hspec' : plan.connector? d = some spec') : ∃ e ∈ spec'.producer.asks, W e := by
      rcases Relation.ReflTransGen.cases_head hd with rfl | ⟨e, ⟨-, spec'', hspec'', hasks⟩, he⟩
      · rw [hspec, Option.some.injEq] at hspec'
        exact hspec' ▸ hself
      · rw [hspec', Option.some.injEq] at hspec''
        exact ⟨e, hspec'' ▸ hasks, he⟩
    have halong : Along registry context (connect registry context plan depth)
        (fun _ => True) (fun c => ¬W c) fun _ s' => Spares W s s' :=
      along_spares fun _ _ _ h => not_connect hW hmissingW htrap depth h
    refine (halong.gives_buildNode (l := []) (fun _ _ => trivial) .refl).mono ?_
    rintro place s' ⟨hnone, -⟩
    obtain ⟨d, hd, hWd⟩ := hself
    exact (hnone d hd hWd).elim
  · have halong : Along registry context (connect registry context plan depth)
        (fun c => ¬W c) (fun _ => True) fun _ s' => Spares W s s' :=
      along_spares fun _ _ hd h => (spares_connect hW depth hd h).mono fun _ _ h' => ⟨trivial, h'⟩
    refine (halong.gives_buildNode (l := []) (fun d hd hWd => hself ⟨d, hd, hWd⟩) .refl).mono ?_
    rintro place s' ⟨-, h⟩
    exact h.spared c .refl hmissing

end Spares

end Scaffold

end Dataflow
