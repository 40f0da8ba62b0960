import Dataflow.Pattern.Search
import Dataflow.Proofs.Tree.Planned

/-!
# Trees of valid plans are wired completely

The tree of a valid plan has a connector for each operator with several consumers, and each of
these reads the endpoint of its place among them. If there is no tree, an operator refuses the
schemas of its producers or no executor can be created for it.
-/

namespace Dataflow

open Act

variable {σ ω : Type} {registry : Registry σ ω} {context : Context} {clock : Nat → Nat}
  {v : ValidPlan} {workers : Nat} {physical : PhysicalPlan} {t : Tree σ ω}

namespace Scaffold

variable {s : Scaffold σ ω} {c : ConnectorId} {spec : ConnectorSpec} {junction : Junction}

/-- In the end every connector is there: one that is not would have to be asked for by the producer
of another one that is not there either. -/
lemma Planned.exists_junction (h : s.Planned v context physical ∅ [])
    (hrealizes : physical.Realizes v.plan v.sink workers)
    (hspec : physical.connector? c = some spec) :
    ∃ junction, s.junctions[c]? = some (some junction) := by
  by_contra hnone
  have hmissing : s.Missing c := by
    have hlt := h.lt_length hspec
    rw [Missing, List.getElem?_eq_getElem hlt, Option.some.injEq, ← Option.not_isSome_iff_eq_none,
      Option.isSome_iff_exists]
    rintro ⟨junction, hjunction⟩
    exact hnone ⟨junction, List.getElem?_eq_some_iff.mpr ⟨hlt, hjunction⟩⟩
  have hasked (d : ConnectorId) (hd : s.Missing d) : ∃ e, s.Missing e ∧ physical.Asks e d := by
    obtain ⟨spec', hspec'⟩ : ∃ spec', physical.connector? d = some spec' := by
      have hlt := (List.getElem?_eq_some_iff.mp hd).1
      exact ⟨_, List.getElem?_eq_getElem (h.length_eq ▸ hlt)⟩
    have hmem : (d, 0) ∈ physical.endpoints := by
      have htwo := hrealizes.two_le_endpoints hspec'
      exact (hrealizes.mem_endpoints_iff (Plan.holds_of_valid v .resolved)).mpr
        ⟨spec', hspec', by omega⟩
    have hwaits : s.Waits physical ∅ (d, 0) := by
      by_contra hnot
      obtain ⟨junction, hjunction, -⟩ := (h.used_iff _ hmem).mpr ⟨List.not_mem_nil, hnot⟩
      exact hd.not_built hjunction
    obtain ⟨e, reader, -, he, hreader, hread⟩ := hwaits
    refine ⟨e, he, reader, hreader, ?_⟩
    rw [PhysicalNode.asks_eq_map]
    exact List.mem_map_of_mem hread
  classical
  let missing := (List.range s.junctions.length).filter fun d => s.Missing d
  have hmem (d : ConnectorId) : d ∈ missing ↔ s.Missing d := by
    rw [List.mem_filter, List.mem_range, decide_eq_true_iff]
    exact and_iff_right_of_imp fun hd => (List.getElem?_eq_some_iff.mp hd).1
  obtain ⟨d, hcycle⟩ := Plan.exists_cycle (r := physical.Asks)
    (List.ne_nil_of_mem ((hmem c).mpr hmissing)) fun d hd => by
      obtain ⟨e, he, hasks⟩ := hasked d ((hmem d).mp hd)
      exact ⟨e, (hmem e).mpr he, hasks⟩
  exact hrealizes.not_asks_itself (Plan.holds_of_valid v .acyclic) d hcycle

lemma Planned.handedOut (h : s.Planned v context physical ∅ [])
    (hrealizes : physical.Realizes v.plan v.sink workers)
    (hjunction : s.junctions[c]? = some (some junction)) {i : Nat}
    (hi : i < junction.connector.endpoints.length) : junction.connector.HandedOut i := by
  obtain ⟨spec, hspec, hserves⟩ := h.serves c junction hjunction
  have hmem : (c, i) ∈ physical.endpoints :=
    (hrealizes.mem_endpoints_iff (Plan.holds_of_valid v .resolved)).mpr
      ⟨spec, hspec, hserves.length_eq ▸ hi⟩
  have hnot : ¬s.Waits physical ∅ (c, i) := by
    rintro ⟨d, spec', -, hd, hspec', -⟩
    obtain ⟨junction', hjunction'⟩ := h.exists_junction hrealizes hspec'
    exact hd.not_built hjunction'
  obtain ⟨junction', hjunction', hout⟩ := (h.used_iff _ hmem).mpr ⟨List.not_mem_nil, hnot⟩
  rw [hjunction] at hjunction'
  cases hjunction'
  exact hout

/-- So nothing is missing when the connectors are checked. -/
lemma Planned.exists_finished {loose : List Supply} (h : s.Planned v context physical ∅ [])
    (hrealizes : physical.Realizes v.plan v.sink workers) (hbalanced : s.Balanced loose) :
    ∃ junctions, finishJunctions s.junctions = .ok junctions := by
  match hfinished : finishJunctions s.junctions with
  | .ok junctions => exact ⟨junctions, rfl⟩
  | .error e =>
    rw [finishJunctions] at hfinished
    obtain ⟨⟨there, c⟩, hmem, herror⟩ := exists_of_mapM_eq_error hfinished
    have hthere := List.mem_zipIdx_iff_getElem?.mp hmem
    obtain ⟨spec, hspec⟩ : ∃ spec, physical.connector? c = some spec := by
      have hlt := (List.getElem?_eq_some_iff.mp hthere).1
      exact ⟨_, List.getElem?_eq_getElem (h.length_eq ▸ hlt)⟩
    obtain ⟨junction, hjunction⟩ := h.exists_junction hrealizes hspec
    rw [hthere, Option.some.injEq] at hjunction
    subst hjunction
    have hall : junction.connector.endpoints.countP Endpoint.taken =
        junction.connector.endpoints.length := by
      rw [List.countP_eq_length]
      intro e he
      obtain ⟨i, hi, rfl⟩ := List.getElem_of_mem he
      obtain ⟨e, he, htaken⟩ := h.handedOut hrealizes hthere hi
      rw [List.getElem?_eq_getElem hi, Option.some.injEq] at he
      exact he ▸ htaken
    have hlength := (hbalanced.junctions c junction hthere).2
    simp only [hlength, hall, Connector.size] at herror
    cases herror

/-- A plan is built with nothing missing, unless something is rejected. -/
lemma answers_buildPlan (registry : Registry σ ω) (context : Context)
    (hrealizes : physical.Realizes v.plan v.sink workers) :
    (buildPlan registry context physical).Answers ⟨[], physical.connectors.map fun _ => none⟩
      (Stopped registry context v) fun made s => s.Planned v context physical ∅ [] ∧
        finishJunctions s.junctions = .ok made.2 := by
  have hconnect : Connects registry context v physical ∅
      (fun c => ∃ spec, physical.connector? c = some spec)
      (connect registry context physical (2 * physical.connectors.length + 1)) :=
    ⟨fun _ _ hresembles => resembles_connect hrealizes.linked _ hresembles,
      fun _ _ _ ⟨_, hspec⟩ hresembles h =>
        answers_connect hrealizes _ (fun _ hd => hd.elim) hspec hresembles h⟩
  have hmem (m : PhysicalNode) (hm : m ∈ physical.root.all) : m ∈ physical.nodes :=
    List.mem_append_left _ hm
  have hasks (c : ConnectorId) (hc : c ∈ physical.root.asks) :
      ∃ spec, physical.connector? c = some spec := by
    obtain ⟨spec, hspec, -⟩ := hrealizes.feeds_of_asks hmem hc
    exact ⟨spec, hspec⟩
  have hstart : Planned v context physical ∅ (physical.root.endpoints ++ [])
      (⟨[], physical.connectors.map fun _ => none⟩ : Scaffold σ ω) := by
    rw [List.append_nil]
    exact .start hrealizes
  have hroot := hconnect.answers_buildNode hrealizes hmem hasks resembles_start hstart
  refine (hroot.and_gives balanced_root).bind fun root s' ⟨h', hbalanced⟩ => ?_
  obtain ⟨junctions, hfinished⟩ := h'.exists_finished hrealizes hbalanced
  refine after_get_bind.mpr (answers_lift_bind (fun e herror => ?_) fun junctions' hfinished' =>
    answers_pure ⟨h', hfinished'⟩)
  rw [hfinished] at herror
  cases herror

end Scaffold

/-- The tree of a valid plan has the connectors of its physical plan, unless something is
rejected. -/
lemma ValidPlan.tree?_serves (registry : Registry σ ω) (context : Context) (clock : Nat → Nat)
    (hphysical : v.physical workers = .ok physical) :
    match physical.tree? registry context clock with
    | none => False
    | some (.error e) => ∃ s, (Scaffold.buildPlan registry context physical).outcome
          ⟨[], physical.connectors.map fun _ => none⟩ = some (.error e, s) ∧
        Scaffold.Stopped registry context v e s
    | some (.ok t) => List.Forall₂ (fun spec junction =>
        junction.Serves v context.catalog.schemas spec ∧
          junction.consumers.length = spec.endpoints) physical.connectors t.junctions := by
  have hrealizes := ValidPlan.realizes_of_physical hphysical
  have hplan := Scaffold.answers_buildPlan registry context hrealizes
  have hsome : (physical.tree? registry context clock).isSome = true :=
    (hrealizes.grounded (Plan.holds_of_valid v .acyclic)).isSome_tree?
  rw [PhysicalPlan.tree?] at hsome ⊢
  rcases houtcome : (Scaffold.buildPlan registry context physical).outcome
    ⟨[], physical.connectors.map fun _ => none⟩ with _ | ⟨e | ⟨root, junctions⟩, s⟩
  · rw [houtcome] at hsome
    cases hsome
  · exact ⟨s, rfl, hplan.of_outcome_error houtcome⟩
  · obtain ⟨h, hfinished⟩ := hplan.of_outcome_ok houtcome
    obtain ⟨hjunctions, hlength⟩ := Scaffold.finishJunctions_eq_ok hfinished
    refine List.forall₂_iff_get.mpr ⟨?_, fun c hc hc' => ?_⟩
    · have hlength := h.length_eq
      rw [hjunctions, List.length_map] at hlength
      exact hlength.symm
    · obtain ⟨spec, hspec, hserves⟩ := h.serves c (junctions.get ⟨c, hc'⟩) (by
        rw [hjunctions, List.getElem?_map, List.getElem?_eq_getElem hc']
        rfl)
      have heq : physical.connectors.get ⟨c, hc⟩ = spec :=
        (List.getElem?_eq_some_iff.mp hspec).2
      rw [heq]
      exact ⟨hserves, (hlength _ (List.get_mem ..)).trans hserves.length_eq⟩

/-- An error tells of a connector that is not there or not in use, or of an endpoint that is not
there or was taken. -/
def Error.OfWiring : Error → Prop
  | .run (.unknownConnector _) | .run (.noSuchEndpoint ..) | .run (.endpointTaken ..)
  | .run (.unusedConnector _) | .run (.unusedEndpoints ..) => True
  | _ => False

lemma Error.OfWiring.exists_run {e : Error} (h : e.OfWiring) : ∃ cause, e = .run cause := by
  match e with
  | .run cause => exact ⟨cause, rfl⟩

lemma ValidPlan.Rejected.exists_make {e : Error} (h : v.Rejected registry context e)
    (hwiring : e.OfWiring) : ∃ r make, v.Requests context r ∧
      registry.get? r.operator.kind.tag = some make ∧ make r = .error e := by
  obtain ⟨cause, rfl⟩ := hwiring.exists_run
  rcases h with ⟨operator, -, inputs, -, herror⟩ | ⟨r, hr, hdeclines⟩
  · exact (Operator.outputSchema_ne_run (fun _ => Catalog.schemas_ne_run) herror).elim
  · cases hdeclines with
    | refused hmake herror => exact ⟨r, _, hr, hmake, herror⟩
    | notASource => exact hwiring.elim
    | notAnOperator => exact hwiring.elim

/-- Building the tree of a valid plan comes to an end. It fails only where something is rejected,
and never for a connector or an endpoint unless a factory says so. In the tree there is a connector
for each operator with several consumers, and each consumer reads the endpoint of its place among
them. -/
theorem ValidPlan.tree?_wired (registry : Registry σ ω) (context : Context) (clock : Nat → Nat)
    (hphysical : v.physical workers = .ok physical) :
    match physical.tree? registry context clock with
    | none => False
    | some (.error e) => v.Rejected registry context e ∧
        (e.OfWiring → ∃ r make, v.Requests context r ∧
          registry.get? r.operator.kind.tag = some make ∧ make r = .error e)
    | some (.ok t) =>
        (t.junctions.map (·.connector.producer)).Perm
          (v.plan.ids.filter fun id => 2 ≤ (v.plan.consumersOf id).length) ∧
        ∀ junction ∈ t.junctions, junction.consumers.Perm
          (v.plan.consumersOf junction.connector.producer).zipIdx := by
  have hserves := ValidPlan.tree?_serves registry context clock hphysical
  have hrealizes := ValidPlan.realizes_of_physical hphysical
  match htree : physical.tree? registry context clock with
  | none =>
    rw [htree] at hserves
    exact hserves
  | some (.error e) =>
    rw [htree] at hserves
    obtain ⟨_, -, hstopped⟩ := hserves
    exact ⟨hstopped.rejected, hstopped.rejected.exists_make⟩
  | some (.ok t) =>
    rw [htree] at hserves
    have hproducers : t.junctions.map (·.connector.producer) =
        physical.connectors.map (·.producer.id) := by
      rw [← List.forall₂_eq_eq_eq, List.forall₂_map_left_iff, List.forall₂_map_right_iff]
      exact hserves.flip.imp fun _ _ h => h.1.producer_eq
    refine ⟨?_, fun junction hjunction => ?_⟩
    · rw [hproducers, List.perm_ext_iff_of_nodup hrealizes.nodup_producers
        (v.plan.nodup_ids.filter _)]
      intro id
      rw [hrealizes.mem_producers, List.mem_filter, decide_eq_true_iff]
      refine (and_iff_right_of_imp fun htwo => ?_).symm
      have hpos : 0 < (v.plan.consumersOf id).length := by omega
      obtain ⟨c, hc⟩ := List.exists_mem_of_length_pos hpos
      exact ((Plan.holds_of_valid v .resolved).ids_of_feeds (Plan.mem_consumersOf.mp hc)).1
    · obtain ⟨spec, hspec, hjoined, hlength⟩ := exists_of_forall₂_right hserves hjunction
      rw [hjoined.producer_eq]
      have hsubset : junction.consumers ⊆ (v.plan.consumersOf spec.producer.id).zipIdx :=
        fun y hy => List.mem_zipIdx_iff_getElem?.mpr (hjoined.consumers y hy)
      refine (hjoined.nodup.subperm hsubset).perm_of_length_le ?_
      rw [List.length_zipIdx, hlength, hrealizes.endpoints_eq spec hspec]

/-- Pages that are joined with themselves, twice: both the pages and their pairs are read by two
projections. -/
def pairedPages : Plan where
  operators := [⟨"again", .join "page" "page" 1⟩, ⟨"first", .projection ["page"]⟩,
    ⟨"left", .projection ["page"]⟩, ⟨"pairs", .join "page" "page" 1⟩,
    ⟨"right", .projection ["page"]⟩, ⟨"scan", .scanSource "docs"⟩,
    ⟨"second", .projection ["page"]⟩, ⟨"sink", .tupleSink⟩]
  links := [⟨"scan", "left"⟩, ⟨"scan", "right"⟩, ⟨"left", "pairs"⟩, ⟨"right", "pairs"⟩,
    ⟨"pairs", "second"⟩, ⟨"pairs", "first"⟩, ⟨"first", "again"⟩, ⟨"second", "again"⟩,
    ⟨"again", "sink"⟩]
  ascending := by
    unfold Ascending
    decide
  distinct := by decide

/-- The plan with its order and its sink. -/
def pairedPagesPlan : ValidPlan where
  plan := pairedPages
  order := ["scan", "left", "right", "pairs", "first", "second", "again", "sink"]
  sink := "sink"
  checked := by decide +kernel

/-- The physical plan, in which the producer of one connector reads the other one. -/
def pairedPagesNodes : PhysicalPlan :=
  match pairedPagesPlan.physical 1 with
  | .ok physical => physical
  | .error _ => ⟨.node ⟨"sink", .tupleSink⟩ 1 [], []⟩

/-- Both connectors are there. That of the pairs is read by the second projection at its endpoint 0
and by the first one at 1, in the order of the links. -/
theorem pairedPages_wired : ∃ t, pairedPagesPlan.physical 1 = .ok pairedPagesNodes ∧
    pairedPagesNodes.tree? (Registry.standard Pattern.engine) noDocs (fun _ => 0) = some (.ok t) ∧
    (t.junctions.map (·.connector.producer)).Perm ["pairs", "scan"] ∧
    ∀ junction ∈ t.junctions, junction.connector.producer = "pairs" →
      junction.consumers.Perm [("second", 0), ("first", 1)] := by
  have hphysical : pairedPagesPlan.physical 1 = .ok pairedPagesNodes := rfl
  have hbuilt : ((pairedPagesNodes.tree? (Registry.standard Pattern.engine) noDocs fun _ => 0).bind
      Except.toOption).isSome = true := by
    decide +kernel
  obtain ⟨t, htree⟩ := Option.isSome_iff_exists.mp hbuilt
  simp only [Option.bind_eq_some_iff, toOption_eq_some_iff] at htree
  obtain ⟨_, htree, rfl⟩ := htree
  -- The plan is not to be unfolded any more.
  generalize pairedPagesNodes = nodes at hphysical htree ⊢
  have hwired := ValidPlan.tree?_wired (.standard Pattern.engine) noDocs (fun _ => 0) hphysical
  rw [htree] at hwired
  obtain ⟨hproducers, hconsumers⟩ := hwired
  have hids : pairedPagesPlan.plan.ids.filter (fun id =>
      2 ≤ (pairedPagesPlan.plan.consumersOf id).length) = ["pairs", "scan"] := by
    decide +kernel
  rw [hids] at hproducers
  refine ⟨t, hphysical, htree, hproducers, fun junction hjunction hpairs => ?_⟩
  have hperm := hconsumers junction hjunction
  rw [hpairs] at hperm
  exact hperm

end Dataflow
