import Dataflow.Proofs.Meaning.Runs
import Dataflow.Proofs.Wire.Physical

/-!
# How deep physical plans nest

A node that stands right under another one is written four levels below it, so the text of a
physical plan nests as deep as its nodes stand in one another. The plan of a submission is therefore
read back as long as at most thirty operators stand in one another without a connector between them,
however many connectors there are; but where operators follow each other in a longer row, the text
is refused.
-/

namespace Dataflow

mutual

/-- The most nodes that stand in one another, from a node on. -/
def PhysicalNode.height : PhysicalNode → Nat
  | .node _ _ inputs => PhysicalInput.heightOf inputs + 1

/-- The most nodes that stand in one another under a list of inputs. -/
def PhysicalInput.heightOf : List PhysicalInput → Nat
  | [] => 0
  | .direct _ node :: inputs => max node.height (PhysicalInput.heightOf inputs)
  | .endpoint .. :: inputs => PhysicalInput.heightOf inputs

end

lemma PhysicalInput.depth_toJson_direct (link : Link) (node : PhysicalNode) :
    (direct link node).toJson.depth = max 1 node.toJson.depth + 2 := by
  simp [toJson, Json.depth, Json.membersDepth, link.depth_toJson]

lemma PhysicalInput.depth_toJson_endpoint (link : Link) (c : ConnectorId) (i : Nat) :
    (endpoint link c i).toJson.depth = 3 := by
  simp [toJson, Json.depth, Json.membersDepth, Json.nat, link.depth_toJson]

mutual

/-- Each node costs four levels, but a node that has no other under it may save some. -/
lemma PhysicalNode.depth_toJson_bounds (n : PhysicalNode) :
    4 * n.height ≤ n.toJson.depth + 2 ∧ n.toJson.depth ≤ 4 * n.height + 1 := by
  match n with
  | .node operator workers inputs =>
    have hoperator := operator.depth_toJson_le
    have hinputs := PhysicalInput.itemsDepth_bounds inputs
    simp only [PhysicalNode.toJson, PhysicalNode.height, PhysicalInput.allToJson_eq_map, Json.depth,
      Json.membersDepth, Json.nat]
    omega

lemma PhysicalInput.itemsDepth_bounds (inputs : List PhysicalInput) :
    4 * PhysicalInput.heightOf inputs ≤ Json.itemsDepth (inputs.map PhysicalInput.toJson) ∧
      Json.itemsDepth (inputs.map PhysicalInput.toJson) ≤
        4 * PhysicalInput.heightOf inputs + 3 := by
  match inputs with
  | [] => simp [PhysicalInput.heightOf, Json.itemsDepth]
  | .direct link node :: inputs =>
    have hnode := PhysicalNode.depth_toJson_bounds node
    have hinputs := PhysicalInput.itemsDepth_bounds inputs
    rw [List.map_cons, Json.itemsDepth, PhysicalInput.depth_toJson_direct, PhysicalInput.heightOf]
    omega
  | .endpoint link c i :: inputs =>
    have hinputs := PhysicalInput.itemsDepth_bounds inputs
    rw [List.map_cons, Json.itemsDepth, PhysicalInput.depth_toJson_endpoint, PhysicalInput.heightOf]
    omega

end

lemma PhysicalPlan.depth_toJson_le_iff (p : PhysicalPlan) {room : Nat} :
    p.toJson.depth ≤ room + 3 ↔
      p.root.toJson.depth ≤ room + 2 ∧ ∀ c ∈ p.connectors, c.producer.toJson.depth ≤ room := by
  rw [toJson, Json.depth_object_le_iff]
  simp only [List.forall_mem_cons, Json.depth, Nat.add_le_add_iff_right, Json.itemsDepth_le_iff,
    List.forall_mem_map, ConnectorSpec.toJson, Json.membersDepth, Json.nat]
  simp

/-- So many operators stand in a row before an operator, each of which feeds only the next one. -/
def Plan.Row (p : Plan) : Nat → OperatorId → Prop
  | 0, _ => True
  | count + 1, id =>
    ∃ producer, p.Feeds producer id ∧ (p.consumersOf producer).length = 1 ∧ p.Row count producer

lemma PhysicalInput.lt_heightOf_iff {inputs : List PhysicalInput} {count : Nat} :
    count < heightOf inputs ↔ ∃ link n, .direct link n ∈ inputs ∧ count < n.height := by
  induction inputs with
  | nil => simp [heightOf]
  | cons input inputs ih =>
    cases input with
    | direct link n => simp [heightOf, ih, or_and_right, exists_or]
    | endpoint link c i => simp [heightOf, ih]

lemma PhysicalNode.lt_height_iff {n : PhysicalNode} {count : Nat} :
    count + 1 < n.height ↔ ∃ link m, .direct link m ∈ n.inputs ∧ count < m.height := by
  cases n with
  | node operator workers inputs =>
    rw [height, Nat.add_lt_add_iff_right]
    exact PhysicalInput.lt_heightOf_iff

lemma PhysicalNode.all_subset_of_direct {n m : PhysicalNode} {link : Link}
    (h : .direct link m ∈ n.inputs) : m.all ⊆ n.all := by
  have hall (inputs : List PhysicalInput) (h : .direct link m ∈ inputs) :
      m.all ⊆ PhysicalInput.allOf inputs := by
    induction inputs with
    | nil => cases h
    | cons input inputs ih =>
      rw [PhysicalInput.allOf_cons]
      rcases List.mem_cons.mp h with rfl | h
      · simp
      · exact List.Subset.trans (ih h) (List.subset_append_right _ _)
  rw [n.all_eq]
  exact List.Subset.trans (hall _ h) (List.subset_cons_self _ _)

lemma OperatorKind.workers_lt {id : OperatorId} {standard n : Nat} {kind : OperatorKind}
    (hkind : ∀ k ∈ kind.words, k < 2 ^ 64) (hstandard : standard < 2 ^ 64)
    (h : kind.workers id standard = .ok n) : n < 2 ^ 64 := by
  have hmax : max standard 1 < 2 ^ 64 := max_lt hstandard (by norm_num)
  cases kind with
  | userFunction f =>
    rw [workers, functionWorkers] at h
    split at h
    · cases h
    · rename_i count _ hcount
      cases h
      exact hkind _ (List.mem_cons_of_mem _ (by simp [hcount]))
    · cases h
      exact hmax
    · split_ifs at h
      cases h
      norm_num
    · cases h
      norm_num
  | keywordMatcher | patternMatcher | fuzzyMatcher | entityMatcher | projection | typeCasting
  | wordCountPartial =>
    cases h
    exact hmax
  | scanSource | keywordSource | join | wordCloud | tupleSink =>
    cases h
    norm_num

namespace PhysicalPlan.Realizes

variable {physical : PhysicalPlan} {p : Plan} {sink : OperatorId} {workers : Nat}

lemma length_connectors_le (h : physical.Realizes p sink workers) :
    physical.connectors.length ≤ p.links.length := by
  have hsubset : physical.connectors.map (·.producer.id) ⊆ p.links.map Link.producer := by
    intro id hid
    have htwo := (h.mem_producers id).mp hid
    obtain ⟨c, hc⟩ := List.exists_mem_of_length_pos (by omega : 0 < (p.consumersOf id).length)
    exact List.mem_map.mpr ⟨⟨id, c⟩, Plan.mem_consumersOf.mp hc, rfl⟩
  simpa using (List.subperm_of_subset h.nodup_producers hsubset).length_le

lemma length_consumersOf_le (p : Plan) (id : OperatorId) :
    (p.consumersOf id).length ≤ p.links.length := by
  rw [Plan.length_consumersOf]
  exact List.countP_le_length

/-- All numbers of the physical plan of a plan with so many links are those of a machine word. -/
lemma portable (h : physical.Realizes p sink workers)
    (hkinds : ∀ operator ∈ p.operators, operator.kind.Portable) (hworkers : workers < 2 ^ 64)
    (hlinks : p.links.length < 2 ^ 64) : physical.Portable where
  nodes := by
    intro n hn
    have hstands := h.stands n hn
    have hkind := hkinds _ hstands.operator_mem
    refine ⟨hkind, OperatorKind.workers_lt hkind.word_lt hworkers hstands.workers_eq, ?_⟩
    intro link c i hmem
    obtain ⟨-, ⟨spec, hspec, -⟩, hindex⟩ := hstands.inputs _ hmem
    have hc := (List.getElem?_eq_some_iff.mp hspec).1
    have hi := (List.getElem?_eq_some_iff.mp hindex).1
    exact ⟨(hc.trans_le h.length_connectors_le).trans hlinks,
      (hi.trans_le (length_consumersOf_le p _)).trans hlinks⟩
  connectors := by
    intro c hc
    obtain ⟨i, hi⟩ := List.getElem?_of_mem hc
    have hlt := (List.getElem?_eq_some_iff.mp hi).1
    constructor
    · rw [h.id_eq i c hi]
      exact (hlt.trans_le h.length_connectors_le).trans hlinks
    · rw [h.endpoints_eq c hc]
      exact (length_consumersOf_le p _).trans_lt hlinks

/-- The nodes under that of an operator are those of the row before it. -/
lemma row_iff (h : physical.Realizes p sink workers) {n : PhysicalNode}
    (hn : n.all ⊆ physical.nodes) {count : Nat} : p.Row count n.id ↔ count < n.height := by
  induction count generalizing n with
  | zero =>
    cases n with
    | node operator workers inputs => simp [Plan.Row, PhysicalNode.height]
  | succ count ih =>
    have hstands := h.stands n (hn (by simp [n.all_eq]))
    have hlinks (link : Link) : link ∈ n.inputs.map PhysicalInput.link ↔
        link ∈ p.links ∧ link.consumer = n.id := by
      simp [hstands.links_eq]
    rw [PhysicalNode.lt_height_iff]
    constructor
    · rintro ⟨producer, hfeeds, hone, hrow⟩
      obtain ⟨input, hinput, hlink⟩ := List.mem_map.mp ((hlinks ⟨producer, n.id⟩).mpr ⟨hfeeds, rfl⟩)
      have hinput' := hstands.inputs input hinput
      match input with
      | .direct link m =>
        obtain rfl : link = ⟨producer, n.id⟩ := hlink
        have hm := List.Subset.trans (PhysicalNode.all_subset_of_direct hinput) hn
        have hid : m.id = producer := hinput'.1
        exact ⟨_, m, hinput, (ih hm).mp (hid ▸ hrow)⟩
      | .endpoint link c i =>
        obtain rfl : link = ⟨producer, n.id⟩ := hlink
        have htwo : 2 ≤ (p.consumersOf producer).length := hinput'.1
        omega
    · rintro ⟨link, m, hinput, hlt⟩
      obtain ⟨hid, hone⟩ := hstands.inputs _ hinput
      obtain ⟨hmem, hconsumer⟩ := (hlinks link).mp (List.mem_map.mpr ⟨_, hinput, rfl⟩)
      have hm := List.Subset.trans (PhysicalNode.all_subset_of_direct hinput) hn
      refine ⟨link.producer, ?_, hone, hid ▸ (ih hm).mpr hlt⟩
      change (⟨link.producer, n.id⟩ : Link) ∈ p.links
      rwa [← hconsumer]

end PhysicalPlan.Realizes

namespace ValidPlan

variable {text : String} {v : ValidPlan} {workers : Nat} {physical : PhysicalPlan}

/-- The text of a physical plan nests too deeply or not, as the operators stand in rows. -/
lemma depth_physical (h : v.physical workers = .ok physical) :
    (¬v.plan.Row 31 v.sink → (∀ id, 2 ≤ (v.plan.consumersOf id).length → ¬v.plan.Row 30 id) →
      physical.toJson.depth ≤ nestingLimit) ∧
    (v.plan.Row 32 v.sink ∨ (∃ id, 2 ≤ (v.plan.consumersOf id).length ∧ v.plan.Row 31 id) →
      nestingLimit < physical.toJson.depth) := by
  have hrealizes := realizes_of_physical h
  have hroot (count : Nat) : v.plan.Row count v.sink ↔ count < physical.root.height := by
    rw [← hrealizes.root_eq]
    exact hrealizes.row_iff (List.subset_append_left _ _)
  have hproducer (c : ConnectorSpec) (hc : c ∈ physical.connectors) (count : Nat) :
      v.plan.Row count c.producer.id ↔ count < c.producer.height := by
    refine hrealizes.row_iff fun m hm => List.mem_append_right _ ?_
    exact List.mem_flatMap.mpr ⟨c, hc, hm⟩
  constructor
  · intro hlow hlows
    refine physical.depth_toJson_le_iff.mpr ⟨?_, fun c hc => ?_⟩
    · have hbounds := physical.root.depth_toJson_bounds
      rw [hroot] at hlow
      omega
    · have hbounds := c.producer.depth_toJson_bounds
      have hlow := hlows _ ((hrealizes.mem_producers _).mp (List.mem_map.mpr ⟨c, hc, rfl⟩))
      rw [hproducer c hc] at hlow
      omega
  · intro hhigh
    by_contra hdepth
    obtain ⟨hlow, hlows⟩ := physical.depth_toJson_le_iff.mp (not_lt.mp hdepth)
    rcases hhigh with hhigh | ⟨id, hid, hhigh⟩
    · have hbounds := physical.root.depth_toJson_bounds
      rw [hroot] at hhigh
      omega
    · obtain ⟨c, hc, rfl⟩ := List.mem_map.mp ((hrealizes.mem_producers id).mpr hid)
      have hbounds := c.producer.depth_toJson_bounds
      have := hlows c hc
      rw [hproducer c hc] at hhigh
      omega

/-- The physical plan of a submitted plan is read back from its text, if it does not nest too
deeply, however many operators and connectors there are. This is so if at most thirty operators
stand in a row before the sink, and less than thirty before one with several consumers. With two
more of them the text is refused. -/
theorem physical_text_reads_back (htext : Plan.ofText text = .ok v.plan)
    (hdoubles : ∀ operator ∈ v.plan.operators, ∀ x ∈ operator.kind.doubles,
      x.isFinite → x.ReadsBack)
    (hlinks : v.plan.links.length < 2 ^ 64) (hworkers : workers < 2 ^ 64)
    (hphysical : v.physical workers = .ok physical) :
    (PhysicalPlan.ofText? physical.text =
      if physical.toJson.depth ≤ nestingLimit then some physical else none) ∧
    (¬v.plan.Row 31 v.sink → (∀ id, 2 ≤ (v.plan.consumersOf id).length → ¬v.plan.Row 30 id) →
      PhysicalPlan.ofText? physical.text = some physical) ∧
    (v.plan.Row 32 v.sink ∨ (∃ id, 2 ≤ (v.plan.consumersOf id).length ∧ v.plan.Row 31 id) →
      PhysicalPlan.ofText? physical.text = none) := by
  have hkinds : ∀ operator ∈ v.plan.operators, operator.kind.Portable := by
    intro operator hmem
    obtain ⟨hwords, hfinite⟩ := Plan.of_ofText htext hmem
    exact ⟨hwords, fun x hx => ⟨hfinite x hx, hdoubles operator hmem x hx (hfinite x hx)⟩⟩
  have hread := ((realizes_of_physical hphysical).portable hkinds hworkers hlinks).ofText?_text
  obtain ⟨hlow, hhigh⟩ := depth_physical hphysical
  refine ⟨hread, fun hsink hshared => ?_, fun hlong => ?_⟩
  · rw [hread, if_pos (hlow hsink hshared)]
  · rw [hread, if_neg (hhigh hlong).not_ge]

end ValidPlan

/-- The physical plan of the join is read back, with its connector. -/
theorem nearWordsNodes_reads_back : Plan.ofText nearWords.text = .ok nearWords ∧
    nearWordsPlan.physical 2 = .ok nearWordsNodes ∧ nearWordsNodes.connectors.length = 1 ∧
    PhysicalPlan.ofText? nearWordsNodes.text = some nearWordsNodes := by
  have hkinds : ∀ operator ∈ nearWords.operators,
      (∀ n ∈ operator.kind.words, n < 2 ^ 64) ∧ operator.kind.doubles = [] := by
    decide +kernel
  have htext : Plan.ofText nearWords.text = .ok nearWords :=
    Plan.ofText_text fun operator hmem => ⟨(hkinds operator hmem).1, by simp [hkinds operator hmem]⟩
  have hphysical : nearWordsPlan.physical 2 = .ok nearWordsNodes := rfl
  have hread := (ValidPlan.physical_text_reads_back htext
    (fun operator hmem => by simp [(hkinds operator hmem).2]) (by decide) (by norm_num)
    hphysical).1
  refine ⟨htext, hphysical, rfl, hread.trans (if_pos ?_)⟩
  decide +kernel

/-- The names of the operators of the row. -/
def rowNames : List OperatorId :=
  (List.range 31).map fun i =>
    String.ofList ['p', Nat.digitChar (i / 10), Nat.digitChar (i % 10)]

/-- A table whose text is projected to itself over and over. -/
def longRow : Plan where
  operators := rowNames.map (⟨·, .projection ["text"]⟩) ++
    [⟨"scan", .scanSource "docs"⟩, ⟨"sink", .tupleSink⟩]
  links := List.zipWith Link.mk ("scan" :: rowNames) (rowNames ++ ["sink"])
  ascending := by
    unfold Ascending
    decide +kernel
  distinct := by decide +kernel

/-- The plan with its order and its sink. -/
def longRowPlan : ValidPlan where
  plan := longRow
  order := "scan" :: rowNames ++ ["sink"]
  sink := "sink"
  checked := by decide +kernel

/-- The plan can be submitted, is valid and has a physical plan, but the text of the physical plan
is refused. -/
theorem longRow_refused : Plan.ofText longRow.text = .ok longRow ∧
    ∃ physical, longRowPlan.physical 1 = .ok physical ∧
      PhysicalPlan.ofText? physical.text = none := by
  have hkinds : ∀ operator ∈ longRow.operators, operator.kind.words = [] ∧
      operator.kind.doubles = [] := by
    decide +kernel
  have hportable : ∀ operator ∈ longRow.operators, operator.kind.Portable :=
    fun operator hmem => ⟨by simp [hkinds operator hmem], by simp [hkinds operator hmem]⟩
  have hdepth : (longRowPlan.physical 1).toOption.map (·.toJson.depth) = some 131 := by
    decide +kernel
  simp only [Option.map_eq_some_iff, toOption_eq_some_iff] at hdepth
  obtain ⟨physical, hphysical, hdepth⟩ := hdepth
  have hread := ((ValidPlan.realizes_of_physical hphysical).portable hportable (by norm_num)
    (by decide +kernel)).ofText?_text
  refine ⟨Plan.ofText_text hportable, physical, hphysical, hread.trans (if_neg ?_)⟩
  rw [hdepth]
  decide

end Dataflow
