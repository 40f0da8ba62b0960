import Dataflow.Pattern.Search
import Dataflow.Proofs.Executor.Types
import Dataflow.Proofs.Tree.Schemas

/-!
# Well-typed plans do not go wrong

In a tree that was built for a valid plan whose schemas were inferred, every operator gives tuples
of its schema, whatever is done to the tree. A whole run fails only if a cast or a word cloud
refuses a tuple.
-/

namespace Dataflow

variable {engine : PatternEngine}

/-- A value has the type of its attribute, or is absent. -/
def Field.IsOf (type : AttributeType) (value : Field) : Prop :=
  value = .null ∨ value.type? = some type

/-- A tuple has the schema that was inferred for an operator, and each of its values the type of its
attribute. -/
structure Tuple.IsOf (schemas : List (OperatorId × Schema)) (id : OperatorId) (x : Tuple) : Prop
    where
  schema_eq : valueOf? id schemas = some x.schema
  fields : List.Forall₂ (fun own value => value.IsOf own.type) x.schema.attributes x.fields

lemma Field.isOf_of_fits {type : AttributeType} {value : Field} (h : value.fits type = true) :
    value.IsOf type := by
  cases value with
  | null => exact .inl rfl
  | _ => exact .inr (congrArg some (beq_iff_eq.mp h))

namespace Tree

/-- A tuple that an operator gave is seen in a tree: it waits to be pulled, is held back for some
endpoints of a connector, or was taken in by an executor. -/
inductive Shows {σ ω : Type} (t : Tree σ ω) (id : OperatorId) (x : Tuple) : Prop
  | pending {k : Nat} {node : Node σ ω} {staff : Team ω} (hnode : t.nodes[k]? = some node)
      (hid : node.operator.id = id) (hcrew : node.crew = .team staff) (hx : x ∈ staff.pending)
  /-- It is held back in a connector that a node of the operator feeds. -/
  | buffered {j : ConnectorId} {junction : Junction} {node : Node σ ω}
      (hj : t.junctions[j]? = some junction) (hnode : t.nodes[junction.producer]? = some node)
      (hid : node.operator.id = id) (hx : x ∈ junction.connector.buffer)
  | taken {call : Call} {link : Link} (hcall : call ∈ t.calls)
      (hevent : call.event = .process (.tuple x link)) (hid : link.producer = id)

variable (t : Tree TableScan StandardWorker)

/-- What follows from the plan of a tree: nodes give tuples of their schemas, get what the nodes
behind their slots give, and fail with what their operators refuse. -/
def contract : Contract where
  feeder := t.ledger.wiring.placeOf
  root := t.root
  operator k := t.nodes[k]?.map Node.operator
  accepts k input := ∃ node staff slot, t.nodes[k]? = some node ∧ node.crew = .team staff ∧
    slot ∈ staff.slots ∧ slot.link = input.link ∧ ∀ x link, input = .tuple x link →
      ∃ below, t.nodes[t.ledger.wiring.placeOf slot.supply]? = some below ∧ x.schema = below.schema
  emits k x := ∃ node, t.nodes[k]? = some node ∧ x.schema = node.schema
  refuses k event e := ∃ node, t.nodes[k]? = some node ∧ node.operator.kind.Fails event e

variable {t} {context : Context} {v : ValidPlan} {workers : Nat} {physical : PhysicalPlan}
  {schemas : List (OperatorId × Schema)} {node : Node TableScan StandardWorker} {k : Nat}
  {slots : List Slot} {inputs : List Schema}

/-- A node gets only inputs that its executors were made for. -/
lemma accepts_of_contract
    (h : node.Works (.standard engine) context v workers t.giver? slots inputs)
    (hk : t.nodes[k]? = some node) {staff : Team StandardWorker}
    (hcrew : node.crew = .team staff) (hslots : staff.slots = slots) {input : Input}
    (hinput : t.contract.accepts k input) :
    (requestOf context node.operator slots inputs node.schema).Accepts input := by
  obtain ⟨other, staff', slot, hother, hcrew', hslot, hlink, htuple⟩ := hinput
  rw [hk] at hother
  cases hother
  rw [hcrew] at hcrew'
  cases hcrew'
  rw [hslots] at hslot
  match input with
  | .exhausted link =>
    exact List.mem_map.mpr ⟨slot, hslot, hlink⟩
  | .tuple x link =>
    obtain ⟨below, hbelow, hx⟩ := htuple x link rfl
    obtain ⟨i, hi, rfl⟩ := List.getElem_of_mem hslot
    have hi' : i < inputs.length := h.givers.length_eq ▸ hi
    obtain ⟨giver, hgiver, -, hschema⟩ := h.givers.get hi hi'
    have hplace : t.nodes[t.ledger.wiring.placeOf slots[i].supply]? = some giver :=
      nodes_placeOf hgiver
    rw [hplace, Option.some.injEq] at hbelow
    subst hbelow
    refine List.mem_iff_getElem.mpr ⟨i, by simpa [requestOf] using ⟨hi, hi'⟩, ?_⟩
    rw [List.getElem_zip]
    exact Prod.ext ((List.getElem_map _).trans hlink) (hschema.symm.trans hx.symm)

/-- The crew of a node keeps to what follows from the plan. -/
lemma meets_crew (h : node.Works (.standard engine) context v workers t.giver? slots inputs)
    (hk : t.nodes[k]? = some node) : node.crew.Meets t.contract k := by
  obtain ⟨count, -, hcreate⟩ := h.crew
  obtain ⟨make, hfactory, ⟨rfl, s, hmake, hcrew⟩ | ⟨-, w, hmake, hcrew⟩⟩ := createCrew_eq_ok hcreate
  · obtain rfl := List.forall₂_nil_left_iff.mp h.givers
    have hsource := StandardFactory.source_meets hfactory hmake h.schema
    rw [hcrew]
    exact hsource.imp (fun x hx => ⟨node, hk, hx⟩) fun _ _ => False.elim
  · have hlength : (slots.map Slot.link).length = inputs.length :=
      (List.length_map _).trans h.givers.length_eq
    have hworker := StandardFactory.worker_meets hfactory hmake h.nodup_links hlength h.schema
    rw [hcrew]
    refine ⟨fun w' hw' => ?_, nofun, fun slot hslot => ⟨?_, fun x hx => ?_⟩⟩
    · obtain rfl := List.eq_of_mem_replicate hw'
      exact hworker.imp (fun _ => accepts_of_contract h hk hcrew rfl)
        (fun x hx => ⟨node, hk, hx⟩) fun _ _ hfails => ⟨node, hk, hfails⟩
    · exact ⟨node, _, slot, hk, hcrew, hslot, rfl, nofun⟩
    · refine ⟨node, _, slot, hk, hcrew, hslot, rfl, ?_⟩
      rintro _ _ ⟨⟩
      exact hx

/-- A tree that was built for a valid plan keeps to what follows from the plan. -/
lemma Resembles.meets_contract (h : t.Resembles (.standard engine) context physical)
    (hrealizes : physical.Realizes v.plan v.sink workers) (hfresh : t.Fresh) :
    t.Meets t.contract where
  root_eq := rfl
  feeder_eq := fun _ => rfl
  operator_eq := fun k node hk => congrArg (Option.map Node.operator) hk
  crews := by
    intro k node hk
    obtain ⟨slots, inputs, hworks⟩ := h.exists_works hrealizes hk
    exact meets_crew hworks hk
  buffers := by
    intro j junction hj x hx
    rw [(hfresh.junctions junction (List.mem_of_getElem? hj)).buffer_eq] at hx
    exact (List.not_mem_nil hx).elim
  calls := by
    intro call hcall
    rw [hfresh.calls_eq] at hcall
    exact (List.not_mem_nil hcall).elim

variable {t' : Tree TableScan StandardWorker} {x : Tuple} {id : OperatorId}

lemma Resembles.isOf_of_emits (h : t.Resembles (.standard engine) context physical)
    (hrealizes : physical.Realizes v.plan v.sink workers) (hfresh : t.Fresh)
    (hschemas : v.inferSchemas context.catalog.schemas = .ok schemas)
    (hx : t.contract.emits k x) {operator : Operator}
    (hoperator : t.contract.operator k = some operator) : x.IsOf schemas operator.id := by
  obtain ⟨node, hk, hschema⟩ := hx
  replace hoperator : t.nodes[k]?.map Node.operator = some operator := hoperator
  rw [hk] at hoperator
  cases hoperator
  refine ⟨?_, x.fits.imp fun _ _ => Field.isOf_of_fits⟩
  rw [hschema]
  exact h.schema_eq hrealizes hfresh.sound hschemas hk

/-- What a node takes in comes from a link of the plan to its operator, and is of the producer. -/
lemma Resembles.isOf_of_accepts (h : t.Resembles (.standard engine) context physical)
    (hrealizes : physical.Realizes v.plan v.sink workers) (hfresh : t.Fresh)
    (hschemas : v.inferSchemas context.catalog.schemas = .ok schemas) {link : Link}
    (hx : t.contract.accepts k (.tuple x link)) :
    x.IsOf schemas link.producer ∧ ∃ node, t.nodes[k]? = some node ∧
      node.operator ∈ v.plan.operators ∧ link.consumer = node.operator.id := by
  obtain ⟨node, staff, slot, hk, hcrew, hslot, hlink, htuple⟩ := hx
  replace hlink : slot.link = link := hlink
  obtain ⟨below, hbelow, hschema⟩ := htuple x link rfl
  obtain ⟨slots, inputs, hworks⟩ := h.exists_works hrealizes hk
  have hslot' : slot ∈ slots := by
    obtain ⟨count, -, hcreate⟩ := hworks.crew
    obtain ⟨make, -, ⟨-, s, -, hsource⟩ | ⟨-, w, -, hteam⟩⟩ := createCrew_eq_ok hcreate
    · rw [hcrew] at hsource
      cases hsource
    · rw [hcrew] at hteam
      cases hteam
      exact hslot
  obtain ⟨_, -, giver, hgiver, hid, -⟩ := exists_of_forall₂_left hworks.givers hslot'
  have hplace : t.nodes[t.ledger.wiring.placeOf slot.supply]? = some giver :=
    nodes_placeOf hgiver
  rw [hplace, Option.some.injEq] at hbelow
  subst hbelow
  have hproducer : giver.operator.id = link.producer := hlink ▸ hid
  refine ⟨hproducer ▸ h.isOf_of_emits hrealizes hfresh hschemas ⟨giver, hplace, hschema⟩
    (congrArg (Option.map Node.operator) hplace), node, hk, hworks.mem, ?_⟩
  have hmem : link ∈ slots.map Slot.link := hlink ▸ List.mem_map_of_mem hslot'
  rw [hworks.links_eq] at hmem
  exact beq_iff_eq.mp (List.mem_filter.mp hmem).2

/-- Every tuple that is seen in a tree that keeps to the contract is of its operator. -/
lemma Resembles.isOf_of_shows (h : t.Resembles (.standard engine) context physical)
    (hrealizes : physical.Realizes v.plan v.sink workers) (hfresh : t.Fresh)
    (hschemas : v.inferSchemas context.catalog.schemas = .ok schemas) (hmeets : t'.Meets t.contract)
    (hx : t'.Shows id x) : x.IsOf schemas id := by
  match hx with
  | .pending hnode hid hcrew hx =>
    have hteam := hmeets.crews _ _ hnode
    rw [hcrew] at hteam
    exact hid ▸ h.isOf_of_emits hrealizes hfresh hschemas (hteam.pending x hx)
      (hmeets.operator_eq _ _ hnode)
  | .buffered hj hnode hid hx =>
    exact hid ▸ h.isOf_of_emits hrealizes hfresh hschemas (hmeets.buffers _ _ hj x hx)
      (hmeets.operator_eq _ _ hnode)
  | .taken hcall hevent hid =>
    have hcalled := hmeets.calls _ (List.mem_reverse.mp hcall)
    exact hid ▸ (h.isOf_of_accepts hrealizes hfresh hschemas (hcalled.accepts _ hevent)).1

end Tree

lemma Tree.exists_failed {calls : List Call} {e : Error} (h : firstFailure calls = some e) :
    ∃ call ∈ calls, call.failure = some e :=
  List.exists_of_findSome?_eq_some h

variable {context : Context} {v : ValidPlan} {workers : Nat} {physical : PhysicalPlan}
  {schemas : List (OperatorId × Schema)} {t : Tree TableScan StandardWorker}

/-- Well-typed plans do not go wrong. Whatever is done to a tree that was built for a valid plan
with some engine for patterns, and in whatever order, every tuple that an operator gives has the
schema that was inferred for the operator. A whole run either succeeds, or a cast or a word cloud
refused a tuple, and then it fails with the type error of this operator. -/
theorem ValidPlan.runs_keep_types {clock : Nat → Nat}
    (hschemas : v.inferSchemas context.catalog.schemas = .ok schemas)
    (hphysical : v.physical workers = .ok physical)
    (htree : physical.tree? (.standard engine) context clock = some (.ok t)) :
    (∀ ops t', t.Runs ops t' → (∀ id x, t'.Shows id x → x.IsOf schemas id) ∧
      ∀ depth x t'', (Tree.next depth).outcome t' = some (.ok (some x), t'') →
        x.IsOf schemas v.sink) ∧
    ∀ depth result t', (Tree.complete depth).outcome t = some (result, t') →
      (∀ id x, t'.Shows id x → x.IsOf schemas id) ∧
      (∀ given, result = .ok given → ∀ x ∈ given, x.IsOf schemas v.sink) ∧
      ∀ e, result = .error e →
        (∃ name expected actual, e = .fieldType name expected actual) ∧
        ∃ operator ∈ v.plan.operators, ∃ call ∈ t'.calls, ∃ x link,
          call.event = .process (.tuple x link) ∧ call.failure = some e ∧
          link.consumer = operator.id ∧ operator.kind.Refuses x e := by
  have hrealizes := ValidPlan.realizes_of_physical hphysical
  have h := PhysicalPlan.resembles_of_tree? hrealizes.linked htree
  have hfresh := PhysicalPlan.fresh_of_tree? htree
  have hmeets := h.meets_contract hrealizes hfresh
  obtain ⟨sink, hsink, hoperator⟩ := h.root
  have hroot {x : Tuple} (hx : t.contract.emits t.root x) : x.IsOf schemas v.sink := by
    have hid : sink.operator.id = v.sink := by
      rw [hoperator]
      exact hrealizes.root_eq
    exact hid ▸ h.isOf_of_emits hrealizes hfresh hschemas hx
      (congrArg (Option.map Node.operator) hsink)
  refine ⟨fun ops t' hruns => ?_, fun depth result t' hcomplete => ?_⟩
  · have hmeets' := hruns.meets hmeets
    refine ⟨fun id x => h.isOf_of_shows hrealizes hfresh hschemas hmeets',
      fun depth x t'' hnext => ?_⟩
    exact hroot (((Tree.offers_next t' hmeets').of_outcome hnext).2 x rfl)
  · obtain ⟨hmeets', hgiven⟩ := (Tree.meets_complete hmeets).of_outcome hcomplete
    refine ⟨fun id x => h.isOf_of_shows hrealizes hfresh hschemas hmeets',
      fun given heq x hx => hroot (hgiven given heq x hx), ?_⟩
    rintro e rfl
    obtain ⟨call, hcall, hfailure⟩ : ∃ call ∈ t'.calls, call.failure = some e := by
      have herror := hfresh.error_complete hcomplete
      rcases Option.or_eq_some_iff.mp herror.symm with hfirst | ⟨-, hfirst⟩
      all_goals
        obtain ⟨call, hcall, hfailure⟩ := Tree.exists_failed hfirst
        exact ⟨call, List.mem_of_mem_filter hcall, hfailure⟩
    have hcalled := hmeets'.calls call (List.mem_reverse.mp hcall)
    obtain ⟨node, hnode, x, link, hevent, hrefuses⟩ := hcalled.refuses e hfailure
    obtain ⟨-, other, hother, hmem, hconsumer⟩ :=
      h.isOf_of_accepts hrealizes hfresh hschemas (hcalled.accepts _ hevent)
    rw [hnode] at hother
    cases hother
    exact ⟨hrefuses.exists_fieldType, node.operator, hmem, call, hcall, x, link, hevent, hfailure,
      hconsumer, hrefuses⟩

/-- A word cloud of a table of words with their counts. -/
def cloudOfTable : Plan where
  operators := [⟨"cloud", .wordCloud 3⟩, ⟨"scan", .scanSource "words"⟩, ⟨"sink", .tupleSink⟩]
  links := [⟨"scan", "cloud"⟩, ⟨"cloud", "sink"⟩]
  ascending := by
    unfold Ascending
    decide
  distinct := by decide

/-- The plan with its order and its sink. -/
def cloudOfTablePlan : ValidPlan where
  plan := cloudOfTable
  order := ["scan", "cloud", "sink"]
  sink := "sink"
  checked := by decide +kernel

/-- A table with a row that has no word. -/
def withoutWord : Context where
  config := {}
  catalog := ⟨[("words", ⟨wordCountSchema,
    [⟨wordCountSchema, [.string "be", .integer 2], by decide⟩,
      ⟨wordCountSchema, [.null, .integer 1], by decide⟩], by decide⟩)]⟩

/-- The physical plan of the word cloud. -/
def cloudOfTableNodes : PhysicalPlan :=
  match cloudOfTablePlan.physical 2 with
  | .ok physical => physical
  | .error _ => ⟨.node ⟨"sink", .tupleSink⟩ 1 [], []⟩

/-- The run fails since the word cloud refuses the row without a word. -/
theorem withoutWord_refused : ∃ schemas t t' e,
    cloudOfTablePlan.inferSchemas withoutWord.catalog.schemas = .ok schemas ∧
    cloudOfTablePlan.physical 2 = .ok cloudOfTableNodes ∧
    cloudOfTableNodes.tree? (.standard Pattern.engine) withoutWord (fun _ => 0) = some (.ok t) ∧
    (Tree.complete 20).outcome t = some (.error e, t') ∧
    ∃ operator ∈ cloudOfTablePlan.plan.operators, ∃ x, operator.kind.Refuses x e := by
  have hphysical : cloudOfTablePlan.physical 2 = .ok cloudOfTableNodes := rfl
  obtain ⟨schemas, hschemas⟩ :
      ∃ schemas, cloudOfTablePlan.inferSchemas withoutWord.catalog.schemas = .ok schemas := ⟨_, rfl⟩
  have hrun : ((cloudOfTableNodes.tree? (.standard Pattern.engine) withoutWord fun _ => 0).bind
      fun built => built.toOption.bind fun t => ((Tree.complete 20).outcome t).bind fun run =>
        Result.error? run.1) = some (.fieldType wordName "STRING or TEXT" "NULL") := by
    decide +kernel
  simp only [Option.bind_eq_some_iff, toOption_eq_some_iff] at hrun
  obtain ⟨_, htree, t, rfl, ⟨result, t'⟩, hcomplete, herror⟩ := hrun
  match result with
  | .ok _ => cases herror
  | .error e =>
    obtain ⟨-, hfailed⟩ := ValidPlan.runs_keep_types hschemas hphysical htree
    obtain ⟨-, operator, hmem, -, -, x, -, -, -, -, hrefuses⟩ :=
      (hfailed 20 _ t' hcomplete).2.2 e rfl
    exact ⟨schemas, t, t', e, hschemas, hphysical, htree, hcomplete, operator, hmem, x, hrefuses⟩

end Dataflow
