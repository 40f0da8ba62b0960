import Dataflow.Pattern.Search
import Dataflow.Proofs.Meaning.Nodes

/-!
# Runs give what plans mean

A plan of sources, matchers, projections, casts, joins and a sink has a meaning in rows. Whatever
the number of workers, a run of such a plan gives the rows of its sink; it fails exactly if a value
has to be cast that cannot be.
-/

namespace Dataflow

variable {engine : PatternEngine}

namespace OperatorKind

variable {kind : OperatorKind} {catalog : Catalog}

lemma isSome_rows (h : ∀ column target, kind ≠ .typeCasting column target)
    (inputs : List (Schema × List Row)) : (kind.rows engine catalog inputs).isSome = true := by
  match inputs with
  | [(s, given)] =>
    rw [rows_singleton, Option.isSome_map, isSome_mapM_iff]
    intro row _
    cases kind with
    | typeCasting column target => exact (h column target rfl).elim
    | _ => rfl
  | [] =>
    cases kind with
    | scanSource _ =>
      rw [rows]
      split <;> rfl
    | keywordSource _ _ _ _ _ =>
      rw [rows]
      split <;> rfl
    | _ => rfl
  | [(_, _), (_, _)] => cases kind <;> rfl
  | (_, _) :: (_, _) :: _ :: _ => cases kind <;> rfl

lemma isSome_rows_typeCasting {column : String} {target : AttributeType} {s : Schema}
    {given : List Row} :
    ((typeCasting column target).rows engine catalog [(s, given)]).isSome = true ↔
      ∀ row ∈ given, ∃ value, (s.value row column).cast column target = .ok value := by
  rw [rows_singleton, Option.isSome_map, isSome_mapM_iff]
  refine forall₂_congr fun row _ => ?_
  rw [onRow]
  cases (s.value row column).cast column target <;> simp

end OperatorKind

namespace ValidPlan

variable (engine) (v : ValidPlan) (catalog : Catalog) (schemas : List (OperatorId × Schema))

/-- If an operator is a cast, it can cast the value of each row of its producer. -/
def Casts (operator : Operator) : Prop :=
  ∀ column target, operator.kind = .typeCasting column target →
    ∀ p ∈ v.plan.producersOf operator.id, ∀ given, v.rowsOf engine catalog schemas p = some given →
      ∀ row ∈ given, ∃ value,
        (((valueOf? p schemas).getD .empty).value row column).cast column target = .ok value

variable {engine v catalog schemas} {operator : Operator}

/-- An operator has rows exactly if its producers have and it can cast what it has to. -/
lemma isSome_rowsOf_iff (hmem : operator ∈ v.plan.operators) :
    (v.rowsOf engine catalog schemas operator.id).isSome = true ↔
      (∀ p ∈ v.plan.producersOf operator.id, (v.rowsOf engine catalog schemas p).isSome = true) ∧
        v.Casts engine catalog schemas operator := by
  by_cases hcast : ∃ column target, operator.kind = .typeCasting column target
  · obtain ⟨column, target, hkind⟩ := hcast
    obtain ⟨p, hp⟩ : ∃ p, v.plan.producersOf operator.id = [p] := by
      rw [← List.length_eq_one_iff, Plan.length_producersOf,
        (Plan.holds_of_valid v .arities operator hmem).1, hkind]
      rfl
    rw [rowsOf_unary hmem hp, Casts, hp, hkind]
    cases hmade : v.rowsOf engine catalog schemas p with
    | none => simp [hmade]
    | some given =>
      rw [Option.bind_some, OperatorKind.isSome_rows_typeCasting]
      simp [hmade]
  · push Not at hcast
    have hcasts : v.Casts engine catalog schemas operator :=
      fun column target hkind => (hcast column target hkind).elim
    rw [and_iff_left hcasts, rowsOf_eq, Plan.operator?_eq_some_iff.mpr ⟨hmem, rfl⟩]
    have hall : ((v.plan.producersOf operator.id).mapM fun p => do
          return ((valueOf? p schemas).getD .empty,
            ← v.rowsOf engine catalog schemas p)).isSome = true ↔
        ∀ p ∈ v.plan.producersOf operator.id,
          (v.rowsOf engine catalog schemas p).isSome = true := by
      rw [isSome_mapM_iff]
      refine forall₂_congr fun p _ => ?_
      cases v.rowsOf engine catalog schemas p <;> simp
    rw [← hall]
    match (v.plan.producersOf operator.id).mapM fun p => do
        return ((valueOf? p schemas).getD .empty, ← v.rowsOf engine catalog schemas p) with
    | none => exact Iff.rfl
    | some inputs => simp [OperatorKind.isSome_rows hcast]

/-- The sink has rows exactly if every operator can cast what it has to. -/
lemma isSome_rowsOf_sink_iff : (v.rowsOf engine catalog schemas v.sink).isSome = true ↔
    ∀ operator ∈ v.plan.operators, v.Casts engine catalog schemas operator := by
  constructor
  · intro h operator hmem
    -- Where an operator has no rows, its consumers have none, and so on up to the sink.
    have hall := v.forall_of_consumers h fun consumer hconsumer hrows =>
      ((isSome_rowsOf_iff hconsumer).mp hrows).1
    exact ((isSome_rowsOf_iff hmem).mp (hall operator hmem)).2
  · intro h
    have hall := v.forall_of_producers fun operator hmem hrows =>
      (isSome_rowsOf_iff hmem).mpr ⟨hrows, h operator hmem⟩
    obtain ⟨sink, hsink, hid⟩ := v.exists_sink
    exact hid ▸ hall sink hsink

end ValidPlan

variable {context : Context} {v : ValidPlan} {workers : Nat} {physical : PhysicalPlan}
  {schemas : List (OperatorId × Schema)} {t t' : Tree TableScan StandardWorker} {ordered : Prop}

/-- Standard executors can be opened and closed. -/
lemma Tree.Resembles.willing (h : t.Resembles (.standard engine) context physical)
    (hrealizes : physical.Realizes v.plan v.sink workers) : t.Willing where
  startSource := by
    intro node hnode s started hsource
    obtain ⟨k, hk⟩ := List.getElem?_of_mem hnode
    obtain ⟨slots, inputs, hworks⟩ := h.exists_works hrealizes hk
    obtain ⟨count, -, hcreate⟩ := hworks.crew
    obtain ⟨make, hfactory, ⟨hslots, s', hmake, hcrew⟩ | ⟨-, w, -, hcrew⟩⟩ :=
      createCrew_eq_ok hcreate
    · rw [hsource] at hcrew
      cases hcrew
      subst hslots
      obtain rfl := List.forall₂_nil_left_iff.mp hworks.givers
      exact (StandardFactory.exists_yields hfactory hmake hworks.schema).1
    · rw [hsource] at hcrew
      cases hcrew
  startWorker := fun _ => rfl
  stopSource := fun _ => rfl
  stopWorker := fun w => by cases w <;> rfl

/-- If what is below a place carries its rows, so does what the node at the place gives. -/
lemma Tree.Resembles.exists_flows (h : t.Resembles (.standard engine) context physical)
    (hrealizes : physical.Realizes v.plan v.sink workers) (hsound : t.ledger.wiring.Sound)
    (hschemas : v.inferSchemas context.catalog.schemas = .ok schemas)
    (hrows : ∀ operator ∈ v.plan.operators, operator.kind.hasRows = true)
    (hordered : ∀ operator ∈ v.plan.operators, operator.kind.isJoin = true → ¬ordered)
    (hprimed : t.Primed t') {k : Nat} {node' : Node TableScan StandardWorker}
    (hk : t'.nodes[k]? = some node') (hopened : node'.phase = .opened) {f : Nat → Stream}
    (hf : ∀ j < k, ∀ node, t.nodes[j]? = some node → (f j).Carries ordered node.schema
      (v.rowsOf engine context.catalog schemas node.operator.id)) :
    ∃ out, node'.crew.Flows (fun x => f (t.ledger.wiring.placeOf x)) out ∧
      ∀ node, t.nodes[k]? = some node → out.Carries ordered node.schema
        (v.rowsOf engine context.catalog schemas node.operator.id) := by
  obtain ⟨node, hnode, -, hcrew⟩ := hprimed.nodes k node' hk
  rw [hopened] at hcrew
  obtain ⟨slots, inputs, hworks⟩ := h.exists_works hrealizes hnode
  have hbelow : List.Forall₂ (fun slot a => valueOf? slot.link.producer schemas = some a ∧
      (f (t.ledger.wiring.placeOf slot.supply)).Carries ordered a
        (v.rowsOf engine context.catalog schemas slot.link.producer)) slots inputs := by
    refine hworks.givers_below.imp ?_
    rintro slot a ⟨hmem, below, hgiver, hid, rfl⟩
    have hplace := nodes_placeOf hgiver
    rw [← hid]
    exact ⟨h.schema_eq hrealizes hsound hschemas hplace,
      hf _ (placeOf_lt hsound hnode hmem) below hplace⟩
  obtain ⟨out, hflows, hout⟩ := hworks.exists_flows
    (R := fun x => f (t.ledger.wiring.placeOf x)) (hrows _ hworks.mem) (hordered _ hworks.mem)
    hbelow hcrew
  refine ⟨out, hflows, fun other hother => ?_⟩
  rw [hnode] at hother
  cases hother
  exact hout

/-- A run of a plan of sources, matchers, projections, casts, joins and a sink comes to one result
if it may go deep enough, whatever engine the matchers have for their patterns. It fails exactly if
a value cannot be cast, and otherwise gives the rows of the sink, in their order unless the plan has
a join. -/
theorem ValidPlan.complete_gives_rows {clock : Nat → Nat}
    (hrows : ∀ operator ∈ v.plan.operators, operator.kind.hasRows = true)
    (hschemas : v.inferSchemas context.catalog.schemas = .ok schemas)
    (hphysical : v.physical workers = .ok physical)
    (htree : physical.tree? (.standard engine) context clock = some (.ok t)) :
    ∃ result : Result (List Tuple),
      (∃ depth₀, ∀ depth, depth₀ ≤ depth →
        ((Tree.complete depth).outcome t).map Prod.fst = some result) ∧
      (∀ depth result' t', (Tree.complete depth).outcome t = some (result', t') →
        result' = result) ∧
      ((∃ given, result = .ok given) ↔
        ∀ operator ∈ v.plan.operators, v.Casts engine context.catalog schemas operator) ∧
      ∀ given, result = .ok given → ∃ rows,
        v.rowsOf engine context.catalog schemas v.sink = some rows ∧
        (given.map Tuple.fields).Perm rows ∧
        ((∀ operator ∈ v.plan.operators, operator.kind.isJoin = false) →
          given.map Tuple.fields = rows) ∧
        ∀ x ∈ given, valueOf? v.sink schemas = some x.schema := by
  have hrealizes := ValidPlan.realizes_of_physical hphysical
  have hresembles := PhysicalPlan.resembles_of_tree? hrealizes.linked htree
  have hfresh := PhysicalPlan.fresh_of_tree? htree
  obtain ⟨sink, hsink, hoperator⟩ := hresembles.root
  have hid : sink.operator.id = v.sink := by
    rw [hoperator]
    exact hrealizes.root_eq
  let ordered : Prop := ∀ operator ∈ v.plan.operators, operator.kind.isJoin = false
  have hordered (operator : Operator) (hmem : operator ∈ v.plan.operators)
      (hjoin : operator.kind.isJoin = true) : ¬ordered := fun hall => by
    rw [hall operator hmem] at hjoin
    cases hjoin
  obtain ⟨out, hcarries, hends, heq⟩ := hfresh.complete_eq_all
    (hresembles.willing hrealizes) (P := fun out => out.Carries ordered sink.schema
      (v.rowsOf engine context.catalog schemas v.sink)) fun t' hprimed hopened hwiring => by
    obtain ⟨R, hforetold, hall⟩ := Tree.exists_foretold hfresh.sound hwiring
      fun k node f hk hf => hresembles.exists_flows hrealizes hfresh.sound hschemas hrows hordered
        hprimed hk (hopened node (List.mem_of_getElem? hk)) hf
    refine ⟨R, hforetold, hid ▸ hall t.root ?_ sink hsink⟩
    have hlength := congrArg (·.supplies.length) hwiring
    simp only [Ledger.wiring, Tree.ledger, List.length_map] at hlength
    exact hlength ▸ (List.getElem?_eq_some_iff.mp hsink).1
  have hall := hcarries.rows_alike
  refine ⟨out.all, hends, heq, ?_⟩
  rw [← isSome_rowsOf_sink_iff]
  obtain ⟨tuples, failure⟩ := out
  cases hmade : v.rowsOf engine context.catalog schemas v.sink with
  | none =>
    rw [hmade] at hall
    cases failure with
    | none => exact (hall rfl).elim
    | some e =>
      refine ⟨⟨?_, Bool.noConfusion⟩, fun _ h => by cases h⟩
      rintro ⟨_, h⟩
      cases h
  | some rows =>
    rw [hmade] at hall
    cases failure with
    | none =>
      refine ⟨⟨fun _ => rfl, fun _ => ⟨tuples, rfl⟩⟩, ?_⟩
      rintro given ⟨⟩
      refine ⟨rows, rfl, hall.2.1, hall.2.2, fun x hx => ?_⟩
      rw [hcarries.schema_eq x hx, ← hid]
      exact hresembles.schema_eq hrealizes hfresh.sound hschemas hsink
    | some e => cases hall.1

/-- Numbered texts, of which those with two words near each other are found by joining the matches
of one word with those of the other. -/
def nearWords : Plan where
  operators := [⟨"cast", .typeCasting "n" .integer⟩, ⟨"join", .join "text" "text" 4⟩,
    ⟨"left", .keywordMatcher "to" ["text"] .substring "left"⟩,
    ⟨"right", .keywordMatcher "be" ["text"] .substring "right"⟩, ⟨"scan", .scanSource "texts"⟩,
    ⟨"sink", .tupleSink⟩]
  links := [⟨"scan", "cast"⟩, ⟨"cast", "left"⟩, ⟨"cast", "right"⟩, ⟨"left", "join"⟩,
    ⟨"right", "join"⟩, ⟨"join", "sink"⟩]
  ascending := by
    unfold Ascending
    decide
  distinct := by decide

/-- The plan with its order and its sink. -/
def nearWordsPlan : ValidPlan where
  plan := nearWords
  order := ["scan", "cast", "left", "right", "join", "sink"]
  sink := "sink"
  checked := by decide +kernel

/-- The schema of the texts. -/
def textSchema : Schema :=
  ⟨[⟨"n", .string⟩, ⟨"text", .text⟩], by decide⟩

/-- A table of texts. -/
def twoTexts : Context where
  config := {}
  catalog := ⟨[("texts", ⟨textSchema, [⟨textSchema, [.string "1", .text "to be"], by decide⟩,
    ⟨textSchema, [.string "2", .text "to let it be"], by decide⟩], by decide⟩)]⟩

/-- The physical plan with two workers. -/
def nearWordsNodes : PhysicalPlan :=
  match nearWordsPlan.physical 2 with
  | .ok physical => physical
  | .error _ => ⟨.node ⟨"sink", .tupleSink⟩ 1 [], []⟩

/-- Only one of the texts has the words near each other. -/
theorem nearWords_gives_row : ∃ schemas t given,
    nearWordsPlan.inferSchemas twoTexts.catalog.schemas = .ok schemas ∧
    nearWordsPlan.physical 2 = .ok nearWordsNodes ∧
    nearWordsNodes.tree? (.standard Pattern.engine) twoTexts (fun _ => 0) = some (.ok t) ∧
    ((Tree.complete 30).outcome t).map Prod.fst = some (.ok given) ∧
    given.map Tuple.fields = [[.integer 1, .text "to be", .list [⟨"text", 0, 2, "to", "to"⟩],
      .list [⟨"text", 3, 5, "be", "be"⟩]]] ∧
    ∃ rows, nearWordsPlan.rowsOf Pattern.engine twoTexts.catalog schemas "sink" = some rows ∧
      (given.map Tuple.fields).Perm rows := by
  have hphysical : nearWordsPlan.physical 2 = .ok nearWordsNodes := rfl
  obtain ⟨schemas, hschemas⟩ :
      ∃ schemas, nearWordsPlan.inferSchemas twoTexts.catalog.schemas = .ok schemas := ⟨_, rfl⟩
  have hrun : ((nearWordsNodes.tree? (.standard Pattern.engine) twoTexts fun _ => 0).bind
      fun built => built.toOption.bind fun t => ((Tree.complete 30).outcome t).bind fun run =>
        run.1.toOption.map (List.map Tuple.fields)) = some [[.integer 1, .text "to be",
          .list [⟨"text", 0, 2, "to", "to"⟩], .list [⟨"text", 3, 5, "be", "be"⟩]]] := by
    decide +kernel
  simp only [Option.bind_eq_some_iff, Option.map_eq_some_iff, toOption_eq_some_iff] at hrun
  obtain ⟨_, htree, t, rfl, ⟨_, t'⟩, hcomplete, given, rfl, hfields⟩ := hrun
  obtain ⟨result, -, hall, -, hrows⟩ := ValidPlan.complete_gives_rows
    (by decide : ∀ operator ∈ nearWordsPlan.plan.operators, operator.kind.hasRows = true)
    hschemas hphysical htree
  obtain ⟨rows, hsink, hperm, -⟩ := hrows given (hall 30 _ t' hcomplete).symm
  exact ⟨schemas, t, given, hschemas, hphysical, htree, by rw [hcomplete]; rfl, hfields, rows,
    hsink, hperm⟩

end Dataflow
