import Dataflow.Proofs.Meaning.Streams
import Dataflow.Proofs.Tree.Schemas

/-!
# Nodes carry the rows of their operators

If the streams of its inputs carry the rows of the producers, an opened node of a valid plan gives a
stream that carries the rows of its operator, however many workers it has.
-/

namespace Dataflow

variable {engine : PatternEngine}

namespace ValidPlan

variable {v : ValidPlan} {catalog : Catalog} {schemas : List (OperatorId × Schema)}
  {operator : Operator} {p q : OperatorId}

lemma rowsOf_source (hmem : operator ∈ v.plan.operators)
    (hproducers : v.plan.producersOf operator.id = []) :
    v.rowsOf engine catalog schemas operator.id = operator.kind.rows engine catalog [] := by
  rw [rowsOf_eq, hproducers, Plan.operator?_eq_some_iff.mpr ⟨hmem, rfl⟩]
  rfl

lemma rowsOf_unary (hmem : operator ∈ v.plan.operators)
    (hproducers : v.plan.producersOf operator.id = [p]) :
    v.rowsOf engine catalog schemas operator.id =
      (v.rowsOf engine catalog schemas p).bind fun given =>
        operator.kind.rows engine catalog [((valueOf? p schemas).getD .empty, given)] := by
  rw [rowsOf_eq, hproducers, Plan.operator?_eq_some_iff.mpr ⟨hmem, rfl⟩, List.mapM_cons,
    List.mapM_nil]
  cases v.rowsOf engine catalog schemas p <;> rfl

lemma rowsOf_binary (hmem : operator ∈ v.plan.operators)
    (hproducers : v.plan.producersOf operator.id = [p, q]) :
    v.rowsOf engine catalog schemas operator.id =
      (v.rowsOf engine catalog schemas p).bind fun inners =>
        (v.rowsOf engine catalog schemas q).bind fun outers =>
          operator.kind.rows engine catalog [((valueOf? p schemas).getD .empty, inners),
            ((valueOf? q schemas).getD .empty, outers)] := by
  rw [rowsOf_eq, hproducers, Plan.operator?_eq_some_iff.mpr ⟨hmem, rfl⟩, List.mapM_cons,
    List.mapM_cons, List.mapM_nil]
  cases v.rowsOf engine catalog schemas p with
  | none => rfl
  | some inners => cases v.rowsOf engine catalog schemas q <;> rfl

end ValidPlan

lemma Slot.eq_of_fresh (slot : Slot) (h : slot.exhausted = false) :
    slot = ⟨slot.link, slot.supply, false⟩ := by
  rw [← h]

namespace Node.Works

variable {context : Context} {v : ValidPlan} {workers : Nat}
  {giver? : Supply → Option (Node TableScan StandardWorker)}
  {node : Node TableScan StandardWorker} {slots : List Slot} {inputs : List Schema}
  {schemas : List (OperatorId × Schema)} {ordered : Prop} {R : Forecast}
  {crew : Crew TableScan StandardWorker}

lemma exists_flows_source (h : node.Works (.standard engine) context v workers giver? [] inputs)
    (hcrew : node.crew.Primed .opened crew) :
    ∃ out, crew.Flows R out ∧
      out.Carries ordered node.schema
        (v.rowsOf engine context.catalog schemas node.operator.id) := by
  obtain ⟨count, -, hcreate⟩ := h.crew
  have hinputs : inputs = [] := List.forall₂_nil_left_iff.mp h.givers
  subst hinputs
  obtain ⟨make, hfactory, ⟨-, s, hmake, hnode⟩ | ⟨hne, -⟩⟩ := createCrew_eq_ok hcreate
  · obtain ⟨-, tuples, hyields, hrows, hbound⟩ :=
      StandardFactory.exists_yields hfactory hmake h.schema
    rw [hnode] at hcrew
    cases hcrew
    refine ⟨⟨tuples, none⟩, hyields, ?_⟩
    rw [ValidPlan.rowsOf_source h.mem h.producers_eq.symm]
    exact hrows ▸ Stream.carries_tuples hbound
  · exact (hne rfl).elim

/-- An operator that looks at tuples one by one carries what it makes of the rows of its
producer. -/
lemma exists_flows_unary {slot : Slot} {a : Schema}
    (h : node.Works (.standard engine) context v workers giver? [slot] [a])
    (hkind : node.operator.kind.isRowWise = true)
    (hvalue : valueOf? slot.link.producer schemas = some a)
    (hcarries : (R slot.supply).Carries ordered a
      (v.rowsOf engine context.catalog schemas slot.link.producer))
    (hcrew : node.crew.Primed .opened crew) :
    ∃ out, crew.Flows R out ∧
      out.Carries ordered node.schema
        (v.rowsOf engine context.catalog schemas node.operator.id) := by
  obtain ⟨count, -, hcreate⟩ := h.crew
  obtain ⟨make, hfactory, ⟨hnil, -⟩ | ⟨-, w, hmake, hnode⟩⟩ := createCrew_eq_ok hcreate
  · cases hnil
  · obtain ⟨f, happlies, hhandles⟩ :=
      StandardFactory.exists_handles hfactory hmake rfl h.schema hkind
    rw [hnode] at hcrew
    cases hcrew with
    | team team n =>
      refine ⟨_, Team.yields_through happlies (h.fresh slot (List.mem_singleton_self slot))
        (R slot.supply) _ rfl rfl (Nat.lt_of_lt_of_le Nat.one_pos (le_max_right ..)) rfl, ?_⟩
      rw [ValidPlan.rowsOf_unary h.mem h.producers_eq.symm, hvalue]
      simp only [OperatorKind.rows_singleton]
      exact hcarries.through hhandles

/-- A join carries the pairs of the rows of its producers. -/
lemma exists_flows_join {inner outer : Slot} {a b : Schema}
    (h : node.Works (.standard engine) context v workers giver? [inner, outer] [a, b])
    {innerColumn outerColumn : String} {threshold : Nat}
    (hkind : node.operator.kind = .join innerColumn outerColumn threshold)
    (ha : valueOf? inner.link.producer schemas = some a)
    (hb : valueOf? outer.link.producer schemas = some b)
    (hinner : (R inner.supply).Carries ordered a
      (v.rowsOf engine context.catalog schemas inner.link.producer))
    (houter : (R outer.supply).Carries ordered b
      (v.rowsOf engine context.catalog schemas outer.link.producer))
    (hordered : ¬ordered) (hcrew : node.crew.Primed .opened crew) :
    ∃ out, crew.Flows R out ∧
      out.Carries ordered node.schema
        (v.rowsOf engine context.catalog schemas node.operator.id) := by
  obtain ⟨count, hcount, hcreate⟩ := h.crew
  obtain rfl : count = 1 := by
    rw [hkind] at hcount
    cases hcount
    rfl
  let s : Joining := ⟨⟨innerColumn, outerColumn, threshold⟩, a, b, inner.link, outer.link⟩
  have hne : s.innerLink ≠ s.outerLink := by simpa using h.nodup_links
  obtain ⟨make, hfactory, ⟨hnil, -⟩ | ⟨-, w, hmake, hnode⟩⟩ := createCrew_eq_ok hcreate
  · cases hnil
  · rw [hkind] at hfactory
    cases hfactory
    obtain ⟨j, hjoin, hrecalls⟩ := StandardFactory.exists_join (s := s)
      (r := requestOf context node.operator [inner, outer] [a, b] node.schema)
      hkind rfl rfl h.schema
    rw [hjoin] at hmake
    cases hmake
    rw [hnode] at hcrew
    cases hcrew with
    | team team n =>
      obtain ⟨hfresh, hfresh', -⟩ : inner.exhausted = false ∧ outer.exhausted = false ∧ True := by
        simpa using h.fresh
      have hjoins : Team.Joins s node.schema inner.supply outer.supply [] (R inner.supply)
          (R outer.supply) { slots := [inner, outer], workers := [.join j], started := n } :=
        { recalls := ⟨j, rfl, hrecalls⟩
          nextWorker_eq := rfl
          pending_eq := rfl
          slots_eq := by
            conv_lhs => rw [inner.eq_of_fresh hfresh, outer.eq_of_fresh hfresh']
            simp [s]
          inner_done := nofun
          outer_done := nofun
          schema_inner := hinner.schema_eq
          schema_outer := houter.schema_eq }
      obtain ⟨out, hyields, hgives⟩ := hjoins.settles hne
      refine ⟨out, hyields, ?_⟩
      rw [ValidPlan.rowsOf_binary h.mem h.producers_eq.symm, hkind, ha, hb]
      have hcarries := hinner.join houter hgives hordered
      exact hcarries

/-- An opened node carries the rows of its operator. -/
lemma exists_flows (h : node.Works (.standard engine) context v workers giver? slots inputs)
    (hrows : node.operator.kind.hasRows = true)
    (hordered : node.operator.kind.isJoin = true → ¬ordered)
    (hbelow : List.Forall₂ (fun slot a => valueOf? slot.link.producer schemas = some a ∧
      (R slot.supply).Carries ordered a
        (v.rowsOf engine context.catalog schemas slot.link.producer))
      slots inputs)
    (hcrew : node.crew.Primed .opened crew) :
    ∃ out, crew.Flows R out ∧
      out.Carries ordered node.schema
        (v.rowsOf engine context.catalog schemas node.operator.id) := by
  have harity := Operator.length_inputs h.schema
  have hlength := h.givers.length_eq
  simp only [OperatorKind.hasRows, Bool.or_eq_true] at hrows
  rcases hrows with (hsource | hunary) | hjoin
  · obtain rfl : slots = [] := by
      rw [OperatorKind.isSource, beq_iff_eq] at hsource
      exact List.eq_nil_of_length_eq_zero (by omega)
    exact h.exists_flows_source hcrew
  · rw [OperatorKind.inputArity_of_isRowWise hunary] at harity
    obtain ⟨a, rfl⟩ := List.length_eq_one_iff.mp harity
    obtain ⟨slot, rfl⟩ := List.length_eq_one_iff.mp (hlength.trans harity)
    obtain ⟨⟨hvalue, hcarries⟩, -⟩ := List.forall₂_cons.mp hbelow
    exact h.exists_flows_unary hunary hvalue hcarries hcrew
  · cases hkind : node.operator.kind with
    | join innerColumn outerColumn threshold =>
      rw [hkind] at harity
      obtain ⟨a, b, rfl⟩ := List.length_eq_two.mp harity
      obtain ⟨inner, outer, rfl⟩ := List.length_eq_two.mp (hlength.trans harity)
      obtain ⟨⟨ha, hinner⟩, hrest⟩ := List.forall₂_cons.mp hbelow
      obtain ⟨⟨hb, houter⟩, -⟩ := List.forall₂_cons.mp hrest
      exact h.exists_flows_join hkind ha hb hinner houter (hordered hjoin) hcrew
    | _ =>
      rw [hkind] at hjoin
      cases hjoin

end Node.Works

end Dataflow
