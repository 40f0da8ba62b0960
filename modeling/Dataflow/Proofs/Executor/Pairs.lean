import Dataflow.Plan.Typing
import Dataflow.Proofs.Lists
import Dataflow.Proofs.Meaning.Rows
import Dataflow.Proofs.Schema

/-!
# Joined tuples by name

A join works with the places of attributes, and its meaning speaks of their names. For tuples of
the two schemas that the join was made for this is the same: tuples are paired exactly if their
rows belong together, and every pair can be bound to the schema of the output.
-/

namespace Dataflow

namespace Schema

variable {s : Schema} {own : Attribute} {i : Nat}

lemma indexOf?_of_mem_zipIdx (h : (own, i) ∈ s.attributes.zipIdx) :
    s.indexOf? own.name = some i :=
  indexOf?_eq_some_iff.mpr ⟨own, List.mem_zipIdx_iff_getElem?.mp h, rfl⟩

lemma value_eq_valueAt {t : Tuple} {name : String} (h : t.schema.indexOf? name = some i) :
    t.schema.value t.fields name = JoinPlan.valueAt t i := by
  rw [value, h]
  rfl

lemma map_places (t : Tuple) (p : Attribute → Bool) :
    ((t.schema.attributes.zipIdx.filter fun entry => p entry.1).map Prod.snd).map
        (JoinPlan.valueAt t) =
      (t.schema.attributes.filter p).map fun own => t.schema.value t.fields own.name := by
  conv_rhs => rw [← List.zipIdx_map_fst 0 t.schema.attributes, List.filter_map, List.map_map]
  rw [List.map_map]
  refine List.map_congr_left fun entry hentry => ?_
  exact (value_eq_valueAt (indexOf?_of_mem_zipIdx (List.mem_of_mem_filter hentry))).symm

end Schema

/-- A plan pairs the tuples of two schemas as their rows belong together, and binds the pairs to a
third one. -/
structure JoinPlan.Realizes (plan : JoinPlan) (p : Pairing) (a b output : Schema) : Prop where
  pairs_eq : ∀ t u : Tuple, t.schema = a → u.schema = b →
    plan.pairs t u = p.holds a b t.fields u.fields
  joined_eq : ∀ t u : Tuple, t.schema = a → u.schema = b → ∃ x, plan.joined t u = .ok x ∧
    x.schema = output ∧ x.fields = joinRow a b t.fields u.fields

namespace Operator

variable {id : OperatorId} {a b output : Schema} {attributes : List Attribute}

lemma outputOf_eq_ok_iff :
    outputOf id attributes = .ok output ↔ output.attributes = attributes := by
  rw [outputOf, ← Schema.ofAttributes_eq_ok_iff]
  split
  · next h =>
    rw [h]
    exact ⟨fun h => (nomatch h), fun h => (nomatch h)⟩
  · rfl

lemma outerOnly_eq {columns own : List Attribute} (h : outerOnly id a columns = .ok own) :
    own = columns.filter fun column => !a.contains column.name := by
  induction columns generalizing own with
  | nil =>
    cases h
    rfl
  | cons column columns ih =>
    rw [outerOnly] at h
    split at h
    · next found hfound =>
      split_ifs at h
      have hcontains : a.contains column.name = true := by
        rw [← Schema.attribute?_isSome, hfound, Option.isSome_some]
      rw [List.filter_cons_of_neg (by simp [hcontains]), ih h]
    · next hnone =>
      have hcontains : a.contains column.name = false := by
        rw [← Schema.attribute?_isSome, hnone, Option.isSome_none]
      match hrest : outerOnly id a columns with
      | .error e =>
        rw [hrest] at h
        cases h
      | .ok rest =>
        rw [hrest] at h
        cases h
        rw [List.filter_cons_of_pos (by simp [hcontains]), ih hrest]

lemma attributes_of_joinSchema {innerColumn outerColumn : String}
    (h : joinSchema id a b innerColumn outerColumn = .ok output) :
    output.attributes = a.attributes ++ b.attributes.filter fun own => !a.contains own.name := by
  rw [joinSchema] at h
  split_ifs at h
  · cases h
  · cases h
  · cases h
  match hrest : outerOnly id a b.attributes with
  | .error e =>
    rw [hrest] at h
    cases h
  | .ok rest =>
    rw [hrest] at h
    rw [outputOf_eq_ok_iff.mp h, outerOnly_eq hrest]

end Operator

namespace JoinPlan

variable {a b output : Schema} {t u : Tuple}

lemma spansIn_eq_spansFrom (t : Tuple) (column : String) :
    spansIn t (listPlaces t.schema) column = t.schema.spansFrom t.fields column := by
  have hplaces : listPlaces t.schema = (t.schema.attributes.zipIdx.filter fun entry =>
      entry.1.type = .list).map Prod.snd := by
    rw [listPlaces, ← List.filterMap_eq_filter, List.map_filterMap]
    refine List.filterMap_congr fun entry _ => ?_
    simp only [Option.guard_apply, decide_eq_true_eq]
    split_ifs <;> rfl
  have hvalues := Schema.map_places t fun own => own.type = .list
  beta_reduce at hvalues
  rw [spansIn, Schema.spansFrom, hplaces, ← List.flatMap_map, hvalues, List.flatMap_map]

/-- The values that have to be equal are those of the attributes that both sides have. -/
lemma all_keys_eq (a : Schema) (t u : Tuple) (ht : t.schema = a) :
    (u.schema.attributes.zipIdx.filterMap (fun (column, o) =>
        if column.type = .list then none
        else (a.indexOf? column.name).map fun i => (i, o))).all
      (fun (i, o) => valueAt t i == valueAt u o) =
    u.schema.attributes.all fun own => own.type = .list || !a.contains own.name ||
      a.value t.fields own.name == u.schema.value u.fields own.name := by
  subst ht
  conv_rhs => rw [← List.zipIdx_map_fst 0 u.schema.attributes, List.all_map]
  rw [Bool.eq_iff_iff, List.all_filterMap, List.all_eq_true, List.all_eq_true]
  refine forall₂_congr fun ⟨own, o⟩ hentry => ?_
  have houter := Schema.value_eq_valueAt (t := u) (Schema.indexOf?_of_mem_zipIdx hentry)
  by_cases htype : own.type = .list
  · simp [htype]
  · match hindex : t.schema.indexOf? own.name with
    | none =>
      have hcontains : t.schema.contains own.name = false := by
        rw [Schema.contains, hindex, Option.isSome_none]
      simp [htype, hindex, hcontains]
    | some i =>
      have hcontains : t.schema.contains own.name = true := by
        rw [Schema.contains, hindex, Option.isSome_some]
      simp [htype, hindex, hcontains, houter, Schema.value_eq_valueAt hindex]

/-- The plan of a pairing of the tuples of two schemas. -/
def between (p : Pairing) (a b output : Schema) : JoinPlan where
  innerColumn := p.innerColumn
  outerColumn := p.outerColumn
  threshold := p.threshold
  keys := b.attributes.zipIdx.filterMap fun (column, o) =>
    if column.type = .list then none else (a.indexOf? column.name).map fun i => (i, o)
  extra := (b.attributes.zipIdx.filter fun entry => !a.contains entry.1.name).map Prod.snd
  innerLists := listPlaces a
  outerLists := listPlaces b
  schema := output

/-- Schemas of which the join has a schema have a plan. -/
lemma ofSchemas_eq (id : OperatorId) {p : Pairing}
    (h : output.attributes = a.attributes ++ b.attributes.filter fun own => !a.contains own.name) :
    ofSchemas id p.innerColumn p.outerColumn p.threshold a b output =
      .ok (between p a b output) := by
  obtain ⟨extra, hextra⟩ := Schema.exists_attributes_eq
    (b.nodup_names.sublist ((List.filter_sublist (p := fun own => !a.contains own.name)).map _))
  have hfirst : Schema.ofAttributes ((b.attributes.zipIdx.filter fun entry =>
      !a.contains entry.1.name).map Prod.fst) = .ok extra := by
    rw [Schema.ofAttributes_eq_ok_iff, hextra]
    conv_lhs => rw [← List.zipIdx_map_fst 0 b.attributes, List.filter_map]
    rfl
  have hconcat : a.concat extra = .ok output := by
    refine Schema.ofAttributes_eq_ok_iff.mpr ?_
    rw [h, hextra]
  change (Schema.ofAttributes ((b.attributes.zipIdx.filter fun entry =>
    !a.contains entry.1.name).map Prod.fst) >>= fun extra => a.concat extra >>= _) = _
  rw [hfirst]
  change (a.concat extra >>= _) = _
  rw [hconcat]
  exact if_pos rfl

lemma fits_extra (u : Tuple) (p : Attribute → Bool) :
    List.Forall₂ (fun own field => field.fits own.type = true) (u.schema.attributes.filter p)
      ((u.schema.attributes.filter p).map fun own => u.schema.value u.fields own.name) := by
  rw [List.forall₂_map_right_iff, List.forall₂_same]
  intro own hown
  obtain ⟨i, hi⟩ := List.getElem?_of_mem (List.mem_of_mem_filter hown)
  obtain ⟨field, hfield, hfits⟩ := u.fits_getElem? hi
  rw [Schema.value_eq_valueAt (Schema.indexOf?_eq_some_iff.mpr ⟨own, hi, rfl⟩), valueAt, hfield]
  exact hfits

lemma between_realizes {p : Pairing}
    (h : output.attributes = a.attributes ++ b.attributes.filter fun own => !a.contains own.name) :
    (between p a b output).Realizes p a b output where
  pairs_eq := by
    rintro t u rfl rfl
    rw [pairs, Pairing.holds]
    congr 1
    · exact all_keys_eq t.schema t u rfl
    · change ((spansIn t (listPlaces t.schema) _).any fun s =>
        (spansIn u (listPlaces u.schema) _).any _) = _
      rw [spansIn_eq_spansFrom, spansIn_eq_spansFrom]
      rfl
  joined_eq := by
    rintro t u rfl rfl
    have hextra := Schema.map_places u fun own => !t.schema.contains own.name
    beta_reduce at hextra
    have hfields : t.fields ++ (between p t.schema u.schema output).extra.map (valueAt u) =
        joinRow t.schema u.schema t.fields u.fields := congrArg (t.fields ++ ·) hextra
    rw [joined, hfields]
    refine Tuple.exists_bind_eq_ok ?_
    change List.Forall₂ _ output.attributes _
    rw [h]
    exact List.rel_append t.fits (fits_extra u _)

end JoinPlan

end Dataflow
