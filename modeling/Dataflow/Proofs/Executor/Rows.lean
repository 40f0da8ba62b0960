import Dataflow.Executor.Standard
import Dataflow.Proofs.Executor.Pairs

/-!
# Workers that look at tuples one by one

Matchers, projections, casts and sinks make of each tuple what their kind makes of its row, bound
to the schema that was inferred. Only a cast may refuse a tuple.
-/

namespace Dataflow

namespace Schema

variable {s : Schema} {own : Attribute} {name : String}

lemma fits_value {t : Tuple} (h : t.schema.attribute? name = some own) :
    (t.schema.value t.fields name).fits own.type = true := by
  obtain ⟨hmem, rfl⟩ := attribute?_eq_some_iff.mp h
  obtain ⟨i, hi⟩ := List.getElem?_of_mem hmem
  obtain ⟨field, hfield, hfits⟩ := t.fits_getElem? hi
  rwa [value_eq_valueAt (indexOf?_eq_some_iff.mpr ⟨own, hi, rfl⟩), JoinPlan.valueAt, hfield]

lemma exists_indexOf? (h : s.attribute? name = some own) : ∃ i, s.indexOf? name = some i := by
  rw [← Option.isSome_iff_exists]
  change s.contains name = true
  rw [← attribute?_isSome, h, Option.isSome_some]

end Schema

lemma Field.text_or_null {field : Field} {type : AttributeType} (h : field.fits type = true)
    (htype : type.isTextual = true) :
    field = .null ∨ ∃ s, field = .string s ∨ field = .text s := by
  cases field <;> cases type <;> simp_all [fits, type?, AttributeType.isTextual]

namespace Tuple

variable {t : Tuple} {own : Attribute} {name : String}

lemma field_eq (h : t.schema.attribute? name = some own) :
    t.field name = .ok (t.schema.value t.fields name) := by
  obtain ⟨i, hi⟩ := Schema.exists_indexOf? h
  obtain ⟨other, hother, -⟩ := Schema.indexOf?_eq_some_iff.mp hi
  obtain ⟨value, hvalue, -⟩ := t.fits_getElem? hother
  rw [Schema.value_eq_valueAt hi, field, hi, Option.bind_some, hvalue, JoinPlan.valueAt, hvalue]
  rfl

lemma getText?_eq (h : t.schema.attribute? name = some own) (htype : own.type.isTextual = true) :
    t.getText? name = .ok (t.schema.value t.fields name).text? := by
  rw [getText?, getText, fieldAs, field_eq h]
  rcases Field.text_or_null (Schema.fits_value h) htype with hnull | ⟨s, hs | hs⟩
  · rw [hnull]
    rfl
  · rw [hs]
    rfl
  · rw [hs]
    rfl

end Tuple

namespace Finder

variable {id : OperatorId} {a output : Schema} {columns : List String} {result : String}

lemma findIn_eq (finder : Finder) {t : Tuple}
    (h : ∀ column ∈ columns, ∃ own, t.schema.attribute? column = some own ∧
      own.type.isTextual = true) :
    finder.findIn t columns = .ok (finder.spans columns t.schema t.fields) := by
  rw [spans, List.flatMap_def]
  refine seq_eq_ok_iff.mpr ⟨_, mapM_eq_ok_iff.mpr ?_, rfl⟩
  rw [List.forall₂_map_right_iff, List.forall₂_same]
  intro column hcolumn
  obtain ⟨own, hown, htype⟩ := h column hcolumn
  rw [Tuple.getText?_eq hown htype]
  rcases (t.schema.value t.fields column).text? with _ | text <;> rfl

end Finder

namespace Operator

variable {id : OperatorId} {a output : Schema} {columns : List String} {result : String}

lemma requireTextual_eq_ok_iff (id : OperatorId) {name : String} :
    requireTextual id a name = .ok () ↔
      ∃ own, a.attribute? name = some own ∧ own.type.isTextual = true := by
  rw [requireTextual]
  cases a.attribute? name with
  | none => simp
  | some own => simp

/-- A matcher needs attributes to read, all of them textual, and adds one of spans with a new
name. -/
lemma matcherSchema_eq_ok_iff : matcherSchema id a columns result = .ok output ↔
    columns.isEmpty = false ∧
      (∀ column ∈ columns, ∃ own, a.attribute? column = some own ∧ own.type.isTextual = true) ∧
      a.contains result = false ∧ output.attributes = a.attributes ++ [⟨result, .list⟩] := by
  rw [matcherSchema]
  cases hempty : columns.isEmpty with
  | true => exact ⟨nofun, fun h => by cases h.1⟩
  | false =>
    rw [if_neg Bool.false_ne_true, and_iff_right rfl]
    simp only [← requireTextual_eq_ok_iff id, ← forM_eq_ok_iff]
    refine seq_eq_ok_iff.trans ⟨?_, ?_⟩
    · rintro ⟨⟨⟩, hcolumns, h⟩
      cases hresult : a.contains result with
      | true =>
        rw [hresult, if_pos rfl] at h
        cases h
      | false =>
        rw [hresult, if_neg Bool.false_ne_true] at h
        exact ⟨hcolumns, rfl, outputOf_eq_ok_iff.mp h⟩
    · rintro ⟨hcolumns, hresult, houtput⟩
      refine ⟨(), hcolumns, ?_⟩
      rw [hresult, if_neg Bool.false_ne_true]
      exact outputOf_eq_ok_iff.mpr houtput

lemma matcherSchema_eq_ok (h : matcherSchema id a columns result = .ok output) :
    (∀ column ∈ columns, ∃ own, a.attribute? column = some own ∧ own.type.isTextual = true) ∧
      output.attributes = a.attributes ++ [⟨result, .list⟩] := by
  obtain ⟨-, hcolumns, -, houtput⟩ := matcherSchema_eq_ok_iff.mp h
  exact ⟨hcolumns, houtput⟩

end Operator

/-- What a kind makes of a row: a function does the same to tuples of a schema, bound to another
schema. Only what the kind refuses may fail. -/
def OperatorKind.Handles (engine : PatternEngine) (kind : OperatorKind) (a output : Schema)
    (f : Tuple → Result (List Tuple)) : Prop :=
  ∀ t : Tuple, t.schema = a → match f t with
    | .ok given => kind.onRow engine a t.fields = some (given.map Tuple.fields) ∧
        ∀ x ∈ given, x.schema = output
    | .error e => kind.onRow engine a t.fields = none ∧ ∃ column target,
        kind = .typeCasting column target ∧ (a.value t.fields column).cast column target = .error e

/-- A matcher keeps the tuples with matches. -/
lemma Matcher.exists_apply {m : Matcher} {a : Schema} {result : String}
    (hcolumns : ∀ column ∈ m.columns, ∃ own, a.attribute? column = some own ∧
      own.type.isTextual = true)
    (houtput : m.schema.attributes = a.attributes ++ [⟨result, .list⟩]) {t : Tuple}
    (ht : t.schema = a) :
    ∃ given, m.apply t = .ok given ∧
      given.toList.map Tuple.fields = m.finder.keep m.columns a t.fields ∧
      ∀ x ∈ given, x.schema = m.schema := by
  subst ht
  have hfind := m.finder.findIn_eq hcolumns
  rw [Finder.keep]
  by_cases hempty : (m.finder.spans m.columns t.schema t.fields).isEmpty = true
  · refine ⟨none, seq_eq_ok_iff.mpr ⟨_, hfind, ?_⟩, ?_, nofun⟩
    · rw [if_pos hempty]
      rfl
    · rw [if_pos hempty]
      rfl
  · have hfits : List.Forall₂ (fun own field => field.fits own.type = true) m.schema.attributes
        (t.fields ++ [.list (m.finder.spans m.columns t.schema t.fields)]) := by
      rw [houtput]
      exact List.rel_append t.fits (.cons rfl .nil)
    obtain ⟨x, hx, hschema, hfields⟩ := Tuple.exists_bind_eq_ok hfits
    refine ⟨some x, seq_eq_ok_iff.mpr ⟨_, hfind, ?_⟩, ?_, by simpa using hschema⟩
    · rw [if_neg hempty]
      exact seq_eq_ok_iff.mpr ⟨x, hx, rfl⟩
    · rw [if_neg hempty, Option.toList_some, List.map_cons, List.map_nil, hfields]

lemma Operator.projectionSchema_eq_ok {id : OperatorId} {a output : Schema} {columns : List String}
    (h : projectionSchema id a columns = .ok output) :
    List.Forall₂ (fun column own => a.attribute? column = some own) columns output.attributes := by
  obtain ⟨kept, hkept, h⟩ := seq_eq_ok_iff.mp h
  rw [outputOf_eq_ok_iff.mp h]
  refine (mapM_eq_ok_iff.mp hkept).imp fun column own hown => ?_
  split at hown
  · next found hfound =>
    cases hown
    exact hfound
  · cases hown

namespace StandardWorker

lemma exists_project {a output : Schema} {columns : List String} {places : List Nat}
    (hplaces : List.Forall₂ (fun column place => a.indexOf? column = some place) columns places)
    (houtput : List.Forall₂ (fun column own => a.attribute? column = some own) columns
      output.attributes) {t : Tuple} (ht : t.schema = a) :
    ∃ x, project places output t = .ok x ∧ x.schema = output ∧
      x.fields = columns.map (a.value t.fields) := by
  subst ht
  have hvalues : places.map (JoinPlan.valueAt t) = columns.map (t.schema.value t.fields) := by
    rw [← List.forall₂_eq_eq_eq, List.forall₂_map_left_iff, List.forall₂_map_right_iff]
    exact hplaces.flip.imp fun place column h => (Schema.value_eq_valueAt h).symm
  change ∃ x, Tuple.bind output (places.map (JoinPlan.valueAt t)) = _ ∧ _
  rw [hvalues]
  refine Tuple.exists_bind_eq_ok ?_
  rw [List.forall₂_map_right_iff]
  exact houtput.flip.imp fun own column h => Schema.fits_value h

/-- A value that was cast fits the new type. -/
lemma fits_of_cast {column : String} {target : AttributeType} {value value' : Field}
    (h : value.cast column target = .ok value') : value'.fits target = true := by
  rw [Field.cast] at h
  split_ifs at h
  · cases h
    rfl
  · split at h
    · next converted hconverted =>
      cases h
      cases target <;> simp only [Field.convert?, Option.map_eq_some_iff] at hconverted
      · split at hconverted
        · cases hconverted
        · cases hconverted
          rfl
      all_goals first
        | obtain ⟨_, -, rfl⟩ := hconverted
          rfl
        | cases hconverted
    · cases h

end StandardWorker

lemma Operator.castSchema_eq_ok {id : OperatorId} {a output : Schema} {name : String}
    {target : AttributeType} (h : castSchema id a name target = .ok output) :
    output.attributes = a.attributes.map fun own =>
      if own.name = name then { own with type := target } else own := by
  rw [castSchema] at h
  by_cases htarget : (!target.isCastTarget) = true
  · rw [if_pos htarget] at h
    cases h
  rw [if_neg htarget] at h
  by_cases hname : (!a.contains name) = true
  · rw [if_pos hname] at h
    cases h
  rw [if_neg hname] at h
  exact outputOf_eq_ok_iff.mp h

namespace StandardWorker

/-- A tuple with a value of a new type fits the schema in which its attribute has this type. -/
lemma fits_set {a output : Schema} {column : String} {place : Nat} {target : AttributeType}
    (hplace : a.indexOf? column = some place)
    (houtput : output.attributes = a.attributes.map fun own =>
      if own.name = column then { own with type := target } else own)
    {t : Tuple} (ht : t.schema = a) {value : Field} (hvalue : value.fits target = true) :
    List.Forall₂ (fun own field => field.fits own.type = true) output.attributes
      (t.fields.set place value) := by
  subst ht
  rw [houtput, List.forall₂_map_left_iff, List.forall₂_iff_get]
  refine ⟨by rw [List.length_set, t.fits.length_eq], fun i hi hi' => ?_⟩
  rw [List.length_set] at hi'
  have hname := Schema.name_eq_iff_of_indexOf? hplace (List.getElem?_eq_getElem hi)
  simp only [List.get_eq_getElem, List.getElem_set, hname]
  split_ifs with heq
  · exact hvalue
  · exact t.fits.get hi hi'

/-- A cast replaces one value, unless it cannot be cast. -/
lemma castAt_spec {a output : Schema} {column : String} {place : Nat} {target : AttributeType}
    (hplace : a.indexOf? column = some place)
    (houtput : output.attributes = a.attributes.map fun own =>
      if own.name = column then { own with type := target } else own)
    {t : Tuple} (ht : t.schema = a) :
    match castAt column place target output t with
    | .ok x => ∃ value, (a.value t.fields column).cast column target = .ok value ∧
        x.schema = output ∧ x.fields = a.replace t.fields column value
    | .error e => (a.value t.fields column).cast column target = .error e := by
  subst ht
  have hvalue : t.schema.value t.fields column = t.fields[place]?.getD .null :=
    Schema.value_eq_valueAt hplace
  rw [castAt, ← hvalue]
  match hcast : (t.schema.value t.fields column).cast column target with
  | .error e => rfl
  | .ok value =>
    obtain ⟨x, hx, hschema, hfields⟩ := Tuple.exists_bind_eq_ok
      (fits_set hplace houtput rfl (fits_of_cast hcast))
    rw [Result.ok_bind, hx]
    refine ⟨value, rfl, hschema, ?_⟩
    rw [hfields, Schema.replace, hplace]

end StandardWorker

end Dataflow
