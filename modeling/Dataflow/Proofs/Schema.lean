import Mathlib.Tactic
import Dataflow.Tuple

/-!
# Attributes by name and by place

An attribute of a schema is found by its name exactly where it stands, since no two attributes
share a name. A row fits a schema if its values fit the attributes one by one.
-/

namespace Dataflow

namespace Schema

variable {s t : Schema} {attributes : List Attribute} {name : String} {i : Nat}

lemma nodup_names (s : Schema) : (s.attributes.map (·.name)).Nodup :=
  (firstRepeated?_eq_none_iff.mp s.distinct).1

lemma ofAttributes_eq_ok_iff : ofAttributes attributes = .ok s ↔ s.attributes = attributes := by
  refine ⟨attributes_of_ofAttributes, ?_⟩
  rintro rfl
  rw [ofAttributes]
  split
  · rfl
  · rename_i hrepeated
    rw [s.distinct] at hrepeated
    cases hrepeated

lemma exists_attributes_eq (h : (attributes.map (·.name)).Nodup) :
    ∃ s : Schema, s.attributes = attributes :=
  ⟨⟨attributes, firstRepeated?_eq_none_iff.mpr ⟨h, fun _ _ => List.not_mem_nil⟩⟩, rfl⟩

lemma indexOf?_eq_some_iff :
    s.indexOf? name = some i ↔ ∃ own, s.attributes[i]? = some own ∧ own.name = name := by
  rw [indexOf?, List.findIdx?_eq_some_iff_getElem]
  constructor
  · rintro ⟨hi, hname, -⟩
    exact ⟨_, List.getElem?_eq_getElem hi, beq_iff_eq.mp hname⟩
  · rintro ⟨own, hown, rfl⟩
    obtain ⟨hi, rfl⟩ := List.getElem?_eq_some_iff.mp hown
    refine ⟨hi, beq_self_eq_true _, fun j hj => ?_⟩
    rw [beq_iff_eq.not]
    intro heq
    refine List.nodup_iff_getElem?_ne_getElem?.mp s.nodup_names j i hj (by simpa using hi) ?_
    rw [List.getElem?_map, List.getElem?_map, hown,
      List.getElem?_eq_getElem (hj.trans hi), Option.map_some, Option.map_some, heq]

lemma name_eq_iff_of_indexOf? (h : s.indexOf? name = some i) {j : Nat} {own : Attribute}
    (hown : s.attributes[j]? = some own) : own.name = name ↔ i = j := by
  constructor
  · intro hname
    rw [indexOf?_eq_some_iff.mpr ⟨own, hown, hname⟩, Option.some.injEq] at h
    exact h.symm
  · rintro rfl
    obtain ⟨other, hother, hname⟩ := indexOf?_eq_some_iff.mp h
    rw [hown] at hother
    cases hother
    exact hname

lemma attribute?_eq_some_iff {own : Attribute} :
    s.attribute? name = some own ↔ own ∈ s.attributes ∧ own.name = name := by
  rw [attribute?]
  constructor
  · intro h
    exact ⟨List.mem_of_find?_eq_some h, by simpa using List.find?_some h⟩
  · rintro ⟨hmem, rfl⟩
    match hfind : s.attributes.find? (·.name == own.name) with
    | none => exact absurd (beq_self_eq_true own.name) (List.find?_eq_none.mp hfind own hmem)
    | some other =>
      have hname : other.name = own.name := by simpa using List.find?_some hfind
      rw [hfind,
        List.inj_on_of_nodup_map s.nodup_names (List.mem_of_find?_eq_some hfind) hmem hname]

lemma contains_iff : s.contains name = true ↔ ∃ own ∈ s.attributes, own.name = name := by
  rw [contains, Option.isSome_iff_exists]
  constructor
  · rintro ⟨i, hi⟩
    obtain ⟨own, hown, hname⟩ := indexOf?_eq_some_iff.mp hi
    exact ⟨own, List.mem_of_getElem? hown, hname⟩
  · rintro ⟨own, hown, hname⟩
    obtain ⟨i, hi⟩ := List.getElem?_of_mem hown
    exact ⟨i, indexOf?_eq_some_iff.mpr ⟨own, hi, hname⟩⟩

lemma attribute?_isSome : (s.attribute? name).isSome = s.contains name := by
  rw [Bool.eq_iff_iff, contains_iff, Option.isSome_iff_exists]
  simp only [attribute?_eq_some_iff]

end Schema

lemma fieldsFit_iff {attributes : List Attribute} {fields : List Field} :
    fieldsFit attributes fields = true ↔
      List.Forall₂ (fun own field => field.fits own.type = true) attributes fields := by
  fun_induction fieldsFit attributes fields with
  | case1 => simp
  | case2 own attributes field fields ih => simp [ih]
  | case3 attributes fields hnil hcons =>
    match attributes, fields with
    | [], [] => exact (hnil rfl rfl).elim
    | [], _ :: _ | _ :: _, [] => simp
    | own :: attributes, field :: fields => exact (hcons own attributes field fields rfl rfl).elim

namespace Tuple

variable {t : Tuple} {s : Schema} {fields : List Field} {i : Nat}

lemma fits (t : Tuple) :
    List.Forall₂ (fun own field => field.fits own.type = true) t.schema.attributes t.fields :=
  fieldsFit_iff.mp t.fitting

/-- A row is bound to a schema that it fits, and to no other one. -/
lemma bind_eq_ok_iff : Tuple.bind s fields = .ok t ↔ t.schema = s ∧ t.fields = fields := by
  rw [Tuple.bind]
  split_ifs with h
  · rw [Except.ok.injEq]
    constructor
    · rintro rfl
      exact ⟨rfl, rfl⟩
    · rintro ⟨rfl, rfl⟩
      rfl
  · refine ⟨fun hbound => (nomatch hbound), ?_⟩
    rintro ⟨rfl, rfl⟩
    exact (h t.fitting).elim

lemma exists_bind_eq_ok
    (h : List.Forall₂ (fun own field => field.fits own.type = true) s.attributes fields) :
    ∃ t, Tuple.bind s fields = .ok t ∧ t.schema = s ∧ t.fields = fields :=
  ⟨⟨s, fields, fieldsFit_iff.mpr h⟩, bind_eq_ok_iff.mpr ⟨rfl, rfl⟩, rfl, rfl⟩

lemma fits_getElem? {own : Attribute} (h : t.schema.attributes[i]? = some own) :
    ∃ field, t.fields[i]? = some field ∧ field.fits own.type = true := by
  obtain ⟨hi, rfl⟩ := List.getElem?_eq_some_iff.mp h
  have hlength := t.fits.length_eq
  exact ⟨_, List.getElem?_eq_getElem (hlength ▸ hi), t.fits.get hi (hlength ▸ hi)⟩

lemma exists_mapM_eq_ok {α : Type} (xs : List α) {f : α → Result Tuple} {g : α → List Field}
    (h : ∀ x ∈ xs, ∃ t, f x = .ok t ∧ t.schema = s ∧ t.fields = g x) :
    ∃ given, xs.mapM f = .ok given ∧ given.map Tuple.fields = xs.map g ∧
      ∀ t ∈ given, t.schema = s := by
  induction xs with
  | nil => exact ⟨[], rfl, rfl, nofun⟩
  | cons x xs ih =>
    obtain ⟨⟨t, ht, hschema, hfields⟩, hrest⟩ := List.forall_mem_cons.mp h
    obtain ⟨given, hgiven, hmap, hall⟩ := ih hrest
    refine ⟨t :: given, ?_, by rw [List.map_cons, List.map_cons, hfields, hmap],
      List.forall_mem_cons.mpr ⟨hschema, hall⟩⟩
    rw [List.mapM_cons, ht, hgiven]
    rfl

end Tuple

end Dataflow
