import Dataflow.Error

/-!
# Schemas

A schema is an ordered list of named, typed attributes, no two of one name. Tuples keep their
fields in the order of the attributes.
-/

namespace Dataflow

/-- A named, typed column. -/
structure Attribute where
  name : String
  type : AttributeType
  deriving DecidableEq, Repr, Inhabited

/-- The first entry of a list that an earlier entry equals. -/
def firstRepeated? (seen : List String) : List String → Option String
  | [] => none
  | name :: names => if name ∈ seen then some name else firstRepeated? (name :: seen) names

/-- A list has no repeated entry exactly when its entries are distinct and none was seen. -/
theorem firstRepeated?_eq_none_iff {seen names : List String} :
    firstRepeated? seen names = none ↔ names.Nodup ∧ ∀ name ∈ names, name ∉ seen := by
  induction names generalizing seen with
  | nil => simp [firstRepeated?]
  | cons name names ih =>
    by_cases h : name ∈ seen
    · simp [firstRepeated?, h]
    · simp only [firstRepeated?, h, if_false, ih, List.nodup_cons, List.mem_cons, not_or]
      grind

/-- An ordered list of attributes with distinct names. -/
structure Schema where
  attributes : List Attribute
  distinct : firstRepeated? [] (attributes.map (·.name)) = none
  deriving DecidableEq

namespace Schema

/-- The schema of a list of attributes, unless two share a name. -/
def ofAttributes (attributes : List Attribute) : Result Schema :=
  match h : firstRepeated? [] (attributes.map (·.name)) with
  | none => .ok ⟨attributes, h⟩
  | some name => .error (.config (.repeatedAttribute name))

/-- The schema without attributes. -/
def empty : Schema :=
  ⟨[], rfl⟩

instance : Inhabited Schema :=
  ⟨empty⟩

/-- The number of attributes. -/
def size (s : Schema) : Nat :=
  s.attributes.length

/-- The names of the attributes, in order. -/
def names (s : Schema) : List String :=
  s.attributes.map (·.name)

/-- The place of an attribute. -/
def indexOf? (s : Schema) (name : String) : Option Nat :=
  s.attributes.findIdx? (·.name == name)

/-- The attribute of a name. -/
def attribute? (s : Schema) (name : String) : Option Attribute :=
  s.attributes.find? (·.name == name)

/-- Whether an attribute has the name. -/
def contains (s : Schema) (name : String) : Bool :=
  (s.indexOf? name).isSome

/-- The attributes of one schema followed by more attributes. -/
def extend (s : Schema) (attributes : List Attribute) : Result Schema :=
  ofAttributes (s.attributes ++ attributes)

/-- The attributes of one schema followed by those of another. -/
def concat (s t : Schema) : Result Schema :=
  s.extend t.attributes

/-- Making a schema keeps the attributes. -/
theorem attributes_of_ofAttributes {attributes : List Attribute} {s : Schema}
    (h : ofAttributes attributes = .ok s) : s.attributes = attributes := by
  unfold ofAttributes at h
  split at h
  · cases h; rfl
  · cases h

end Schema

end Dataflow
