import Dataflow.Plan.Typing

/-!
# Catalogs

A catalog holds tables by name. Every row of a table is bound to the schema of the table.
-/

namespace Dataflow

/-- Rows of one schema. -/
structure Table where
  schema : Schema
  rows : List Tuple
  bound : ∀ row ∈ rows, row.schema = schema

namespace Table

/-- The first row that is bound to another schema. -/
def stray? (schema : Schema) (rows : List Tuple) : Option Nat :=
  rows.findIdx? (·.schema ≠ schema)

/-- A table of rows, which have to be bound to its schema. -/
def ofRows (name : String) (schema : Schema) (rows : List Tuple) : Result Table :=
  match h : stray? schema rows with
  | some row => .error (.config (.rowSchema name row))
  | none => .ok
    { schema, rows
      bound := by simpa [stray?, List.findIdx?_eq_none_iff] using h }

end Table

/-- Tables by name. -/
structure Catalog where
  tables : List (String × Table)

namespace Catalog

/-- The catalog without tables. -/
def empty : Catalog :=
  ⟨[]⟩

/-- The catalog with a table added, or put in the place of another. -/
def register (c : Catalog) (name : String) (schema : Schema) (rows : List Tuple) :
    Result Catalog := do
  return ⟨(name, ← Table.ofRows name schema rows) :: c.tables.filter (·.1 != name)⟩

/-- The names of the tables, ascending. -/
def names (c : Catalog) : List String :=
  (c.tables.map (·.1)).mergeSort fun a b => !decide (b < a)

/-- The table of a name. -/
def table (c : Catalog) (name : String) : Result Table :=
  match c.tables.find? (·.1 == name) with
  | some (_, table) => .ok table
  | none => .error (.config (.unknownTable name))

/-- The schema of a table. -/
def schemas (c : Catalog) : TableSchemas := fun name => do
  return (← c.table name).schema

/-- The rows of a table. -/
def scan (c : Catalog) (name : String) : Result (List Tuple) := do
  return (← c.table name).rows

end Catalog

end Dataflow
