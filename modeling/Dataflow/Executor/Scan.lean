import Dataflow.Executor.Basic
import Dataflow.Matching.Finder

/-!
# Table scans

A scan reads the rows of a table when it is opened and gives them one by one. With a matcher it
gives only the rows that have matches, along with them.
-/

namespace Dataflow

/-- A scan of a table. -/
structure TableScan where
  catalog : Catalog
  table : String
  matcher : Option Matcher
  rest : List Tuple

namespace TableScan

/-- Reads the rows of the table. -/
def start (s : TableScan) : Result Unit × TableScan :=
  match s.catalog.scan s.table with
  | .ok rows => (.ok (), { s with rest := rows })
  | .error e => (.error e, s)

/-- The first row with matches, and the rows behind it. A row that cannot be matched ends the
search. -/
def firstMatch (m : Matcher) : List Tuple → Result (Option Tuple) × List Tuple
  | [] => (.ok none, [])
  | row :: rest =>
    match m.apply row with
    | .ok none => firstMatch m rest
    | result => (result, rest)

/-- Gives the next row. -/
def next (s : TableScan) : Result (Option Tuple) × TableScan :=
  match s.matcher with
  | none => (.ok s.rest.head?, { s with rest := s.rest.tail })
  | some m => (firstMatch m s.rest).map id fun rest => { s with rest := rest }

/-- Drops the rows that are left. -/
def stop (s : TableScan) : Result Unit × TableScan :=
  (.ok (), { s with rest := [] })

instance : Source TableScan := ⟨start, next, stop⟩

end TableScan

end Dataflow
