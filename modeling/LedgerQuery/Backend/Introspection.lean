import LedgerQuery.Json.Writer
import LedgerQuery.Result.Schema
import LedgerQuery.Sql.Literal

/-!
# Looking at the tables of a backend

What a backend asks its catalog for, and what it makes of the answers.

* `Catalog.embedded`, `Catalog.warehouse`: the two catalogs.
* `columns_length`: each row of an answer about columns gives one column.
-/

namespace LedgerQuery

/-- The text that a cell gives. -/
def cellText : Option Json → String
  | some (.text s) => s
  | some .null | none => ""
  | some j => j.render

/-- The whole number of a text with an optional sign, if signed 64 bits hold it; else zero. -/
def wholeText (s : String) : Int :=
  let (negative, r) := Decimal.signRun s.toList
  let n : Int := Decimal.digitsValue r
  let n := if negative then -n else n
  if r.isEmpty || !r.all Decimal.isDigit || n < Json.minSigned || Json.maxSigned < n then 0 else n

/-- The whole number that a cell gives. -/
def cellWhole : Option Json → Int
  | some (.int n) => if n ≤ Json.maxSigned then n else 0
  | some (.text s) => wholeText s
  | some (.bool b) => if b then 1 else 0
  | _ => 0

/-- The default that a cell gives; `null` is none. -/
def cellDefault (cell : Option Json) : Option Json :=
  cell.filter fun j => !j.isNull

/-- A statement with the values of its parameters. -/
structure Lookup where
  sql : String
  params : List Sql.Literal := []
  deriving Inhabited

/-- How a backend tells about its tables. -/
structure Catalog where
  /-- Shows that the connection works. -/
  probe : String
  tables : Lookup
  /-- The name belongs to the backend itself. -/
  isInternal : String → Bool
  columns : String → Lookup
  /-- The column that a row about it gives. -/
  column : Record → ColumnSchema

namespace Catalog

/-- The catalog of the embedded store. -/
def embedded : Catalog where
  probe := "SELECT 1"
  tables := ⟨"SELECT name FROM sqlite_master WHERE type = 'table' ORDER BY name", []⟩
  isInternal name := "sqlite_".toList.isPrefixOf name.toList
  columns table := ⟨"SELECT name, type, \"notnull\", dflt_value, pk FROM pragma_table_info(?) " ++
    "ORDER BY cid", [.text table]⟩
  column row := {
    name := cellText (row.lookup "name")
    dataType := cellText (row.lookup "type")
    nullable := cellWhole (row.lookup "notnull") == 0
    primaryKey := some (decide (0 < cellWhole (row.lookup "pk")))
    default := cellDefault (row.lookup "dflt_value") }

/-- The catalog of a schema of the warehouse. -/
def warehouse (schema : String) : Catalog where
  probe := "SELECT CURRENT_VERSION()"
  tables := ⟨"SELECT TABLE_NAME FROM INFORMATION_SCHEMA.TABLES " ++
    "WHERE TABLE_SCHEMA = ? AND TABLE_TYPE = 'BASE TABLE' ORDER BY TABLE_NAME", [.text schema]⟩
  isInternal _ := false
  columns table := ⟨"SELECT COLUMN_NAME, DATA_TYPE, IS_NULLABLE, COLUMN_DEFAULT " ++
    "FROM INFORMATION_SCHEMA.COLUMNS WHERE TABLE_NAME = ? AND TABLE_SCHEMA = ? " ++
    "ORDER BY ORDINAL_POSITION", [.text (Text.upper table), .text schema]⟩
  column row := {
    name := cellText (row.lookup "column_name")
    dataType := cellText (row.lookup "data_type")
    nullable := Text.sameFolded (cellText (row.lookup "is_nullable")) "YES"
    primaryKey := none
    default := cellDefault (row.lookup "column_default") }

/-- The columns that an answer about them gives. -/
def columnsOf (c : Catalog) (answer : RowSet) : List ColumnSchema :=
  answer.records.map c.column

/-- The tables that an answer about them gives: the first cells of its rows. -/
def tablesOf (c : Catalog) (answer : RowSet) : List String :=
  (answer.rows.filterMap fun row => row.head?.map fun cell => cellText (some cell)).filter
    fun name => !c.isInternal name

@[simp] theorem columns_length (c : Catalog) (answer : RowSet) :
    (c.columnsOf answer).length = answer.size := by
  simp [columnsOf]

end Catalog

theorem cellDefault_ne_null (cell : Option Json) : cellDefault cell ≠ some .null := by
  intro h
  obtain ⟨_, h⟩ := Option.filter_eq_some_iff.1 h
  simp [Json.isNull] at h

end LedgerQuery
