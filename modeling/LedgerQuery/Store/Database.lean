import LedgerQuery.Store.Statement

/-!
# Tables of the embedded store

A table holds its rows in the order of their numbers. A column that is declared as the whole key of
type `INTEGER` is the number itself. Tables that count up keep the greatest number they have given
in a table of their own.

* `Database.table?`: the table of a name, whatever the case of `A`–`Z`.
* `Database.create`, `Database.insert`: new tables and new rows.
-/

namespace LedgerQuery.Store

/-- A row and its number. -/
structure Row where
  number : Int
  cells : List Value
  deriving Inhabited

/-- A table. -/
structure Table where
  name : String
  /-- The statement that created the table. -/
  definition : String := ""
  columns : List ColumnDeclaration
  rows : List Row := []
  deriving Inhabited

/-- The tables in the order of their creation. -/
structure Database where
  tables : List Table := []
  deriving Inhabited

namespace Table

/-- The column is the number of the row. -/
def isNumberColumn (c : ColumnDeclaration) : Bool :=
  0 < c.keyPlace && Text.foldAscii c.declared == "integer"

/-- The place of the column that is the number of the row. -/
def numberColumn? (t : Table) : Option Nat := t.columns.findIdx? isNumberColumn

/-- The greatest number of a row, or zero. -/
def greatestNumber (t : Table) : Int := t.rows.foldl (fun n r => max n r.number) 0

/-- Puts a row in its place. -/
def place (r : Row) : List Row → List Row
  | [] => [r]
  | s :: rest => if r.number < s.number then r :: s :: rest else s :: place r rest

/-- A column that must not hold one value twice. -/
def isKey (c : ColumnDeclaration) : Bool := c.isUnique || 0 < c.keyPlace

/-- Two cells that a key holds apart are the same. -/
def clashes (v w : Value) : Bool := !v.isNull && v.compare w == .eq

/-- The first fault of new cells: a required one that is missing, or one that is there already. -/
def fault? (t : Table) (cells : List Value) : Option Fault :=
  let pairs := t.columns.zip cells
  match pairs.find? fun p => p.1.isRequired && p.2.isNull with
  | some p => some (.notNull t.name p.1.name)
  | none =>
    (pairs.zipIdx.find? fun p =>
      isKey p.1.1 && t.rows.any fun r => clashes p.1.2 (r.cells.getD p.2 .null)).map
      fun p => .notUnique t.name p.1.1.name

/-- The number that a new row takes, given the greatest one ever given. -/
def numberFor (t : Table) (greatest : Int) (cells : List Value) : Except Fault Int :=
  match t.numberColumn? with
  | none => .ok (t.greatestNumber + 1)
  | some i =>
    match cells.getD i .null with
    | .null => .ok (max greatest t.greatestNumber + 1)
    | .int n => .ok n
    | _ => .error .mismatch

/-- Adds a row of given values. -/
def insert (t : Table) (greatest : Int) (values : List Value) : Except Fault (Table × Int) := do
  if values.length ≠ t.columns.length then
    throw (.wrongCount t.name t.columns.length values.length)
  let cells := t.columns.zipWith (fun c v => (Affinity.ofDeclared c.declared).apply v) values
  let number ← t.numberFor greatest cells
  let cells := match t.numberColumn? with
    | some i => cells.set i (.int number)
    | none => cells
  match t.fault? cells with
  | some f => throw f
  | none => return ({ t with rows := place ⟨number, cells⟩ t.rows }, number)

end Table

namespace Database

/-- The table that keeps the greatest numbers given. -/
def countersName : String := "sqlite_sequence"

/-- The table that lists the tables. -/
def catalogName : String := "sqlite_master"

/-- The table that lists the tables. -/
def catalog (d : Database) : Table :=
  let column (name declared : String) : ColumnDeclaration := { name, declared }
  { name := catalogName
    columns := [column "type" "TEXT", column "name" "TEXT", column "tbl_name" "TEXT",
      column "rootpage" "INT", column "sql" "TEXT"]
    rows := d.tables.zipIdx.map fun p =>
      ⟨p.2 + 1, [.text "table", .text p.1.name, .text p.1.name, .int (p.2 + 2),
        .text p.1.definition]⟩ }

/-- The table of a name. -/
def table? (d : Database) (name : String) : Option Table :=
  match d.tables.find? fun t => Text.sameFolded t.name name with
  | some t => some t
  | none =>
    if Text.sameFolded catalogName name || Text.sameFolded "sqlite_schema" name then some d.catalog
    else none

/-- The table of a name in a schema. There is only the schema `main`. -/
def find (d : Database) (schema : Option String) (name : String) : Except Fault Table :=
  let known := schema.all (Text.sameFolded "main")
  match (if known then d.table? name else none) with
  | some t => .ok t
  | none => .error (.noTable (match schema with
    | some s => s ++ "." ++ name
    | none => name))

/-- Puts a table in the place of the one of its name. -/
def replace (d : Database) (t : Table) : Database :=
  ⟨d.tables.map fun u => if u.name = t.name then t else u⟩

/-- The table that keeps the greatest numbers given, before any is given. -/
def emptyCounters : Table :=
  { name := countersName
    definition := "CREATE TABLE sqlite_sequence(name,seq)"
    columns := [{ name := "name" }, { name := "seq" }] }

/-- Adds a table, and the one that keeps the greatest numbers before the first that counts up. -/
def create (d : Database) (t : Table) : Database :=
  let counted := t.columns.any (·.countsUp) && (d.table? countersName).isNone
  ⟨d.tables ++ t :: if counted then [emptyCounters] else []⟩

/-- The greatest number given in a table that counts up. -/
def counter (d : Database) (name : String) : Int :=
  match (d.table? countersName).bind fun t => t.rows.find? fun r => r.cells.head? == some (.text name) with
  | some r => match r.cells.getD 1 .null with
    | .int n => n
    | _ => 0
  | none => 0

/-- Keeps the greatest number given in a table that counts up. -/
def count (d : Database) (name : String) (number : Int) : Database :=
  match d.table? countersName with
  | none => d
  | some t =>
    let cells := [Value.text name, .int (max (d.counter name) number)]
    if t.rows.any fun r => r.cells.head? == some (.text name) then
      d.replace { t with rows := t.rows.map fun r =>
        if r.cells.head? == some (.text name) then { r with cells } else r }
    else d.replace { t with rows := t.rows ++ [⟨t.greatestNumber + 1, cells⟩] }

/-- Adds a row of given values to a table. -/
def insert (d : Database) (t : Table) (values : List Value) : Except Fault Database := do
  let countsUp := t.columns.any (·.countsUp)
  let (t, number) ← t.insert (if countsUp then d.counter t.name else 0) values
  let d := d.replace t
  return if countsUp then d.count t.name number else d

end Database

end LedgerQuery.Store
