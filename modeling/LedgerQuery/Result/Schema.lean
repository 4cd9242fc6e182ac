import LedgerQuery.Descriptor.Period
import LedgerQuery.Result.Basic

/-!
# Table schemas

The columns of a table as introspection finds them, and the wire form of that.

* `TableSchema.column?`: the first column of a name, whatever the case of `A`–`Z`.
-/

namespace LedgerQuery

/-- A column of a table. -/
structure ColumnSchema where
  name : String
  dataType : String
  nullable : Bool
  /-- Missing where a backend does not tell. -/
  primaryKey : Option Bool := none
  /-- The default value; missing where there is none. -/
  default : Option Json := none
  deriving BEq, Inhabited

namespace ColumnSchema

/-- The column in JSON, without its missing parts. -/
def toJson (c : ColumnSchema) : Json :=
  .object ([("name", .text c.name), ("type", .text c.dataType), ("nullable", .bool c.nullable)] ++
    Period.memberOf "primary_key" .bool c.primaryKey ++ Period.memberOf "default" id c.default)

/-- The fields of a column. -/
def fields : List Json.Field :=
  [⟨"name", false⟩, ⟨"type", false⟩, ⟨"nullable", false⟩, ⟨"primary_key", true⟩, ⟨"default", true⟩]

/-- The parts of a column that are read so far. -/
structure Parts where
  name : Option String := none
  dataType : Option String := none
  nullable : Option Bool := none
  primaryKey : Option Bool := none
  default : Option Json := none

/-- Reads one field of a column. -/
def readField (room : Nat) (p : Parts) (name : String) (d : Json.Draft) :
    Except Json.Fault Parts :=
  if name = "name" then d.string.map fun v => { p with name := some v }
  else if name = "type" then d.string.map fun v => { p with dataType := some v }
  else if name = "nullable" then d.boolean.map fun v => { p with nullable := some v }
  else if name = "primary_key" then (d.option (·.boolean)).map fun v => { p with primaryKey := v }
  else (d.option (·.value room)).map fun v => { p with default := v }

/-- Reads a column in which `room` containers may be opened. -/
def ofDraft (source : Json.Source) (room : Nat) (d : Json.Draft) :
    Except Json.Fault ColumnSchema := do
  let p ← d.record source fields (readField (room - 1)) {}
  return ⟨← Json.Draft.required p.name, ← Json.Draft.required p.dataType,
    ← Json.Draft.required p.nullable, p.primaryKey, p.default⟩

end ColumnSchema

/-- The columns of a table in order. -/
structure TableSchema where
  table : String
  columns : List ColumnSchema
  deriving BEq, Inhabited

namespace TableSchema

/-- The first column of a name, whatever the case of `A`–`Z`. -/
def column? (t : TableSchema) (name : String) : Option ColumnSchema :=
  t.columns.find? fun c => Text.sameFolded c.name name

/-- The schema in JSON. -/
def toJson (t : TableSchema) : Json :=
  .object [("table_name", .text t.table), ("columns", .list (t.columns.map (·.toJson)))]

/-- The fields of a schema. -/
def fields : List Json.Field := [⟨"table_name", false⟩, ⟨"columns", false⟩]

/-- Reads one field of a schema. -/
def readField (source : Json.Source) (room : Nat) (s : Option String × Option (List ColumnSchema))
    (name : String) (d : Json.Draft) :
    Except Json.Fault (Option String × Option (List ColumnSchema)) :=
  if name = "table_name" then d.string.map fun v => (some v, s.2)
  else (d.elements (ColumnSchema.ofDraft source (room - 1))).map fun v => (s.1, some v)

/-- Reads a schema in which `room` containers may be opened. -/
def ofDraft (source : Json.Source) (room : Nat) (d : Json.Draft) :
    Except Json.Fault TableSchema := do
  let s ← d.record source fields (readField source (room - 1)) (none, none)
  return ⟨← Json.Draft.required s.1, ← Json.Draft.required s.2⟩

end TableSchema

end LedgerQuery
