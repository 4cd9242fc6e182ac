import LedgerQuery.Json.Reader
import LedgerQuery.Json.Record
import LedgerQuery.Json.Writer
import LedgerQuery.Result.Basic

/-!
# Messages of a driver process

Each message is a JSON object on a line of its own. A request has an identifier, the name of a method
and its parameters; the response to it carries the same identifier.

* `Request.line`: the line of a request.
* `Response.parse`: the response on a line, if it holds one.
-/

namespace LedgerQuery.Driver

/-- What is needed to open a connection. -/
structure Credentials where
  account : String
  user : String
  password : String
  warehouse : String
  database : String
  schema : String
  deriving DecidableEq, Inhabited

/-- What a driver is asked to do. -/
structure Request where
  method : String
  params : Json
  deriving BEq, Inhabited

namespace Request

/-- Opens a connection. -/
def openConnection (c : Credentials) : Request :=
  ⟨"connection.open", .object [("account", .text c.account), ("user", .text c.user),
    ("password", .text c.password), ("warehouse", .text c.warehouse),
    ("database", .text c.database), ("schema", .text c.schema)]⟩

/-- Executes a statement. The arguments are left out if there are none. -/
def execute (session sql : String) (args : List Json) : Request :=
  ⟨"query.execute", .object ([("session_id", .text session), ("sql", .text sql)] ++
    if args.isEmpty then [] else [("args", .list args)])⟩

/-- Closes a connection. -/
def closeConnection (session : String) : Request :=
  ⟨"connection.close", .object [("session_id", .text session)]⟩

/-- The request in JSON, under its identifier. -/
def toJson (r : Request) (id : String) : Json :=
  .object [("id", .text id), ("method", .text r.method), ("params", r.params)]

/-- The line of a request, without its line break. -/
def line (r : Request) (id : String) : String :=
  (r.toJson id).render

/-- What is written to a driver for a request: its line, and a line break behind it. -/
def frame (r : Request) (id : String) : String :=
  r.line id ++ "\n"

end Request

/-- What a driver tells about a failure. -/
structure ErrorInfo where
  code : String
  message : String
  deriving DecidableEq, Inhabited

namespace ErrorInfo

/-- Reads one field of a failure. -/
def readField (s : Option String × Option String) (name : String) (d : Json.Draft) :
    Except Json.Fault (Option String × Option String) :=
  if name = "code" then d.string.map fun v => (some v, s.2)
  else d.string.map fun v => (s.1, some v)

/-- Reads a failure. -/
def ofDraft (d : Json.Draft) : Except Json.Fault ErrorInfo := do
  let s ← d.record .stream [⟨"code", false⟩, ⟨"message", false⟩] readField (none, none)
  return ⟨← Json.Draft.required s.1, ← Json.Draft.required s.2⟩

end ErrorInfo

/-- What a driver answers. A result that is `null` counts as missing. -/
structure Response where
  id : String
  success : Bool
  result : Option Json := none
  error : Option ErrorInfo := none
  deriving BEq, Inhabited

namespace Response

/-- The fields of a response. -/
def fields : List Json.Field :=
  [⟨"id", false⟩, ⟨"success", false⟩, ⟨"result", true⟩, ⟨"error", true⟩]

/-- The parts of a response that are read so far. -/
structure Parts where
  id : Option String := none
  success : Option Bool := none
  result : Option Json := none
  error : Option ErrorInfo := none

/-- Reads one field of a response. -/
def readField (room : Nat) (p : Parts) (name : String) (d : Json.Draft) :
    Except Json.Fault Parts :=
  if name = "id" then d.string.map fun v => { p with id := some v }
  else if name = "success" then d.boolean.map fun v => { p with success := some v }
  else if name = "result" then (d.option (·.value room)).map fun v => { p with result := v }
  else (d.option ErrorInfo.ofDraft).map fun v => { p with error := v }

/-- Reads a response in which `room` containers may be opened. -/
def ofDraft (room : Nat) (d : Json.Draft) : Except Json.Fault Response := do
  let p ← d.record .stream fields (readField (room - 1)) {}
  return ⟨← Json.Draft.required p.id, ← Json.Draft.required p.success, p.result, p.error⟩

/-- The response on a line. -/
def parse (s : String) : Except Json.Fault Response :=
  (Json.document s).finish (ofDraft Json.maxDepth)

end Response

/-- A column of an answer to a statement. -/
structure AnswerColumn where
  name : String
  dataType : String := ""
  deriving DecidableEq, Inhabited

namespace AnswerColumn

/-- Reads one field of a column. -/
def readField (s : Option String × String) (name : String) (d : Json.Draft) :
    Except Json.Fault (Option String × String) :=
  if name = "name" then d.string.map fun v => (some v, s.2)
  else d.string.map fun v => (s.1, v)

/-- Reads a column. -/
def ofDraft (source : Json.Source) (d : Json.Draft) : Except Json.Fault AnswerColumn := do
  let s ← d.record source [⟨"name", false⟩, ⟨"data_type", true⟩] readField (none, "")
  return ⟨← Json.Draft.required s.1, s.2⟩

end AnswerColumn

/-- The answer to a statement. -/
structure Answer where
  columns : List AnswerColumn
  rows : List (List Json) := []
  rowCount : Nat := 0
  deriving BEq, Inhabited

namespace Answer

/-- Reads one field of an answer. -/
def readField (source : Json.Source) (room : Nat)
    (s : Option (List AnswerColumn) × List (List Json) × Nat) (name : String) (d : Json.Draft) :
    Except Json.Fault (Option (List AnswerColumn) × List (List Json) × Nat) :=
  if name = "columns" then
    (d.elements (AnswerColumn.ofDraft source)).map fun v => (some v, s.2)
  else if name = "rows" then (RowSet.rowsOfDraft room d).map fun v => (s.1, v, s.2.2)
  else d.count.map fun v => (s.1, s.2.1, v)

/-- Reads an answer in which `room` containers may be opened. -/
def ofDraft (source : Json.Source) (room : Nat) (d : Json.Draft) : Except Json.Fault Answer := do
  let s ← d.record source [⟨"columns", false⟩, ⟨"rows", true⟩, ⟨"row_count", true⟩]
    (readField source (room - 1)) (none, [], 0)
  return ⟨← Json.Draft.required s.1, s.2.1, s.2.2⟩

/-- The answer as rows under the names of its columns. -/
def toRowSet (a : Answer) : RowSet :=
  ⟨a.columns.map (·.name), a.rows⟩

end Answer

/-- Reads the identifier of an opened connection. -/
def sessionOfDraft (source : Json.Source) (d : Json.Draft) : Except Json.Fault String := do
  let s ← d.record source [⟨"session_id", false⟩]
    (fun _ _ d => d.string.map some) (none : Option String)
  Json.Draft.required s

/-- Reads whether a connection was closed. -/
def closedOfDraft (source : Json.Source) (d : Json.Draft) : Except Json.Fault Bool :=
  d.record source [⟨"closed", true⟩] (fun _ _ d => d.boolean) false

end LedgerQuery.Driver
