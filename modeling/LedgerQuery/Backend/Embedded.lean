import LedgerQuery.Backend.Warehouse

/-!
# The embedded store as a backend

A database file is opened by the program itself. A file that does not exist is made; the database of
the path `:memory:` lives as long as the connection.

* `Embedded.prepare`: makes the directory that the file is in.
* `Embedded.backend`: the backend of a path.
-/

namespace LedgerQuery

/-- An opened database. -/
inductive OpenStore where
  /-- A file of the workspace. -/
  | file (place : Place)
  /-- A database that no file keeps. -/
  | memory (contents : Store.Contents)
  deriving Inhabited

namespace Embedded

/-- Makes the directory that the file of a path is in. -/
def prepare (path : String) (w : Workspace) : Workspace :=
  match parentPath? path with
  | none => w
  | some dir => if w.exists? dir then w else w.makeDirectories dir

/-- The place of the file of a path, if it can be opened. -/
def place? (path : String) (w : Workspace) : Option Place :=
  (w.place? path).filter fun place =>
    !place.isEmpty && w.isDirectory place.dropLast && !w.isDirectory place

/-- What the file at a place holds. An empty file is an empty database. -/
def contentsAt (place : Place) (w : Workspace) : Store.Contents :=
  match w.entry? place with
  | some (.store d) => .database d
  | some (.file bytes) | some (.program bytes _) =>
    if bytes.isEmpty then .database {} else .foreign
  | none => .database {}
  | some .directory => .foreign

/-- Keeps what a file holds. -/
def keep (place : Place) (c : Store.Contents) (w : Workspace) : Workspace :=
  match c with
  | .database d => w.put place (.store d)
  | .foreign => w

/-- Opens the database of a path. -/
def connect (path : String) : StateM (Held OpenStore Workspace) Bool := do
  let s ← get
  if s.link.isSome then return true
  else if path = ":memory:" ∨ path = "" then
    set { s with link := some (OpenStore.memory (.database {})) }
    return true
  else match place? path s.world with
    | none => return false
    | some place =>
      set ({ link := some (OpenStore.file place), world := keep place (contentsAt place s.world) s.world } :
        Held OpenStore Workspace)
      return true

/-- Runs a statement on an opened database. -/
def execute (sql : String) (params : List Sql.Literal) :
    StateM (Held OpenStore Workspace) (Except Backend.Error RowSet) := do
  let s ← get
  let values := params.map Store.Value.ofLiteral
  match s.link with
  | none => return .error (.notConnected .embedded)
  | some (OpenStore.memory c) =>
    match c.run sql values with
    | .error m => return .error (.statement (.store m))
    | .ok (rows, c) =>
      set { s with link := some (OpenStore.memory c) }
      return .ok rows
  | some (OpenStore.file place) =>
    match (contentsAt place s.world).run sql values with
    | .error m => return .error (.statement (.store m))
    | .ok (rows, c) =>
      set { s with world := keep place c s.world }
      return .ok rows

/-- The embedded store as a backend. -/
def backend (path : String) : Backend (Held OpenStore Workspace) where
  provider := .embedded
  target := .file path
  catalog := .embedded
  isConnected s := s.link.isSome
  connect := connect path
  disconnect := modify fun s => { s with link := none }
  execute := execute

end Embedded

end LedgerQuery
