import LedgerQuery.Backend.Introspection
import LedgerQuery.Driver.Error
import LedgerQuery.Envelope.Shape
import LedgerQuery.Provider
import LedgerQuery.Result.Connection

/-!
# Backends

A backend connects to a source of data and runs statements on it. Whatever else is asked of it comes
down to statements.

* `Backend.structured`: the report on a descriptor, or why there is none; it never fails.
* `Backend.openSession`: a backend that is connected, or the error.
-/

namespace LedgerQuery

/-- The dialect that a provider's statements are written in. -/
def Provider.dialect : Provider → Sql.Dialect
  | .embedded => .sqlite
  | .warehouse => .snowflake

namespace Backend

/-- Why a statement failed. -/
inductive Cause where
  /-- The embedded store refuses it. -/
  | store (message : String)
  | driver (e : Driver.Error)
  deriving DecidableEq, Inhabited

/-- The text of a cause. -/
def Cause.message : Cause → String
  | .store m => m
  | .driver e => e.message

/-- What goes wrong with a backend. -/
inductive Error where
  | notConnected (p : Provider)
  | connectionFailed (p : Provider)
  | statement (cause : Cause)
  deriving DecidableEq, Inhabited

namespace Error

/-- The text of an error. -/
def message : Error → String
  | .notConnected p => "not connected to " ++ p.name
  | .connectionFailed p => "could not connect to " ++ p.name
  | .statement c => "query execution failed: " ++ c.message

/-- The backend was asked without a connection. -/
def isNotConnected : Error → Bool
  | .notConnected _ => true
  | _ => false

end Error

end Backend

/-- A backend in a state that its connection is part of. -/
structure Backend (σ : Type) where
  provider : Provider
  target : Target
  catalog : Catalog
  isConnected : σ → Bool
  /-- Connects, and tells whether there is a connection now. -/
  connect : StateM σ Bool
  disconnect : StateM σ Unit
  execute : (sql : String) → List Sql.Literal → StateM σ (Except Backend.Error RowSet)

namespace Backend

variable {σ : Type}

/-- Runs a lookup and reads its answer. -/
def lookup {α : Type} (b : Backend σ) (l : Lookup) (read : RowSet → α) :
    StateM σ (Except Error α) := do
  return (← b.execute l.sql l.params).map read

/-- The columns of a table. -/
def tableSchema (b : Backend σ) (table : String) : StateM σ (Except Error TableSchema) :=
  b.lookup (b.catalog.columns table) fun answer => ⟨table, b.catalog.columnsOf answer⟩

/-- The tables, without those of the backend itself. -/
def tables (b : Backend σ) : StateM σ (Except Error (List String)) :=
  b.lookup b.catalog.tables b.catalog.tablesOf

/-- The connection works. -/
def validate (b : Backend σ) : StateM σ Bool := do
  return (← b.execute b.catalog.probe []).isOk

/-- What the backend is connected to, with its tables if they can be had. -/
def info (b : Backend σ) : StateM σ ConnectionInfo := do
  if ← b.validate then
    let tables ← b.tables
    return ⟨b.target, true, (tables.toOption).getD []⟩
  else return ⟨b.target, false, []⟩

/-- The report on a descriptor, or the first error on the way to it. -/
def report (b : Backend σ) (d : Descriptor) (elapsed : Elapsed) :
    StateM σ (Except Error Envelope) := do
  let dialect := b.provider.dialect
  let s := d.compile dialect
  match ← b.execute s.sql s.params with
  | .error e => return .error e
  | .ok result =>
    let t := d.sample dialect Descriptor.sampleLimit
    match ← b.execute t.sql t.params with
    | .error e => return .error e
    | .ok sample => return .ok (shape d result sample elapsed)

/-- The report on a descriptor, or the refusal with the text of the first error. -/
def structured (b : Backend σ) (d : Descriptor) (elapsed : Elapsed) : StateM σ Envelope := do
  match ← b.report d elapsed with
  | .ok e => return e
  | .error e => return .refuse d e.message

/-- Connects if there is no connection yet. -/
def openSession (b : Backend σ) : StateM σ (Except Error Unit) := do
  if b.isConnected (← get) then return .ok ()
  else if ← b.connect then return .ok ()
  else return .error (.connectionFailed b.provider)

/-- An open session on display. -/
def sessionView (b : Backend σ) (s : σ) : String :=
  "Session \x7b provider: " ++ b.provider.label ++ ", connected: " ++
    (if b.isConnected s then "true" else "false") ++ " \x7d"

end Backend

end LedgerQuery
