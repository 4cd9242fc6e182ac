import LedgerQuery.Backend.Basic
import LedgerQuery.Driver.Host

/-!
# The warehouse

The warehouse is reached through a connector, which opens connections and runs statements on them.
The backend holds at most one connection.

* `Connector.ofDriver`: the connector that runs a driver.
* `Warehouse.backend`: the backend over a connector.
-/

namespace LedgerQuery

/-- Opens connections `κ` in a world `σ`. -/
structure Connector (σ κ : Type) where
  /-- There is something to connect with. -/
  isAvailable : StateM σ Bool
  connect : Driver.Credentials → StateM σ (Except Driver.Error κ)
  execute : κ → (sql : String) → List Json → StateM σ (Except Driver.Error RowSet)
  close : κ → StateM σ (Except Driver.Error Unit)

/-- The connector that runs the driver at a path, if there is one. -/
def Connector.ofDriver (path : Option String) : Connector Driver.Host Driver.Link where
  isAvailable := pure path.isSome
  connect c := match path with
    | none => pure (.error (.notFound Driver.fileName))
    | some p => Driver.Host.open p c
  execute l sql args := do
    return (← Driver.Host.execute l sql args).map Driver.Answer.toRowSet
  close := Driver.Host.close

/-- A world with the connection that is held in it, if there is one. -/
structure Held (κ σ : Type) where
  link : Option κ := none
  world : σ
  deriving Inhabited

/-- Does something to the world alone. -/
def Held.act {κ σ α : Type} (m : StateM σ α) : StateM (Held κ σ) α := fun s =>
  let (a, world) := m s.world
  (a, { s with world })

namespace Warehouse

variable {σ κ : Type}

/-- Connects, unless there is a connection or nothing to connect with. -/
def connect (k : Connector σ κ) (c : Driver.Credentials) : StateM (Held κ σ) Bool := do
  match (← get).link with
  | some _ => return true
  | none =>
    if ← Held.act k.isAvailable then
      match ← Held.act (k.connect c) with
      | .ok link =>
        modify fun s => { s with link := some link }
        return true
      | .error _ => return false
    else return false

/-- Gives the connection up, whether it can be closed or not. -/
def disconnect (k : Connector σ κ) : StateM (Held κ σ) Unit := do
  match (← get).link with
  | none => return ()
  | some link =>
    modify fun s => { s with link := none }
    let _ ← Held.act (k.close link)

/-- Runs a statement. The names of the columns come in small letters. -/
def execute (k : Connector σ κ) (sql : String) (params : List Sql.Literal) :
    StateM (Held κ σ) (Except Backend.Error RowSet) := do
  match (← get).link with
  | none => return .error (.notConnected .warehouse)
  | some link =>
    match ← Held.act (k.execute link sql (params.map Sql.Literal.toJson)) with
    | .ok rows => return .ok rows.lowerColumns
    | .error e => return .error (.statement (.driver e))

/-- The warehouse as a backend. -/
def backend (k : Connector σ κ) (c : Driver.Credentials) : Backend (Held κ σ) where
  provider := .warehouse
  target := .service c.account c.database c.schema c.warehouse
  catalog := .warehouse c.schema
  isConnected s := s.link.isSome
  connect := connect k c
  disconnect := disconnect k
  execute := execute k

end Warehouse

end LedgerQuery
