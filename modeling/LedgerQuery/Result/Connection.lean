import LedgerQuery.Json.Reader
import LedgerQuery.Json.Record

/-!
# Connections

What a backend is connected to. In JSON the target's own members stand beside the others, and the
member `type` says which kind of target it is.

* `ConnectionInfo.ofDraft`: reads such an object; members it does not know are passed over.
-/

namespace LedgerQuery

/-- What a backend is connected to. -/
inductive Target where
  | file (database : String)
  | service (account database schema warehouse : String)
  deriving DecidableEq, Inhabited

/-- The state of a connection and the tables behind it. -/
structure ConnectionInfo where
  target : Target
  connected : Bool
  tables : List String
  deriving DecidableEq, Inhabited

namespace Target

/-- The members of a target, its kind first. -/
def members : Target → List (String × Json)
  | .file database => [("type", .text "SQLite"), ("database", .text database)]
  | .service account database schema warehouse =>
    [("type", .text "Snowflake"), ("account", .text account), ("database", .text database),
      ("schema", .text schema), ("warehouse", .text warehouse)]

/-- The members that tell what a connection leads to. -/
structure Parts where
  account : Option String := none
  database : Option String := none
  schema : Option String := none
  warehouse : Option String := none

/-- Reads one member of a target. -/
def readField (p : Parts) (name : String) (d : Json.Draft) : Except Json.Fault Parts :=
  if name = "account" then d.string.map fun v => { p with account := some v }
  else if name = "database" then d.string.map fun v => { p with database := some v }
  else if name = "schema" then d.string.map fun v => { p with schema := some v }
  else d.string.map fun v => { p with warehouse := some v }

/-- The kind of a target: true for a file. Kinds may be given by name or by number. -/
def isFile? : Json.Draft → Except Json.Fault Bool
  | .text (some s) =>
    if s = "SQLite" then .ok true else if s = "Snowflake" then .ok false else .error .mismatch
  | .number (.whole n) =>
    if n = 0 then .ok true else if n = 1 then .ok false else .error .mismatch
  | d => .error d.fault

/-- The target among the members of an object. -/
def ofMembers (ms : List (Option String × Json.Draft)) : Except Json.Fault Target := do
  let (kinds, rest) := ms.partition (·.1 == some "type")
  match kinds with
  | [kind] =>
    if ← isFile? kind.2 then
      let p ← (Json.Draft.object rest none).record .memory [⟨"database", false⟩] readField {}
      return .file (← Json.Draft.required p.database)
    else
      let p ← (Json.Draft.object rest none).record .memory
        [⟨"account", false⟩, ⟨"database", false⟩, ⟨"schema", false⟩, ⟨"warehouse", false⟩] readField {}
      return .service (← Json.Draft.required p.account) (← Json.Draft.required p.database)
        (← Json.Draft.required p.schema) (← Json.Draft.required p.warehouse)
  | _ => .error .mismatch

end Target

namespace ConnectionInfo

/-- The connection in JSON: the members of the target first. -/
def toJson (c : ConnectionInfo) : Json :=
  .object (c.target.members ++
    [("connected", .bool c.connected), ("tables", .list (c.tables.map .text))])

/-- What is read of a connection so far. The members of the target are kept for later. -/
structure Parts where
  connected : Option Bool := none
  tables : Option (List String) := none
  others : List (Option String × Json.Draft) := []

/-- Reads the members of a connection from the left. -/
def eachMember (room : Nat) (ending : Option Json.Break) :
    List (Option String × Json.Draft) → Parts → Except Json.Fault Parts
  | [], p => (Json.Draft.close ending).map fun _ => p
  | m :: r, p =>
    match m.1 with
    | none => .error .malformed
    | some key =>
      if key = "connected" then
        if p.connected.isSome then .error .mismatch
        else match m.2.boolean with
          | .error f => .error f
          | .ok v => eachMember room ending r { p with connected := some v }
      else if key = "tables" then
        if p.tables.isSome then .error .mismatch
        else match m.2.elements (·.string) with
          | .error f => .error f
          | .ok v => eachMember room ending r { p with tables := some v }
      else match m.2.value room with
        | .error f => .error f
        | .ok _ => eachMember room ending r { p with others := p.others ++ [m] }

/-- Reads a connection in which `room` containers may be opened. -/
def ofDraft (room : Nat) : Json.Draft → Except Json.Fault ConnectionInfo
  | .object members ending => do
    let p ← eachMember (room - 1) ending members {}
    let connected ← Json.Draft.required p.connected
    let tables ← Json.Draft.required p.tables
    return ⟨← Target.ofMembers p.others, connected, tables⟩
  | d => .error d.fault

end ConnectionInfo

end LedgerQuery
