import LedgerQuery.Workspace

/-!
# Drivers of a workspace

Where the driver is, and the runs of drivers with all that is done to them. A connection is a run and
the session that the driver has opened in it.

* `Workspace.driverPath?`: the path of the driver.
* `Host.open`: starts a driver and opens a connection; a driver that opens none is stopped.
* `Host.log`: what has been done, in order.
-/

namespace LedgerQuery

namespace Driver

/-- The file name of the driver. -/
def fileName : String := "strata-snowflake-driver"

/-- Where the driver is looked for first. -/
def usualPaths : List String := ["./" ++ fileName, "./driver/" ++ fileName]

end Driver

/-- The path of the driver. If a path is configured, nothing else is tried. -/
def Workspace.driverPath? (w : Workspace) (configured : Option String) : Option String :=
  match configured with
  | some path => if w.exists? path then some path else none
  | none =>
    match Driver.usualPaths.find? w.exists? with
    | some path => some path
    | none => w.search? Driver.fileName

namespace Driver

/-- What is done to a run. -/
inductive Event where
  | started (run : Nat)
  | sent (run : Nat) (line : String)
  | stopped (run : Nat)
  deriving DecidableEq, Inhabited

/-- All runs of drivers, the files they come from, and what has been done to them. -/
structure Host where
  workspace : Workspace
  runs : List Process := []
  log : List Event := []
  deriving Inhabited

/-- A connection: the run of a driver and the session opened in it. -/
structure Link where
  run : Nat
  session : String
  deriving DecidableEq, Inhabited

namespace Host

/-- Adds to what has been done. -/
def record (e : Event) : StateM Host Unit :=
  modify fun h => { h with log := h.log ++ [e] }

/-- Starts the driver at a path. The run begins listening: that its first request, which opens the
connection, cannot be written does not occur, and a driver that is gone by then is one that answers
the request with nothing. -/
def start (path : String) : StateM Host (Except Error Nat) := do
  let h ← get
  match h.workspace.program? path with
  | .error f => return .error (.notStarted f)
  | .ok program =>
    let run := h.runs.length
    let p : Process := { program, run }
    set { h with runs := h.runs ++ [p] }
    record (.started run)
    return .ok run

/-- Sends a request to a run and reads its result. -/
def request (run : Nat) (r : Request) : StateM Host (Except Error Json) := do
  let h ← get
  match h.runs[run]? with
  | none => return .error .notWritten
  | some p =>
    let (result, q) := p.request r
    set { h with
      runs := h.runs.set run q
      log := h.log ++ (q.received.drop p.received.length).map (Event.sent run) }
    return result

/-- Stops a run. -/
def stop (run : Nat) : StateM Host Unit := record (.stopped run)

/-- Starts the driver at a path and opens a connection. If that fails, the driver is stopped. -/
def «open» (path : String) (c : Credentials) : StateM Host (Except Error Link) := do
  match ← start path with
  | .error e => return .error e
  | .ok run =>
    match (← request run (.openConnection c)).bind decodeSession with
    | .ok session => return .ok ⟨run, session⟩
    | .error e =>
      stop run
      return .error e

/-- Executes a statement on a connection. -/
def execute (l : Link) (sql : String) (args : List Json) : StateM Host (Except Error Answer) := do
  return (← request l.run (.execute l.session sql args)).bind decodeAnswer

/-- Closes a connection. The driver is stopped, whatever it answers. -/
def close (l : Link) : StateM Host (Except Error Unit) := do
  let result ← request l.run (.closeConnection l.session)
  stop l.run
  return result.bind decodeClosed

end Host

end Driver

end LedgerQuery
