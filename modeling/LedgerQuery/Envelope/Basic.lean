import LedgerQuery.Envelope.Stats

/-!
# Envelopes

What a structured query is answered with: a report or a failure, never both. Both echo the
descriptor. In JSON nothing but the members tells the two apart.

* `Envelope.toJson`, `Envelope.parse`: the JSON of an envelope, and back.
-/

namespace LedgerQuery

/-- The answer to a structured query that succeeded. -/
structure Report where
  query : Descriptor
  rowCount : Nat
  elapsed : String
  stats : Stats
  samples : List Record
  periodTitle : String
  breakdowns : Option (List Record) := none
  deriving Inhabited

/-- The answer to a structured query that failed. -/
structure Failure where
  query : Descriptor
  error : String
  deriving DecidableEq, Inhabited

/-- The answer to a structured query. -/
inductive Envelope where
  | report (r : Report)
  | failure (f : Failure)
  deriving Inhabited

namespace Report

/-- The data of a report in JSON. -/
def dataJson (r : Report) : Json :=
  .object ([("summary_stats", r.stats.toJson), ("data_points", RowSet.recordsJson r.samples),
    ("period_label", .text r.periodTitle)] ++
    Period.memberOf "breakdowns" RowSet.recordsJson r.breakdowns)

/-- A report in JSON. -/
def toJson (r : Report) : Json :=
  .object [("query_executed", r.query.toJson), ("row_count", .int r.rowCount),
    ("execution_time", .text r.elapsed), ("data", r.dataJson)]

/-- The parts of a report's data that are read so far. -/
structure DataParts where
  stats : Option Stats := none
  samples : Option (List Record) := none
  periodTitle : Option String := none
  breakdowns : Option (List Record) := none

/-- Reads a list of records. -/
def recordsOfDraft (room : Nat) (d : Json.Draft) : Except Json.Fault (List Record) :=
  d.elements (·.dictionary (·.value room))

/-- Reads one field of a report's data. -/
def readDataField (room : Nat) (p : DataParts) (name : String) (d : Json.Draft) :
    Except Json.Fault DataParts :=
  if name = "summary_stats" then
    (d.dictionary (·.float)).map fun v => { p with stats := some (Stats.ofList v) }
  else if name = "data_points" then
    (recordsOfDraft room d).map fun v => { p with samples := some v }
  else if name = "period_label" then d.string.map fun v => { p with periodTitle := some v }
  else (d.option (recordsOfDraft room)).map fun v => { p with breakdowns := v }

/-- The fields of a report's data. -/
def dataFields : List Json.Field :=
  [⟨"summary_stats", false⟩, ⟨"data_points", false⟩, ⟨"period_label", false⟩, ⟨"breakdowns", true⟩]

/-- The parts of a report that are read so far. -/
structure Parts where
  query : Option Descriptor := none
  rowCount : Option Nat := none
  elapsed : Option String := none
  data : Option DataParts := none

/-- The fields of a report. -/
def fields : List Json.Field :=
  [⟨"query_executed", false⟩, ⟨"row_count", false⟩, ⟨"execution_time", false⟩, ⟨"data", false⟩]

/-- Reads one field of a report. -/
def readField (room : Nat) (p : Parts) (name : String) (d : Json.Draft) :
    Except Json.Fault Parts :=
  if name = "query_executed" then
    (Descriptor.ofDraft .memory room d).map fun v => { p with query := some v }
  else if name = "row_count" then d.count.map fun v => { p with rowCount := some v }
  else if name = "execution_time" then d.string.map fun v => { p with elapsed := some v }
  else do
    let v ← d.record .memory dataFields (readDataField room) {}
    let _ ← Json.Draft.required v.stats
    let _ ← Json.Draft.required v.samples
    let _ ← Json.Draft.required v.periodTitle
    return { p with data := some v }

/-- Reads a report. -/
def ofDraft (room : Nat) (d : Json.Draft) : Except Json.Fault Report := do
  let p ← d.record .memory fields (readField room) {}
  let data ← Json.Draft.required p.data
  return ⟨← Json.Draft.required p.query, ← Json.Draft.required p.rowCount,
    ← Json.Draft.required p.elapsed, ← Json.Draft.required data.stats,
    ← Json.Draft.required data.samples, ← Json.Draft.required data.periodTitle, data.breakdowns⟩

end Report

namespace Failure

/-- A failure in JSON. -/
def toJson (f : Failure) : Json :=
  .object [("query_executed", f.query.toJson), ("error", .text f.error), ("data", .object [])]

/-- The parts of a failure that are read so far. -/
structure Parts where
  query : Option Descriptor := none
  error : Option String := none
  data : Option Unit := none

/-- Reads one field of a failure. Its data has no fields. -/
def readField (room : Nat) (p : Parts) (name : String) (d : Json.Draft) :
    Except Json.Fault Parts :=
  if name = "query_executed" then
    (Descriptor.ofDraft .memory room d).map fun v => { p with query := some v }
  else if name = "error" then d.string.map fun v => { p with error := some v }
  else (d.record .memory [] (fun u _ _ => .ok u) ()).map fun v => { p with data := some v }

/-- Reads a failure. -/
def ofDraft (room : Nat) (d : Json.Draft) : Except Json.Fault Failure := do
  let p ← d.record .memory [⟨"query_executed", false⟩, ⟨"error", false⟩, ⟨"data", false⟩]
    (readField room) {}
  let _ ← Json.Draft.required p.data
  return ⟨← Json.Draft.required p.query, ← Json.Draft.required p.error⟩

end Failure

namespace Envelope

/-- The envelope of a failure. -/
def refuse (d : Descriptor) (message : String) : Envelope := .failure ⟨d, message⟩

/-- The descriptor that was asked. -/
def query : Envelope → Descriptor
  | .report r => r.query
  | .failure f => f.query

/-- The envelope in JSON. -/
def toJson : Envelope → Json
  | .report r => r.toJson
  | .failure f => f.toJson

/-- Reads an envelope: the whole value first, then as a report, then as a failure. -/
def ofDraft (room : Nat) (d : Json.Draft) : Except Json.Fault Envelope :=
  match d.value room with
  | .error f => .error f
  | .ok _ =>
    match Report.ofDraft room d with
    | .ok r => .ok (.report r)
    | .error _ =>
      match Failure.ofDraft room d with
      | .ok f => .ok (.failure f)
      | .error _ => .error .mismatch

/-- The envelope of a JSON text. -/
def parse (s : String) : Except Json.Fault Envelope :=
  (Json.document s).finish (ofDraft Json.maxDepth)

end Envelope

end LedgerQuery
