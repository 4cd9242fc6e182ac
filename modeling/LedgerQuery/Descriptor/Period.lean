import LedgerQuery.Descriptor.Scalar

/-!
# Time periods

A period names itself in up to three ways. Only a period with both bounds restricts the rows of a
query; the other parts serve its label.

* `Period.label`: the text a period is shown as.
* `Period.ofDraft`: reads a period.
-/

namespace LedgerQuery

/-- A time period, each part of which may be missing. -/
structure Period where
  label : Option String := none
  quarter : Option Scalar := none
  year : Option Scalar := none
  start : Option Scalar := none
  finish : Option Scalar := none
  deriving DecidableEq, Inhabited

namespace Period

/-- A period with a label of its own. -/
def labelled (label : String) : Period := { label := some label }

/-- A quarter of a year. -/
def ofQuarter (quarter year : Scalar) : Period := { quarter := some quarter, year := some year }

/-- A period between two bounds. -/
def range (start finish : Scalar) : Period := { start := some start, finish := some finish }

/-- The bounds of a period, if it has both. -/
def bounds (p : Period) : Option (Scalar × Scalar) :=
  match p.start, p.finish with
  | some a, some b => some (a, b)
  | _, _ => none

/-- The text a period is shown as: its label, else its quarter, else its bounds. -/
def title (p : Period) : String :=
  match p.label, p.quarter, p.year, p.bounds with
  | some l, _, _, _ => l
  | none, some q, some y, _ => q.display ++ " " ++ y.display
  | none, _, _, some (a, b) => a.display ++ " to " ++ b.display
  | none, _, _, none => "Current Period"

/-- A member that is written only if there is a value. -/
def memberOf {α : Type} (key : String) (f : α → Json) : Option α → List (String × Json)
  | none => []
  | some a => [(key, f a)]

/-- The period in JSON, without its missing parts. -/
def toJson (p : Period) : Json :=
  .object (memberOf "label" .text p.label ++ memberOf "quarter" Scalar.toJson p.quarter ++
    memberOf "year" Scalar.toJson p.year ++ memberOf "start" Scalar.toJson p.start ++
    memberOf "end" Scalar.toJson p.finish)

/-- The fields of a period. -/
def fields : List Json.Field :=
  [⟨"label", true⟩, ⟨"quarter", true⟩, ⟨"year", true⟩, ⟨"start", true⟩, ⟨"end", true⟩]

/-- Reads one field of a period. -/
def readField (room : Nat) (p : Period) (name : String) (d : Json.Draft) :
    Except Json.Fault Period :=
  if name = "label" then (d.option (·.string)).map fun v => { p with label := v }
  else if name = "quarter" then
    (d.option (Scalar.ofDraft room)).map fun v => { p with quarter := v }
  else if name = "year" then (d.option (Scalar.ofDraft room)).map fun v => { p with year := v }
  else if name = "start" then (d.option (Scalar.ofDraft room)).map fun v => { p with start := v }
  else (d.option (Scalar.ofDraft room)).map fun v => { p with finish := v }

/-- Reads a period in which `room` containers may be opened. -/
def ofDraft (source : Json.Source) (room : Nat) (d : Json.Draft) : Except Json.Fault Period :=
  d.record source fields (readField (room - 1)) {}

end Period

end LedgerQuery
