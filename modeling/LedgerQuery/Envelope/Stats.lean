import LedgerQuery.Decimal.Reader
import LedgerQuery.Descriptor.Basic
import LedgerQuery.Entity
import LedgerQuery.Result.Basic
import LedgerQuery.Text.Blank

/-!
# Summary figures

The figures of the first row of a result, under the names that the entity has for them, in the order
of the names.

* `Stats.put`: adds a figure at its place in the order.
* `summaryStats`: the figures of a result.
-/

namespace LedgerQuery

/-- Named figures, in the order of their names. -/
abbrev Stats := List (String × Float)

namespace Stats

/-- Puts a figure at its place, or in place of the one of the same name. -/
def put (name : String) (value : Float) : Stats → Stats
  | [] => [(name, value)]
  | s :: r =>
    if name < s.1 then (name, value) :: s :: r
    else if name = s.1 then (name, value) :: r
    else s :: put name value r

/-- Takes away the figure of a name. -/
def remove (name : String) (s : Stats) : Stats :=
  s.filter fun f => f.1 ≠ name

/-- Moves a figure to another name. -/
def move (old new : String) (s : Stats) : Stats :=
  match s.lookup old with
  | none => s
  | some v => put new v (s.remove old)

/-- Figures given in any order. A repeated name has its last value. -/
def ofList (fs : List (String × Float)) : Stats :=
  fs.foldl (fun s f => put f.1 f.2 s) []

/-- The figures in JSON. -/
def toJson (s : Stats) : Json :=
  .object (s.map fun f => (f.1, .float f.2))

end Stats

/-- The columns that hold figures. -/
def metricColumns : List String :=
  ["total_count", "total_amount", "average_amount", "default_rate"]

/-- The figure of a cell: a number, or a text that spells one. -/
def figure? : Json → Option Float
  | .int n => some (Decimal.ofInt n)
  | .float x => some x
  | .text s => Decimal.parse? (Text.trim s)
  | _ => none

/-- The cell of the first row under a name. -/
def RowSet.firstCell? (r : RowSet) (name : String) : Option Json := do
  let row ← r.rows.head?
  let i ← r.columnIndex? name
  row[i]?

/-- The figures of the first row under the names of their columns. -/
def metricFigures (r : RowSet) : Stats :=
  Stats.ofList (metricColumns.filterMap fun name =>
    ((r.firstCell? name).bind figure?).map fun v => (name, v))

/-- The names an entity has for the count, the total and the average. -/
structure FigureNames where
  count : String
  total : Option String
  average : Option String
  deriving DecidableEq

/-- The names of a table's figures. -/
def Table.figureNames? : Table → Option FigureNames
  | .loans => some ⟨"total_loans", some "total_value", some "average_loan_size"⟩
  | .deposits => some ⟨"total_accounts", some "total_deposits", some "average_balance"⟩
  | .customers => some ⟨"total_customers", none, none⟩
  | .other _ => none

/-- The figures under the names of an entity. With a count there is always a total. -/
def FigureNames.apply (names : FigureNames) (s : Stats) : Stats :=
  let counted := (s.lookup "total_count").isSome
  let s := s.move "total_count" names.count
  let s := match names.total with
    | none => s
    | some total =>
      if counted ∧ (s.lookup "total_amount").isNone then s.put total 0
      else s.move "total_amount" total
  match names.average with
  | none => s
  | some average => s.move "average_amount" average

/-- The figures of a result, under the names that the descriptor's entity has for them. -/
def summaryStats (r : RowSet) (d : Descriptor) : Stats :=
  match (Table.ofEntity d.entity).figureNames? with
  | none => metricFigures r
  | some names => names.apply (metricFigures r)

end LedgerQuery
