/-!
# Metrics and aggregations

What a descriptor asks to be computed, and how the rows are to be grouped. A name that is not known
is kept as it is.

* `Metric.name_ofName`, `Aggregation.name_ofName`: every name is kept.
-/

namespace LedgerQuery

/-- A figure asked for. -/
inductive Metric where
  | count
  | sum
  | average
  | defaultRate
  | other (name : String)
  deriving DecidableEq, Inhabited

namespace Metric

/-- The name of a metric. -/
def name : Metric → String
  | .count => "count"
  | .sum => "sum"
  | .average => "average"
  | .defaultRate => "default_rate"
  | .other s => s

/-- The metric of a name. -/
def ofName (s : String) : Metric :=
  if s = "count" then .count
  else if s = "sum" then .sum
  else if s = "average" then .average
  else if s = "default_rate" then .defaultRate
  else .other s

@[simp] theorem name_ofName (s : String) : (ofName s).name = s := by
  unfold ofName
  split
  · next h => exact h.symm
  split
  · next h => exact h.symm
  split
  · next h => exact h.symm
  split
  · next h => exact h.symm
  rfl

end Metric

/-- A grouping asked for. -/
inductive Aggregation where
  | byCategory
  | byType
  | other (name : String)
  deriving DecidableEq, Inhabited

namespace Aggregation

/-- The name of an aggregation. -/
def name : Aggregation → String
  | .byCategory => "by_category"
  | .byType => "by_type"
  | .other s => s

/-- The aggregation of a name. -/
def ofName (s : String) : Aggregation :=
  if s = "by_category" then .byCategory
  else if s = "by_type" then .byType
  else .other s

@[simp] theorem name_ofName (s : String) : (ofName s).name = s := by
  unfold ofName
  split
  · next h => exact h.symm
  split
  · next h => exact h.symm
  rfl

end Aggregation

end LedgerQuery
