import LedgerQuery.Descriptor.Metric
import LedgerQuery.Descriptor.Period
import LedgerQuery.Json.Reader
import LedgerQuery.Json.Writer

/-!
# Query descriptors

A descriptor says what is asked of which entity, independent of any backend: filters in the order in
which they were given, metrics, aggregations and a time period. Nothing in it can be invalid; names
that mean nothing are kept and passed over later.

* `Descriptor.withFilter_columns`: a repeated filter keeps its place.
* `Descriptor.parse`: the descriptor of a JSON text.
* `Descriptor.toJson`: the descriptor in JSON, as it is echoed.
-/

namespace LedgerQuery

/-- A request for figures on an entity. -/
structure Descriptor where
  entity : String := ""
  filters : List (String × Scalar) := []
  /-- The metrics asked for; missing if none were named at all. -/
  metrics : Option (List Metric) := none
  aggregations : List Aggregation := []
  period : Option Period := none
  deriving DecidableEq, Inhabited

namespace Descriptor

/-! ### Building -/

/-- Puts a filter on a column, in place of an earlier one on the same column. -/
def withFilter (d : Descriptor) (column : String) (value : Scalar) : Descriptor :=
  { d with filters := Json.insert column value d.filters }

/-- Asks for one more metric. -/
def withMetric (d : Descriptor) (m : Metric) : Descriptor :=
  { d with metrics := some (d.metrics.getD [] ++ [m]) }

/-- Asks for one more aggregation. -/
def withAggregation (d : Descriptor) (a : Aggregation) : Descriptor :=
  { d with aggregations := d.aggregations ++ [a] }

/-- Sets the time period. -/
def withPeriod (d : Descriptor) (p : Period) : Descriptor :=
  { d with period := some p }

/-- The metrics to compute: the count if none were named. -/
def wantedMetrics (d : Descriptor) : List Metric :=
  d.metrics.getD [.count]

/-- Some aggregation was asked for. -/
def hasAggregations (d : Descriptor) : Bool :=
  !d.aggregations.isEmpty

/-- The bounds on dates, if there are both. -/
def bounds (d : Descriptor) : Option (Scalar × Scalar) :=
  d.period.bind Period.bounds

/-- The text the period of the descriptor is shown as. -/
def periodTitle (d : Descriptor) : String :=
  (d.period.getD {}).title

theorem withFilter_columns (d : Descriptor) (column : String) (value : Scalar) :
    (d.withFilter column value).filters.map Prod.fst =
      if column ∈ d.filters.map Prod.fst then d.filters.map Prod.fst
      else d.filters.map Prod.fst ++ [column] :=
  Json.insert_keys column value d.filters

/-! ### JSON -/

/-- A member that is written only if the list has items. -/
def listMember {α : Type} (key : String) (f : List α → Json) : List α → List (String × Json)
  | [] => []
  | a :: r => [(key, f (a :: r))]

/-- The descriptor in JSON, without its empty parts. -/
def toJson (d : Descriptor) : Json :=
  .object ([("entity", .text d.entity)] ++
    listMember "filters" (fun fs => .object (fs.map fun f => (f.1, f.2.toJson))) d.filters ++
    Period.memberOf "metrics" (fun ms => .list (ms.map fun m => .text m.name)) d.metrics ++
    listMember "aggregations" (fun as => .list (as.map fun a => .text a.name)) d.aggregations ++
    Period.memberOf "time_period" Period.toJson d.period)

/-- The fields of a descriptor. -/
def fields : List Json.Field :=
  [⟨"entity", true⟩, ⟨"filters", true⟩, ⟨"metrics", true⟩, ⟨"aggregations", true⟩,
    ⟨"time_period", true⟩]

/-- Reads one field of a descriptor. -/
def readField (source : Json.Source) (room : Nat) (q : Descriptor) (name : String)
    (d : Json.Draft) : Except Json.Fault Descriptor :=
  if name = "entity" then d.string.map fun v => { q with entity := v }
  else if name = "filters" then
    (d.dictionary (Scalar.ofDraft (room - 1))).map fun v => { q with filters := v }
  else if name = "metrics" then
    (d.option (·.elements (·.string))).map fun v => { q with metrics := v.map (·.map Metric.ofName) }
  else if name = "aggregations" then
    (d.elements (·.string)).map fun v => { q with aggregations := v.map Aggregation.ofName }
  else (d.option (Period.ofDraft source room)).map fun v => { q with period := v }

/-- Reads a descriptor in which `room` containers may be opened. -/
def ofDraft (source : Json.Source) (room : Nat) (d : Json.Draft) : Except Json.Fault Descriptor :=
  d.record source fields (readField source (room - 1)) {}

/-- The descriptor of a JSON text. -/
def parse (s : String) : Except Json.Fault Descriptor :=
  (Json.document s).finish (ofDraft .stream Json.maxDepth)

end Descriptor

end LedgerQuery
