import LedgerQuery.Descriptor.Basic
import LedgerQuery.Entity
import LedgerQuery.Sql.Query

/-!
# From descriptors to statements

Each descriptor has two statements: the one that computes its metrics, and the one that fetches
sample rows of its table. Compilation never fails; what does not apply to the table is left out.

* `Descriptor.compile`: the statement of the metrics.
* `Descriptor.sample`: the statement of the sample rows, to which filters and period do not apply.
-/

namespace LedgerQuery

/-- A query over the table of an entity, in one dialect. -/
structure Statement where
  query : Sql.Query
  dialect : Sql.Dialect
  table : Table
  deriving Inhabited

namespace Statement

/-- The executable text. -/
def sql (s : Statement) : String := s.query.sql s.dialect

/-- The text for people, with its bound values written out. -/
def inlineSql (s : Statement) : String := s.query.inlineSql s.dialect

/-- The bound values, in the order of their placeholders. -/
def params (s : Statement) : List Sql.Literal := s.query.params

/-- The rows are grouped. -/
def grouped (s : Statement) : Bool := !s.query.groups.isEmpty

end Statement

open Sql (Expr SelectItem Query)

/-- The percentage of rows in default. -/
def defaultRateExpr : Expr :=
  ((Expr.sum (.cond ((Expr.column "status").eq (.literal (.text "default")))
    (.literal (.int 1)) (.literal (.int 0)))).mul (.literal (.float 100))).div .countRows

/-- The item that computes a metric, if the metric applies to the table. -/
def Metric.item? (t : Table) : Metric → Option SelectItem
  | .count => some ⟨.countRows, some "total_count"⟩
  | .sum => some ⟨.sum (.column "amount"), some "total_amount"⟩
  | .average => some ⟨.average (.column "amount"), some "average_amount"⟩
  | .defaultRate => if t = .loans then some ⟨defaultRateExpr, some "default_rate"⟩ else none
  | .other _ => none

/-- The column whose values form the groups, if an aggregation applies to the table. -/
def groupColumn (aggregations : List Aggregation) (t : Table) : Option String :=
  if .byCategory ∈ aggregations ∧ t = .loans then some "loan_type"
  else if .byType ∈ aggregations ∧ t = .deposits then some "account_type"
  else none

namespace Descriptor

/-- The table of the descriptor's entity. -/
def table (d : Descriptor) : Table := Table.ofEntity d.entity

/-- The items of the metrics that apply to the table. -/
def metricItems (d : Descriptor) : List SelectItem :=
  d.wantedMetrics.filterMap (Metric.item? d.table)

/-- The conditions on rows: one for each filter, and two for the bounds on dates. -/
def conditions (d : Descriptor) : List Expr :=
  d.filters.map (fun f => (Expr.column f.1).eq (.param f.2.toLiteral)) ++
    match d.bounds with
    | none => []
    | some (a, b) =>
      [(Expr.column "date").ge (.param a.toLiteral), (Expr.column "date").le (.param b.toLiteral)]

/-- The query of the metrics before grouping. -/
def baseQuery (d : Descriptor) : Query :=
  d.conditions.foldl Query.filter
    ((({} : Query).select d.metricItems).fromTable d.table.name)

/-- The query of the metrics. Groups come with their column in front; metrics over all rows are
given only if there is a row at all. -/
def query (d : Descriptor) : Query :=
  match groupColumn d.aggregations d.table with
  | some c =>
    (d.baseQuery.select (⟨.column c, none⟩ :: d.metricItems)).groupBy [.column c]
  | none =>
    if d.metricItems.isEmpty then d.baseQuery
    else d.baseQuery.withHaving (Expr.countRows.gt (.literal (.int 0)))

/-- The statement of the metrics. -/
def compile (d : Descriptor) (dialect : Sql.Dialect) : Statement :=
  ⟨d.query, dialect, d.table⟩

/-- The statement of the sample rows. -/
def sample (d : Descriptor) (dialect : Sql.Dialect) (limit : UInt64) : Statement :=
  ⟨(({} : Query).fromTable d.table.name).withLimit limit, dialect, d.table⟩

/-- The number of sample rows. -/
def sampleLimit : UInt64 := 10

end Descriptor

end LedgerQuery
