import LedgerQuery.Compile
import LedgerQuery.Envelope.Basic

/-!
# Shaping results

* `Elapsed.text`: a span of time in seconds, with three places.
* `shape`: the report on the result of a descriptor's statement and on its sample rows.
-/

namespace LedgerQuery

/-- A span of time. -/
structure Elapsed where
  seconds : Nat
  nanoseconds : Nat := 0
  deriving DecidableEq, Inhabited

namespace Elapsed

/-- The span with fewer nanoseconds than a second has. -/
def normal (e : Elapsed) : Elapsed :=
  ⟨e.seconds + e.nanoseconds / Nat.pow 10 9, e.nanoseconds % Nat.pow 10 9⟩

/-- The span in seconds, as the sum of two floats. -/
def toFloat (e : Elapsed) : Float :=
  let e := e.normal
  Decimal.nearest false e.seconds 1 + Decimal.nearest false e.nanoseconds (Nat.pow 10 9)

/-- The span as text. -/
def text (e : Elapsed) : String :=
  Decimal.fixed 3 e.toFloat ++ "s"

end Elapsed

/-- The report on a descriptor's result. The result's own rows are given in full where the
descriptor asks for aggregations. -/
def shape (d : Descriptor) (result sample : RowSet) (elapsed : Elapsed) : Envelope :=
  .report {
    query := d
    rowCount := result.size
    elapsed := elapsed.text
    stats := summaryStats result d
    samples := sample.records.take Descriptor.sampleLimit.toNat
    periodTitle := d.periodTitle
    breakdowns := if d.hasAggregations then some result.records else none }

end LedgerQuery
