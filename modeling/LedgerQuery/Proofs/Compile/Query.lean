import Mathlib.Data.List.Forall2
import LedgerQuery.Compile
import LedgerQuery.Proofs.Sql.Conditions

/-!
# The query of a descriptor

All parts of the query that a descriptor is compiled to, each in terms of the descriptor. What a
descriptor asks for is said here without the compilation, and the compilation is shown to meet it.

* `Scalar.Binds`: the value of a statement that stands for a scalar.
* `Metric.appliesTo`: a metric can be computed from the rows of a table.
* `Descriptor.dates`, `Descriptor.figures`, `Descriptor.grouping`: the bounds on dates, the metrics
  and the column of the groups that a descriptor asks for.
* `Descriptor.query_eq`: the query, part by part.
* `Descriptor.mem_items`: what can be an item of the query.
-/

namespace LedgerQuery

open Sql (Expr SelectItem Query conjunction)

/-! ### Values -/

/-- The value of a statement that stands for a scalar: the same one, of the same kind. -/
inductive Scalar.Binds : Scalar → Sql.Literal → Prop
  | bool (b : Bool) : Binds (.bool b) (.bool b)
  | int (n : Int) : Binds (.int n) (.int n)
  | float (x : Float) : Binds (.float x) (.float x)
  | text (s : String) : Binds (.text s) (.text s)

theorem Scalar.binds_iff {s : Scalar} {v : Sql.Literal} : s.Binds v ↔ v = s.toLiteral := by
  constructor
  · intro h
    cases h <;> rfl
  · rintro rfl
    cases s <;> constructor

/-- No other values stand for a list of scalars than those that they are compiled to. -/
theorem Scalar.forall₂_binds_iff {ss : List Scalar} {vs : List Sql.Literal} :
    List.Forall₂ Scalar.Binds ss vs ↔ vs = ss.map Scalar.toLiteral := by
  have hbinds : Scalar.Binds = fun s v => s.toLiteral = v := by
    funext s v
    exact propext (binds_iff.trans eq_comm)
  rw [hbinds, ← List.forall₂_map_left_iff, List.forall₂_eq_eq_eq, eq_comm]

/-! ### What is asked for -/

/-- The metric can be computed from the rows of the table. -/
def Metric.appliesTo (t : Table) : Metric → Bool
  | .count | .sum | .average => true
  | .defaultRate => decide (t = .loans)
  | .other _ => false

@[simp] theorem Metric.appliesTo_other (t : Table) (s : String) :
    (Metric.other s).appliesTo t = false := rfl

/-- The item of a metric. Loans have all of them. -/
def Metric.item (m : Metric) : SelectItem :=
  (m.item? .loans).getD default

theorem Metric.item?_eq (t : Table) (m : Metric) :
    m.item? t = if m.appliesTo t then some m.item else none := by
  cases m with
  | defaultRate => by_cases h : t = .loans <;> simp [item?, appliesTo, item, h]
  | _ => rfl

namespace Descriptor

/-- Start and end of the period, if both are given. -/
def dates (d : Descriptor) : Option (Scalar × Scalar) :=
  match d.period with
  | some ⟨_, _, _, some a, some b⟩ => some (a, b)
  | _ => none

/-- Start and end of the period as values, if both are given. -/
def dateValues (d : Descriptor) : List Scalar :=
  match d.dates with
  | none => []
  | some (a, b) => [a, b]

/-- The metrics asked for that apply to the table, in order and with repetitions: the count alone if
none are named. -/
def figures (d : Descriptor) : List Metric :=
  (d.metrics.getD [.count]).filter (·.appliesTo d.table)

/-- The column whose values form the groups, if there is one. -/
def grouping (d : Descriptor) : Option String :=
  match d.table with
  | .loans => if .byCategory ∈ d.aggregations then some "loan_type" else none
  | .deposits => if .byType ∈ d.aggregations then some "account_type" else none
  | .customers | .other _ => none

theorem bounds_eq (d : Descriptor) : d.bounds = d.dates := by
  rcases d with ⟨_, _, _, _, _ | ⟨_, _, _, _ | a, _ | b⟩⟩ <;> rfl

theorem groupColumn_eq (d : Descriptor) : groupColumn d.aggregations d.table = d.grouping := by
  unfold groupColumn grouping
  cases d.table <;> simp

theorem grouping_eq_some_iff (d : Descriptor) (g : String) :
    d.grouping = some g ↔
      ((.byCategory ∈ d.aggregations ∧ d.table = .loans) ∧ g = "loan_type") ∨
        ((.byType ∈ d.aggregations ∧ d.table = .deposits) ∧ g = "account_type") := by
  unfold grouping
  cases d.table <;> simp [eq_comm]

theorem grouping_eq_none_iff (d : Descriptor) :
    d.grouping = none ↔ ¬ (.byCategory ∈ d.aggregations ∧ d.table = .loans) ∧
      ¬ (.byType ∈ d.aggregations ∧ d.table = .deposits) := by
  unfold grouping
  cases d.table <;> simp

/-- The condition that there is a row at all. -/
def someRow : Expr := Expr.countRows.gt (.literal (.int 0))

theorem metricItems_eq (d : Descriptor) : d.metricItems = d.figures.map Metric.item := by
  unfold metricItems figures wantedMetrics
  induction d.metrics.getD [.count] with
  | nil => rfl
  | cons m ms ih =>
    rw [List.filterMap_cons, Metric.item?_eq, List.filter_cons]
    by_cases h : m.appliesTo d.table = true
    · simpa [h] using ih
    · simpa [h] using ih

theorem metricItems_isEmpty (d : Descriptor) : d.metricItems.isEmpty = d.figures.isEmpty := by
  rw [metricItems_eq]
  cases d.figures <;> rfl

/-- The query of a descriptor, part by part. -/
theorem query_eq (d : Descriptor) :
    d.query =
      { items := d.grouping.toList.map (fun c => ⟨.column c, none⟩) ++ d.figures.map Metric.item
        source := some d.table.name
        condition := conjunction d.conditions
        groups := d.grouping.toList.map .column
        having := if d.grouping = none ∧ d.figures ≠ [] then some someRow else none
        limit := none } := by
  have hb : d.baseQuery =
      { items := d.figures.map Metric.item, source := some d.table.name,
        condition := conjunction d.conditions } := by
    rw [baseQuery, Sql.foldl_filter, metricItems_eq]
    rfl
  cases hg : d.grouping with
  | some c =>
    rw [query, groupColumn_eq, hg, hb, metricItems_eq]
    simp [Query.select, Query.groupBy]
  | none =>
    rw [query, groupColumn_eq, hg, hb, metricItems_isEmpty]
    cases d.figures <;> simp [Query.withHaving, someRow]

/-- An item of the query is the column of the groups or that of a metric. -/
theorem mem_items {d : Descriptor} {i : SelectItem} (h : i ∈ d.query.items) :
    (∃ c, d.grouping = some c ∧ i = ⟨.column c, none⟩) ∨
      ∃ m : Metric, m.appliesTo d.table ∧ i = m.item := by
  rw [query_eq] at h
  rcases List.mem_append.mp h with h | h
  · obtain ⟨c, hc, rfl⟩ := List.mem_map.mp h
    exact .inl ⟨c, Option.mem_toList.mp hc, rfl⟩
  · obtain ⟨m, hm, rfl⟩ := List.mem_map.mp h
    exact .inr ⟨m, (List.mem_filter.mp hm).2, rfl⟩

/-- The column of the groups is one of two. -/
theorem grouping_mem {d : Descriptor} {c : String} (h : d.grouping = some c) :
    c = "loan_type" ∨ c = "account_type" := by
  rcases (d.grouping_eq_some_iff c).mp h with ⟨-, hc⟩ | ⟨-, hc⟩
  · exact .inl hc
  · exact .inr hc

end Descriptor

end LedgerQuery
