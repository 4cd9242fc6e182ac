import Mathlib.Algebra.Order.Ring.Rat
import Mathlib.Data.List.Dedup
import LedgerQuery.Sql.Query
import LedgerQuery.Store.Evaluate

/-!
# What a query means

The rows that a query answers with, from the rows of its table. Values, their comparisons and the
sums and averages of columns are left to an interpretation; what is fixed is how conditions,
groups and aggregates go together.

* `Interpretation`: values of statements, with whole numbers, percentages and truth values as usual.
* `Expr.value`: the value of an expression in a group of rows.
* `Query.answer`: the rows of the answer.
-/

namespace LedgerQuery.Sql

/-! ### Values -/

/-- A row of a table: the value in each column, `none` where there is none. -/
def Row (V : Type) : Type := String → Option V

/-- The row with the given cells, the first one of each column. -/
def Row.ofCells {V : Type} (cells : List (String × V)) : Row V :=
  fun c => cells.lookup c

/-- What the literals, operators and functions of a statement stand for. Comparisons, sums and
averages may be anything, but numbers are counted, added up and put in relation exactly. -/
structure Interpretation (V : Type) where
  literal : Literal → Option V
  number : ℚ → V
  ofTruth : Bool → V
  truth : V → Bool
  equal : V → V → Bool
  greater : V → V → Bool
  atMost : V → V → Bool
  atLeast : V → V → Bool
  product : V → V → Option V
  quotient : V → V → Option V
  sum : List (Option V) → Option V
  average : List (Option V) → Option V
  /-- Functions that are no aggregates. -/
  apply : String → List (Option V) → Option V
  truth_ofTruth : ∀ b, truth (ofTruth b) = b
  literal_zero : literal (.int 0) = some (number 0)
  literal_one : literal (.int 1) = some (number 1)
  literal_hundred : literal (.float 100) = some (number 100)
  greater_number : ∀ p q, greater (number p) (number q) = decide (q < p)
  product_number : ∀ p q, product (number p) (number q) = some (number (p * q))
  quotient_number : ∀ p q, q ≠ 0 → quotient (number p) (number q) = some (number (p / q))
  sum_bits : ∀ bs : List Bool, bs ≠ [] →
    sum (bs.map fun b => some (number (if b then 1 else 0))) = some (number (bs.count true))

namespace Interpretation

variable {V : Type} (I : Interpretation V)

/-- The value is there and true. -/
def holds (a : Option V) : Bool :=
  a.any I.truth

/-- Both values are there and pass a test. -/
def test (p : V → V → Bool) : Option V → Option V → Bool
  | some x, some y => p x y
  | _, _ => false

/-- The truth value of a test, nothing if a side is nothing. -/
def compared (p : V → V → Bool) (a b : Option V) : Option V :=
  a.bind fun x => b.map fun y => I.ofTruth (p x y)

/-- The value of an operator. -/
def operate (op : Operator) (a b : Option V) : Option V :=
  match op with
  | .conj => (Store.both (a.map I.truth) (b.map I.truth)).map I.ofTruth
  | .equal => I.compared I.equal a b
  | .greater => I.compared I.greater a b
  | .atMost => I.compared I.atMost a b
  | .atLeast => I.compared I.atLeast a b
  | .times => a.bind fun x => b.bind fun y => I.product x y
  | .over => a.bind fun x => b.bind fun y => I.quotient x y

/-- The value of a function. Aggregates see a column of the group at hand; the star counts rows, any
other argument the values that are there. -/
def call (f : String) (isStar : Bool) (column args : List (Option V)) : Option V :=
  if f = "COUNT" then
    some (I.number (if isStar then column.length else (column.filter (·.isSome)).length : Nat))
  else if f = "SUM" then I.sum column
  else if f = "AVG" then I.average column
  else I.apply f args

@[simp] theorem holds_compared (p : V → V → Bool) (a b : Option V) :
    I.holds (I.compared p a b) = test p a b := by
  cases a with
  | none => rfl
  | some x =>
    cases b with
    | none => rfl
    | some y => simp [holds, compared, test, I.truth_ofTruth]

theorem holds_conj (a b : Option V) :
    I.holds (I.operate .conj a b) = (I.holds a && I.holds b) := by
  cases a with
  | none =>
    cases b with
    | none => rfl
    | some y => cases hy : I.truth y <;> simp [operate, holds, Store.both, hy, I.truth_ofTruth]
  | some x =>
    cases b with
    | none => cases hx : I.truth x <;> simp [operate, holds, Store.both, hx, I.truth_ofTruth]
    | some y =>
      cases hx : I.truth x <;> cases hy : I.truth y <;>
        simp [operate, holds, Store.both, hx, hy, I.truth_ofTruth]

end Interpretation

/-! ### Expressions -/

/-- The functions that look at all rows of a group. -/
def aggregateNames : List String := ["COUNT", "SUM", "AVG"]

namespace Expr

/-- An aggregate is called somewhere in the expression. -/
def isAggregate (e : Expr) : Bool :=
  e.tokens.any fun
    | .function f => decide (Text.upper f ∈ aggregateNames)
    | _ => false

/-- The expression is the star. -/
def isStar : Expr → Bool
  | .star => true
  | _ => false

variable {V : Type} (I : Interpretation V)

mutual

/-- The value of an expression in a group of rows. A column outside of aggregates is that of the
first row. -/
def value (rows : List (Row V)) : Expr → Option V
  | .column c => rows.head?.bind fun r => r c
  | .literal v => I.literal v
  | .param v => I.literal v
  | .binary l op r => I.operate op (value rows l) (value rows r)
  | .call f args =>
    I.call (Text.upper f) (args.any isStar) (rows.map fun r => (values [r] args).headD none)
      (values rows args)
  | .choice branches otherwise => firstValue rows branches (otherwiseValue rows otherwise)
  | .star => none

/-- The values of a list of expressions. -/
def values (rows : List (Row V)) : List Expr → List (Option V)
  | [] => []
  | e :: es => value rows e :: values rows es

/-- The value of the first branch whose guard holds. -/
def firstValue (rows : List (Row V)) : List (Expr × Expr) → Option V → Option V
  | [], last => last
  | b :: bs, last => if I.holds (value rows b.1) then value rows b.2 else firstValue rows bs last

/-- The value of the last part of a choice. -/
def otherwiseValue (rows : List (Row V)) : Option Expr → Option V
  | none => none
  | some e => value rows e

end

theorem value_countRows (rows : List (Row V)) :
    countRows.value I rows = some (I.number rows.length) := by
  have hf : Text.upper "COUNT" = "COUNT" := by decide
  simp [countRows, value, hf, Interpretation.call, isStar]

theorem value_sum (e : Expr) (rows : List (Row V)) :
    (sum e).value I rows = I.sum (rows.map fun r => e.value I [r]) := by
  have hf : Text.upper "SUM" = "SUM" := by decide
  simp [sum, value, values, hf, Interpretation.call]

theorem value_average (e : Expr) (rows : List (Row V)) :
    (average e).value I rows = I.average (rows.map fun r => e.value I [r]) := by
  have hf : Text.upper "AVG" = "AVG" := by decide
  simp [average, value, values, hf, Interpretation.call]

theorem holds_foldl_and (rows : List (Row V)) (es : List Expr) (e : Expr) :
    I.holds ((es.foldl Expr.and e).value I rows) =
      (I.holds (e.value I rows) && es.all fun f => I.holds (f.value I rows)) := by
  induction es generalizing e with
  | nil => simp
  | cons f es ih =>
    rw [List.foldl_cons, ih, Expr.and, value, I.holds_conj, List.all_cons, Bool.and_assoc]

/-- The percentage of the rows of a group in which a guard holds. -/
theorem value_percentage (guard : Expr) {rows : List (Row V)} (h : rows ≠ []) :
    (((sum (cond guard (.literal (.int 1)) (.literal (.int 0)))).mul (.literal (.float 100))).div
        countRows).value I rows =
      some (I.number
        ((rows.countP fun r => I.holds (guard.value I [r])) * 100 / rows.length)) := by
  have hbit : ∀ r : Row V, (cond guard (.literal (.int 1)) (.literal (.int 0))).value I [r] =
      some (I.number (if I.holds (guard.value I [r]) then 1 else 0)) := by
    intro r
    cases hg : I.holds (guard.value I [r]) <;>
      simp [cond, value, firstValue, otherwiseValue, hg, I.literal_one, I.literal_zero]
  -- the sum counts the ones, and there are rows to divide by
  have hsum := I.sum_bits (rows.map fun r => I.holds (guard.value I [r])) (by simpa using h)
  rw [List.map_map] at hsum
  have hn : (rows.length : ℚ) ≠ 0 := by
    simpa using h
  rw [div, mul, value, value, value_sum, value_countRows, List.map_congr_left fun r _ => hbit r]
  have hc : (rows.map fun r => I.holds (guard.value I [r])).count true =
      rows.countP fun r => I.holds (guard.value I [r]) := by
    rw [List.count, List.countP_map]
    exact List.countP_congr (by simp)
  rw [hc] at hsum
  have hs : I.sum (rows.map fun r =>
      some (I.number (if I.holds (guard.value I [r]) then 1 else 0))) =
      some (I.number (rows.countP fun r => I.holds (guard.value I [r]))) := hsum
  rw [hs, value, I.literal_hundred]
  simp [Interpretation.operate, I.product_number, I.quotient_number _ _ hn]

end Expr

/-! ### Queries -/

namespace Query

variable {V : Type} (I : Interpretation V)

/-- Without groups, the query still sums up all rows in one. -/
def isSummary (q : Query) : Bool :=
  q.having.isSome || q.items.any (·.expr.isAggregate)

/-- The rows on which the condition holds. -/
def kept (q : Query) (table : List (Row V)) : List (Row V) :=
  table.filter fun r => q.condition.all fun e => I.holds (e.value I [r])

/-- The groups of rows: one for each key, one of all rows, or one for each row. -/
def groupsOf [DecidableEq V] (q : Query) (rows : List (Row V)) : List (List (Row V)) :=
  if q.groups ≠ [] then
    (rows.map fun r => Expr.values I [r] q.groups).dedup.map fun k =>
      rows.filter fun r => Expr.values I [r] q.groups = k
  else if q.isSummary then [rows]
  else rows.map fun r => [r]

/-- The cells of all columns in the first row of a group. -/
def allCells (columns : List String) (rows : List (Row V)) : List (Option V) :=
  columns.map fun c => rows.head?.bind fun r => r c

/-- The row of the answer for a group. -/
def project (columns : List String) (q : Query) (rows : List (Row V)) : List (Option V) :=
  if q.items = [] then allCells columns rows
  else q.items.flatMap fun i =>
    if i.expr.isStar then allCells columns rows else [i.expr.value I rows]

/-- The rows of the answer, on the rows of a table with the given columns. -/
def answer [DecidableEq V] (columns : List String) (q : Query) (table : List (Row V)) :
    List (List (Option V)) :=
  let groups := (q.groupsOf I (q.kept I table)).filter fun rows =>
    q.having.all fun e => I.holds (e.value I rows)
  let rows := groups.map (q.project I columns)
  match q.limit with
  | none => rows
  | some n => rows.take n.toNat

end Query

end LedgerQuery.Sql
