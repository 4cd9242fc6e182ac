import Mathlib.Algebra.Order.Field.Rat
import Mathlib.Data.List.ReduceOption
import Mathlib.Tactic.NormNum
import LedgerQuery.Proofs.Sql.Meaning

/-!
# Cells with exact numbers

An interpretation of statements in which every number is a rational one and nothing is rounded.

* `Cell.interpretation`: numbers, texts and truth values, with sums and averages of what is there.
-/

namespace LedgerQuery.Sql

/-- A value of a table. -/
inductive Cell where
  | number (x : ℚ)
  | text (s : String)
  | truth (b : Bool)
  deriving DecidableEq

namespace Cell

/-- The number that a float stands for. -/
def ofFloat (x : Float) : Option Cell :=
  match Decimal.parts x with
  | .finite negative m e => some (.number ((if negative then -1 else 1) * (m * (2 : ℚ) ^ e)))
  | _ => none

/-- The cell of a literal. -/
def ofLiteral : Literal → Option Cell
  | .null => none
  | .bool b => some (.truth b)
  | .int n => some (.number n)
  | .float x => ofFloat x
  | .text s => some (.text s)

/-- The number that a cell counts as. -/
def rational : Cell → ℚ
  | .number x => x
  | .truth b => if b then 1 else 0
  | .text _ => 0

/-- Both are numbers or both are texts, and the first one is not greater. -/
def le : Cell → Cell → Bool
  | .number x, .number y => decide (x ≤ y)
  | .text s, .text t => decide (s ≤ t)
  | _, _ => false

/-- The sum of the cells that are there, if there are any. -/
def total (cells : List (Option Cell)) : Option Cell :=
  if cells.reduceOption = [] then none
  else some (.number (cells.reduceOption.map rational).sum)

/-- The average of the cells that are there, if there are any. -/
def mean (cells : List (Option Cell)) : Option Cell :=
  if cells.reduceOption = [] then none
  else some (.number ((cells.reduceOption.map rational).sum / cells.reduceOption.length))

theorem ofFloat_hundred : ofFloat 100 = some (.number 100) := by
  have hp : Decimal.parts 100 = .finite false 7036874417766400 (-46) := by decide +kernel
  rw [ofFloat, hp]
  norm_num

theorem total_bits {bs : List Bool} (h : bs ≠ []) :
    total (bs.map fun b => some (.number (if b then 1 else 0))) =
      some (.number (bs.count true)) := by
  have hr : (bs.map fun b => some (Cell.number (if b then 1 else 0))).reduceOption =
      bs.map fun b => .number (if b then 1 else 0) := by
    clear h
    induction bs with
    | nil => rfl
    | cons b bs ih => rw [List.map_cons, List.reduceOption_cons_of_some, ih, List.map_cons]
  have hs : ((bs.map fun b => Cell.number (if b then 1 else 0)).map rational).sum =
      (bs.count true : ℚ) := by
    clear h hr
    induction bs with
    | nil => rfl
    | cons b bs ih =>
      rw [List.map_cons, List.map_cons, List.sum_cons, ih, List.count_cons]
      cases b
      · simp [rational]
      · simp [rational, add_comm]
  rw [total, hr, if_neg (by simpa using h), hs]

/-- Statements read with exact numbers. -/
def interpretation : Interpretation Cell where
  literal := ofLiteral
  number := .number
  ofTruth := .truth
  truth a := decide (a ≠ .truth false ∧ a ≠ .number 0)
  equal a b := decide (a = b)
  greater a b := decide (b.rational < a.rational)
  atMost := le
  atLeast a b := le b a
  product a b := some (.number (a.rational * b.rational))
  quotient a b := if b.rational = 0 then none else some (.number (a.rational / b.rational))
  sum := total
  average := mean
  apply _ _ := none
  truth_ofTruth b := by cases b <;> rfl
  literal_zero := rfl
  literal_one := rfl
  literal_hundred := ofFloat_hundred
  greater_number _ _ := rfl
  product_number _ _ := rfl
  quotient_number _ _ h := if_neg h
  sum_bits _ h := total_bits h

end Cell

end LedgerQuery.Sql
