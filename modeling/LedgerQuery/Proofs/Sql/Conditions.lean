import LedgerQuery.Sql.Query

/-!
# Conditions given one after another

Each condition added to a query stands behind those before it, joined to them by the conjunction,
which nests to the left.

* `foldl_filter`: adding conditions changes nothing but the condition of the query.
* `tokens_conjunction`: the tokens of the conditions, in the order in which they were given.
* `params_condition`: the values they bind, in the same order.
-/

namespace LedgerQuery.Sql

/-- A condition together with those before it. -/
def addCondition (c : Option Expr) (e : Expr) : Option Expr :=
  some (match c with
    | none => e
    | some c => c.and e)

/-- The conjunction of conditions, nested to the left. -/
def conjunction (es : List Expr) : Option Expr :=
  es.foldl addCondition none

theorem foldl_filter (es : List Expr) (q : Query) :
    es.foldl Query.filter q = { q with condition := es.foldl addCondition q.condition } := by
  induction es generalizing q with
  | nil => rfl
  | cons e es ih => rw [List.foldl_cons, ih]; rfl

theorem foldl_addCondition (es : List Expr) (c : Expr) :
    es.foldl addCondition (some c) = some (es.foldl Expr.and c) := by
  induction es generalizing c with
  | nil => rfl
  | cons e es ih => exact ih (c.and e)

@[simp] theorem conjunction_nil : conjunction [] = none := rfl

theorem conjunction_cons (e : Expr) (es : List Expr) :
    conjunction (e :: es) = some (es.foldl Expr.and e) :=
  foldl_addCondition es e

theorem tokens_foldl_and (es : List Expr) (c : Expr) :
    (es.foldl Expr.and c).tokens =
      c.tokens ++ es.flatMap fun e => [.space, .operator .conj, .space] ++ e.tokens := by
  induction es generalizing c with
  | nil => simp
  | cons e es ih =>
    rw [List.foldl_cons, ih, Expr.and, Expr.tokens, List.flatMap_cons]
    simp only [List.append_assoc]

/-- The tokens of conditions with the conjunction between them. -/
def conjunctionTokens : List Expr → List Token
  | [] => []
  | e :: es => e.tokens ++ es.flatMap fun e => [.space, .operator .conj, .space] ++ e.tokens

theorem tokens_conjunction {es : List Expr} {c : Expr} (h : conjunction es = some c) :
    c.tokens = conjunctionTokens es := by
  cases es with
  | nil => exact absurd h (by simp)
  | cons e es =>
    rw [conjunction_cons, Option.some_inj] at h
    rw [← h, tokens_foldl_and]
    rfl

theorem params_condition (es : List Expr) :
    params (Query.partTokens .condition Expr.tokens (conjunction es)) =
      es.flatMap fun e => params e.tokens := by
  cases es with
  | nil => rfl
  | cons e es =>
    have hm : params (es.flatMap fun e => [.space, .operator .conj, .space] ++ e.tokens) =
        es.flatMap fun e => params e.tokens := by
      induction es with
      | nil => rfl
      | cons e es ih =>
        rw [List.flatMap_cons, params_append, params_append, ih]
        rfl
    rw [conjunction_cons, Query.partTokens, tokens_foldl_and, params_append,
      params_append, hm, List.flatMap_cons]
    rfl

end LedgerQuery.Sql
