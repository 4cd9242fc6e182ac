import LedgerQuery.Sql.Token

/-!
# Expressions

The expressions of a statement and their tokens. An expression is written without parentheses of
its own: an operator stands between its two sides as they are.

* `Expr.tokens`: the tokens of an expression.
-/

namespace LedgerQuery.Sql

/-- An expression. -/
inductive Expr where
  | column (name : String)
  /-- A value in the text of the statement. -/
  | literal (value : Literal)
  /-- A value bound to the statement. -/
  | param (value : Literal)
  | binary (left : Expr) (op : Operator) (right : Expr)
  | call (function : String) (args : List Expr)
  /-- The first branch whose guard holds, else the last part. -/
  | choice (branches : List (Expr × Expr)) (otherwise : Option Expr)
  | star
  deriving Inhabited

namespace Expr

mutual

/-- The tokens of an expression. -/
def tokens : Expr → List Token
  | .column c => [.name c]
  | .literal v => [.literal v]
  | .param v => [.param v]
  | .binary l op r => l.tokens ++ [.space, .operator op, .space] ++ r.tokens
  | .call f args => [.function f, .opening] ++ listTokens args ++ [.closing]
  | .choice branches otherwise =>
    [.keyword .choice] ++ branchTokens branches ++ otherwiseTokens otherwise ++
      [.space, .keyword .closing]
  | .star => [.star]

/-- The tokens of a list of expressions. -/
def listTokens : List Expr → List Token
  | [] => []
  | [e] => e.tokens
  | e :: f :: r => e.tokens ++ [.comma, .space] ++ listTokens (f :: r)

/-- The tokens of the branches of a choice. -/
def branchTokens : List (Expr × Expr) → List Token
  | [] => []
  | b :: r =>
    [.space, .keyword .guard, .space] ++ b.1.tokens ++ [.space, .keyword .outcome, .space] ++
      b.2.tokens ++ branchTokens r

/-- The tokens of the last part of a choice. -/
def otherwiseTokens : Option Expr → List Token
  | none => []
  | some e => [.space, .keyword .otherwise, .space] ++ e.tokens

end

/-- The number of rows. -/
def countRows : Expr := .call "COUNT" [.star]

/-- The sum of an expression over rows. -/
def sum (e : Expr) : Expr := .call "SUM" [e]

/-- The average of an expression over rows. -/
def average (e : Expr) : Expr := .call "AVG" [e]

/-- One of two values. -/
def cond (guard outcome otherwise : Expr) : Expr :=
  .choice [(guard, outcome)] (some otherwise)

/-- Two expressions are equal. -/
def eq (l r : Expr) : Expr := .binary l .equal r

/-- The left one is greater. -/
def gt (l r : Expr) : Expr := .binary l .greater r

/-- The left one is not less. -/
def ge (l r : Expr) : Expr := .binary l .atLeast r

/-- The left one is not greater. -/
def le (l r : Expr) : Expr := .binary l .atMost r

/-- Both hold. -/
def and (l r : Expr) : Expr := .binary l .conj r

/-- The product. -/
def mul (l r : Expr) : Expr := .binary l .times r

/-- The quotient. -/
def div (l r : Expr) : Expr := .binary l .over r

end Expr

/-- An item of a result list, under a name of its own if there is one. -/
structure SelectItem where
  expr : Expr
  naming : Option String := none
  deriving Inhabited

/-- The tokens of an item. -/
def SelectItem.tokens (item : SelectItem) : List Token :=
  item.expr.tokens ++ match item.naming with
    | none => []
    | some a => [.space, .keyword .naming, .space, .name a]

end LedgerQuery.Sql
