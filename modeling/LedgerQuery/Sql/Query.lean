import LedgerQuery.Sql.Expr

/-!
# Queries

A query over one table. Its parts may be given in any order and are always written in the same one;
each condition is added to those before it, any other part replaces the one before.

* `Query.tokens`: the tokens of a query.
* `Query.sql`, `Query.inlineSql`, `Query.params`: its executable text, its text for people, and the
  values bound to it.
-/

namespace LedgerQuery.Sql

/-- A query over one table. -/
structure Query where
  items : List SelectItem := []
  source : Option String := none
  condition : Option Expr := none
  groups : List Expr := []
  having : Option Expr := none
  limit : Option UInt64 := none
  deriving Inhabited

/-- The tokens of a limit: the number as a signed one of 64 bits. -/
def limitTokens (n : UInt64) : List Token :=
  [.keyword .limit, .space, .literal (.int n.toInt64.toInt)]

namespace Query

/-- Sets the result list. -/
def select (q : Query) (items : List SelectItem) : Query := { q with items }

/-- Sets the table. -/
def fromTable (q : Query) (table : String) : Query := { q with source := some table }

/-- Adds a condition on rows. -/
def filter (q : Query) (e : Expr) : Query :=
  { q with condition := some (match q.condition with
      | none => e
      | some c => c.and e) }

/-- Sets the expressions whose values form the groups. -/
def groupBy (q : Query) (groups : List Expr) : Query := { q with groups }

/-- Sets the condition on groups. -/
def withHaving (q : Query) (e : Expr) : Query := { q with having := some e }

/-- Sets the greatest number of rows. -/
def withLimit (q : Query) (n : UInt64) : Query := { q with limit := some n }

/-- The tokens of the items behind the first one, each on a line of its own. -/
def moreItemTokens : List SelectItem → List Token
  | [] => []
  | i :: r => [.comma, .newline, .indent 1] ++ i.tokens ++ moreItemTokens r

/-- The tokens of the result list. -/
def itemTokens : List SelectItem → List Token
  | [] => [.space, .star]
  | i :: r => [.newline, .indent 1] ++ i.tokens ++ moreItemTokens r

/-- The tokens of a part that may be missing. -/
def partTokens {α : Type} (word : Keyword) (tokens : α → List Token) : Option α → List Token
  | none => []
  | some a => [.newline, .keyword word, .space] ++ tokens a

/-- The tokens of the groups. -/
def groupTokens : List Expr → List Token
  | [] => []
  | e :: r => [.newline, .keyword .grouping, .space] ++ Expr.listTokens (e :: r)

/-- The tokens of a query. -/
def tokens (q : Query) : List Token :=
  [.keyword .select] ++ itemTokens q.items ++
    partTokens .source (fun t => [.table t]) q.source ++
    partTokens .condition Expr.tokens q.condition ++
    groupTokens q.groups ++
    partTokens .having Expr.tokens q.having ++
    (match q.limit with
      | none => []
      | some n => .newline :: limitTokens n)

/-- The executable text of a query. -/
def sql (q : Query) (d : Dialect) : String :=
  write d .bound q.tokens

/-- The text of a query with its bound values written out. -/
def inlineSql (q : Query) (d : Dialect) : String :=
  write d .inline q.tokens

/-- The values bound to a query, in the order of their placeholders. -/
def params (q : Query) : List Literal :=
  Sql.params q.tokens

end Query

end LedgerQuery.Sql
