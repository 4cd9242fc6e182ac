import LedgerQuery.Json.Basic
import LedgerQuery.Decimal.Layout

/-!
# Values in statements

A literal is a value that stands in the text of a statement or is bound to one of its parameters.
-/

namespace LedgerQuery.Sql

/-- A value of a statement. -/
inductive Literal where
  | null
  | bool (value : Bool)
  | int (value : Int)
  | float (value : Float)
  | text (value : String)
  deriving DecidableEq, Inhabited

namespace Literal

/-- The value as it is bound or shown. -/
def toJson : Literal → Json
  | .null => .null
  | .bool b => .bool b
  | .int n => .int n
  | .float x => if Decimal.isFinite x then .float x else .null
  | .text s => .text s

end Literal

/-- A float in the text of a statement. What is no number has no spelling of its own. -/
def floatText (x : Float) : String :=
  if Decimal.isFinite x then Decimal.Layout.sql.render x else "NULL"

end LedgerQuery.Sql
