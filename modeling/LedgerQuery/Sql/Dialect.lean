import LedgerQuery.Sql.Identifier
import LedgerQuery.Text.Split

/-!
# Dialects

The two dialects differ in the case of table names and in the spelling of truth values, and in
nothing else.

* `Dialect.ofName?`: the dialect of a name, in any case.
* `Dialect.tableText`: a table name part by part.
-/

namespace LedgerQuery.Sql

/-- A dialect of the statements. -/
inductive Dialect where
  | sqlite
  | snowflake
  deriving DecidableEq, Inhabited, Repr

/-- A name that is no dialect's, in small letters. -/
structure UnknownDialect where
  name : String
  deriving DecidableEq

/-- The message about an unknown dialect. -/
def UnknownDialect.message (e : UnknownDialect) : String :=
  "unknown dialect: " ++ e.name

/-- The parts of a dotted name. -/
def nameParts (s : String) : List String :=
  (Text.splitAt '.' s.toList).map String.ofList

namespace Dialect

/-- The name of a dialect. -/
def name : Dialect → String
  | .sqlite => "sqlite"
  | .snowflake => "snowflake"

/-- The dialect of a name. -/
def ofName? (s : String) : Except UnknownDialect Dialect :=
  let small := Text.lower s
  if small = "sqlite" ∨ small = "local" then .ok .sqlite
  else if small = "snowflake" then .ok .snowflake
  else .error ⟨small⟩

/-- Table names are written in capital letters. -/
def raisesTables : Dialect → Bool
  | .sqlite => false
  | .snowflake => true

/-- A table name in the case of the dialect. -/
def tableCase (d : Dialect) (s : String) : String :=
  if d.raisesTables then Text.upper s else s

/-- A truth value in the text of a statement. -/
def boolText : Dialect → Bool → String
  | .sqlite, b => if b then "1" else "0"
  | .snowflake, b => if b then "true" else "false"

/-- The mark of a bound parameter. -/
def placeholder (_ : Dialect) : String := "?"

/-- The parts of a table name in the case of the dialect. -/
def tableParts (d : Dialect) (s : String) : List String :=
  (nameParts s).map d.tableCase

/-- A table name in the text of a statement: each part of its own, in the case of the dialect. -/
def tableText (d : Dialect) (s : String) : String :=
  String.intercalate "." ((d.tableParts s).map Identifier.render)

@[simp] theorem tableCase_sqlite (s : String) : tableCase .sqlite s = s := rfl

@[simp] theorem tableCase_snowflake (s : String) : tableCase .snowflake s = Text.upper s := rfl

end Dialect

end LedgerQuery.Sql
