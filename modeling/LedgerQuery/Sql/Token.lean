import LedgerQuery.Sql.Dialect
import LedgerQuery.Sql.Literal

/-!
# Tokens

A statement is a list of tokens. Executed, a bound value is written as the placeholder; shown, it is
written as a literal. The bound values are read off the tokens in order.

* `write_append`, `params_append`: text and bound values of a list are those of its parts.
-/

namespace LedgerQuery.Sql

/-- The words of a statement. -/
inductive Keyword where
  | select
  | source
  | condition
  | naming
  | grouping
  | having
  | limit
  | choice
  | guard
  | outcome
  | otherwise
  | closing
  deriving DecidableEq, Repr

/-- The spelling of a word. -/
def Keyword.text : Keyword → String
  | .select => "SELECT"
  | .source => "FROM"
  | .condition => "WHERE"
  | .naming => "AS"
  | .grouping => "GROUP BY"
  | .having => "HAVING"
  | .limit => "LIMIT"
  | .choice => "CASE"
  | .guard => "WHEN"
  | .outcome => "THEN"
  | .otherwise => "ELSE"
  | .closing => "END"

/-- The operators between two expressions. -/
inductive Operator where
  | conj
  | equal
  | greater
  | atMost
  | atLeast
  | times
  | over
  deriving DecidableEq, Repr

/-- The spelling of an operator. -/
def Operator.text : Operator → String
  | .conj => "AND"
  | .equal => "="
  | .greater => ">"
  | .atMost => "<="
  | .atLeast => ">="
  | .times => "*"
  | .over => "/"

/-- An atom of a statement. -/
inductive Token where
  | keyword (word : Keyword)
  | operator (op : Operator)
  | star
  | comma
  | opening
  | closing
  | space
  | newline
  | indent (levels : Nat)
  /-- A column or an alias. -/
  | name (text : String)
  /-- A table, whose name follows the dialect's case. -/
  | table (text : String)
  /-- A function, whose name is written in capital letters. -/
  | function (text : String)
  | literal (value : Literal)
  /-- A bound value. -/
  | param (value : Literal)
  deriving DecidableEq

/-- Which text a statement is written as. -/
inductive Mode where
  /-- Bound values are written as placeholders. -/
  | bound
  /-- Bound values are written out. -/
  | inline
  deriving DecidableEq

/-- A literal in the text of a statement. -/
def Literal.write (d : Dialect) : Literal → String
  | .null => "NULL"
  | .bool b => d.boolText b
  | .int n => Decimal.intText n
  | .float x => floatText x
  | .text s => stringText s

namespace Token

/-- The text of a token. -/
def write (d : Dialect) (mode : Mode) : Token → String
  | .keyword w => w.text
  | .operator op => op.text
  | .star => "*"
  | .comma => ","
  | .opening => "("
  | .closing => ")"
  | .space => " "
  | .newline => "\n"
  | .indent n => String.ofList (List.replicate (2 * n) ' ')
  | .name s => Identifier.render s
  | .table s => d.tableText s
  | .function s => Text.upper s
  | .literal v => v.write d
  | .param v => match mode with
    | .bound => d.placeholder
    | .inline => v.write d

/-- The value bound by a token. -/
def param? : Token → Option Literal
  | .param v => some v
  | _ => none

end Token

/-- The text of a list of tokens. -/
def write (d : Dialect) (mode : Mode) (ts : List Token) : String :=
  String.join (ts.map (Token.write d mode))

/-- The bound values of a list of tokens, in the order of their placeholders. -/
def params (ts : List Token) : List Literal :=
  ts.filterMap Token.param?

@[simp] theorem toList_write (d : Dialect) (mode : Mode) (ts : List Token) :
    (write d mode ts).toList = ts.flatMap fun t => (t.write d mode).toList := by
  simp [write, List.flatMap_map]

theorem write_append (d : Dialect) (mode : Mode) (ts us : List Token) :
    write d mode (ts ++ us) = write d mode ts ++ write d mode us := by
  rw [← String.toList_inj]
  simp

@[simp] theorem params_append (ts us : List Token) : params (ts ++ us) = params ts ++ params us := by
  simp [params]

@[simp] theorem params_nil : params [] = [] := rfl

end LedgerQuery.Sql
