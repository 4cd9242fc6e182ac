import LedgerQuery.Store.Value

/-!
# Statements of the embedded store

What the store understands: questions about one table, the creation of tables and new rows. Names
are a parameter of terms: as they are written at first, and the columns that they mean later on.

* `Term`: what is computed from a row or a group of rows.
* `Term.bind`: the term with each name replaced by what it means.
-/

namespace LedgerQuery.Store

/-- Why a statement is refused or fails. -/
inductive Fault where
  | noTable (name : String)
  | noColumn (name : String) (place : Nat)
  | noFunction (name : String) (place : Nat)
  /-- A lexeme where none like it can stand. -/
  | unexpected (source : String) (place : Nat)
  /-- Characters that form no lexeme. -/
  | unrecognized (source : String) (place : Nat)
  /-- The text ends too early. -/
  | incomplete
  /-- There is no statement in the text. -/
  | empty
  | tableExists (name : String) (place : Nat)
  /-- An aggregate in the conditions on rows. -/
  | misplacedAggregate (name : String) (place : Nat)
  /-- Conditions on groups where there are none. -/
  | noGroups
  | wrongCount (table : String) (columns values : Nat)
  | wrongParams (given needed : Nat)
  | notNull (table column : String)
  | notUnique (table column : String)
  | overflow
  /-- A key of the wrong kind. -/
  | mismatch
  | notDatabase
  deriving DecidableEq, Inhabited

/-- The message about a fault, without the statement. -/
def Fault.text : Fault → String
  | .noTable name => "no such table: " ++ name
  | .noColumn name _ => "no such column: " ++ name
  | .noFunction name _ => "no such function: " ++ name
  | .unexpected source _ => "near \"" ++ source ++ "\": syntax error"
  | .unrecognized source _ => "unrecognized token: \"" ++ source ++ "\""
  | .incomplete => "incomplete input"
  | .empty => "bad parameter or other API misuse"
  | .tableExists name _ => "table " ++ name ++ " already exists"
  | .misplacedAggregate name _ => "misuse of aggregate: " ++ name ++ "()"
  | .noGroups => "HAVING clause on a non-aggregate query"
  | .wrongCount table columns values =>
    "table " ++ table ++ " has " ++ toString columns ++ " columns but " ++ toString values ++
      " values were supplied"
  | .wrongParams given needed =>
    "Wrong number of parameters passed to query. Got " ++ toString given ++ ", needed " ++
      toString needed
  | .notNull table column => "NOT NULL constraint failed: " ++ table ++ "." ++ column
  | .notUnique table column => "UNIQUE constraint failed: " ++ table ++ "." ++ column
  | .overflow => "integer overflow"
  | .mismatch => "datatype mismatch"
  | .notDatabase => "file is not a database"

/-- The place of a fault in the statement, in bytes. -/
def Fault.place? : Fault → Option Nat
  | .noColumn _ n | .noFunction _ n | .unexpected _ n | .unrecognized _ n | .tableExists _ n
  | .misplacedAggregate _ n => some n
  | _ => none

/-- The message about a fault of a statement. -/
def Fault.message (f : Fault) (sql : String) : String :=
  match f.place? with
  | none => f.text
  | some n => f.text ++ " in " ++ sql ++ " at offset " ++ toString n

/-- An operator between two terms. -/
inductive Operator where
  | equal
  | differ
  | less
  | atMost
  | greater
  | atLeast
  | conj
  | disj
  | plus
  | minus
  | times
  | over
  | modulo
  | concat
  deriving DecidableEq, Inhabited

/-- What is computed from the rows of a group. -/
inductive Aggregate where
  | count
  | sum
  | average
  deriving DecidableEq, Inhabited

/-- A term over names of a kind. -/
inductive Term (ν : Type) where
  | name (v : ν)
  | value (v : Value)
  | param (index : Nat)
  | negate (t : Term ν)
  | invert (t : Term ν)
  /-- The term is nothing, or is not. -/
  | isNull (expected : Bool) (t : Term ν)
  | binary (op : Operator) (left right : Term ν)
  /-- The second term if the first one is true, else the third one. -/
  | cond (test yes no : Term ν)
  | cast (affinity : Affinity) (t : Term ν)
  /-- The number of rows of the group. -/
  | countRows (written : String) (place : Nat)
  | aggregate (f : Aggregate) (written : String) (place : Nat) (t : Term ν)
  /-- A call of a function that there is not. -/
  | unknown (written : String) (place : Nat)
  deriving Inhabited

namespace Term

variable {ν μ : Type}

/-- The term with each name replaced by what it means. -/
def bind (f : ν → Except Fault (Term μ)) : Term ν → Except Fault (Term μ)
  | .name v => f v
  | .value v => .ok (.value v)
  | .param n => .ok (.param n)
  | .negate t => do return .negate (← t.bind f)
  | .invert t => do return .invert (← t.bind f)
  | .isNull expected t => do return .isNull expected (← t.bind f)
  | .binary op l r => do
    let l ← l.bind f
    return .binary op l (← r.bind f)
  | .cond c y n => do
    let c ← c.bind f
    let y ← y.bind f
    return .cond c y (← n.bind f)
  | .cast a t => do return .cast a (← t.bind f)
  | .countRows w p => .ok (.countRows w p)
  | .aggregate g w p t => do return .aggregate g w p (← t.bind f)
  | .unknown w p => .error (.noFunction w p)

/-- The aggregates of a term, from left to right, as they are written and where. -/
def aggregates : Term ν → List (String × Nat)
  | .negate t | .invert t | .isNull _ t | .cast _ t => t.aggregates
  | .binary _ l r => l.aggregates ++ r.aggregates
  | .cond c y n => c.aggregates ++ y.aggregates ++ n.aggregates
  | .countRows w p | .aggregate _ w p _ => [(w, p)]
  | _ => []

/-- The least number that is greater than the index of every parameter. -/
def paramCount : Term ν → Nat
  | .param n => n + 1
  | .negate t | .invert t | .isNull _ t | .cast _ t | .aggregate _ _ _ t => t.paramCount
  | .binary _ l r => max l.paramCount r.paramCount
  | .cond c y n => max c.paramCount (max y.paramCount n.paramCount)
  | _ => 0

end Term

/-- A name as it is written. -/
structure Name where
  qualifier : Option String := none
  text : String
  /-- It stands in double quotes, so it may be meant as a string. -/
  isDouble : Bool := false
  /-- It stands without quotes. -/
  isBare : Bool := false
  place : Nat := 0
  deriving DecidableEq, Inhabited

/-- A column of the answer: all columns of the table, or a term. -/
inductive Item where
  | all
  /-- A term with how it is written, and its name if it is given one. -/
  | term (t : Term Name) (written : String) (title : Option String)
  deriving Inhabited

/-- Where rows come from. -/
inductive Source where
  | table (schema : Option String) (name : String)
  /-- The columns of the table that a term names. -/
  | columnsOf (t : Term Name)
  deriving Inhabited

/-- A question. -/
structure Question where
  items : List Item
  source : Option Source := none
  condition : Option (Term Name) := none
  groups : List (Term Name) := []
  groupCondition : Option (Term Name) := none
  /-- The terms to sort by, and whether the order is reversed. -/
  order : List (Term Name × Bool) := []
  limit : Option (Term Name) := none
  deriving Inhabited

/-- A column as a table declares it. -/
structure ColumnDeclaration where
  name : String
  declared : String := ""
  isRequired : Bool := false
  /-- The place of the column in the primary key, from one on; zero if it is not in it. -/
  keyPlace : Nat := 0
  isUnique : Bool := false
  /-- The default as it is written. -/
  default? : Option String := none
  defaultValue : Value := .null
  countsUp : Bool := false
  deriving Inhabited

/-- What a statement asks for. -/
inductive Command where
  /-- A text without a statement. -/
  | nothing
  | question (q : Question)
  | createTable (schema : Option String) (name : String) (place : Nat) (written : String)
      (columns : List ColumnDeclaration)
  | insert (schema : Option String) (name : String) (rows : List (List (Term Name)))
  deriving Inhabited

end LedgerQuery.Store
