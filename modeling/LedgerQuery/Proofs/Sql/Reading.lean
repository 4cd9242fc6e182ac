import LedgerQuery.Sql.Expr

/-!
# Reading expressions back

An expression is written without parentheses of its own, so which operand belongs to which operator
is for the reader to find out. The reader goes over the tokens once, from left to right, and keeps
on a stack what it has begun and not yet finished. All operators group to the left. The conjunction
binds loosest, then equality, then the other comparisons, then products and quotients; calls and
choices are operands like any other. Spaces mean nothing.

* `Operator.level`: how tightly an operator binds.
* `Reading.step`: one token.
* `Reading.parse`: the expression that a list of tokens is read as.
-/

namespace LedgerQuery.Sql

/-- How tightly an operator binds. -/
def Operator.level : Operator → Nat
  | .conj => 0
  | .equal => 1
  | .greater | .atMost | .atLeast => 2
  | .times | .over => 3

namespace Reading

/-- Something begun that waits for an expression. -/
inductive Frame where
  /-- An operator behind its left side. -/
  | left (e : Expr) (op : Operator)
  /-- A call and its arguments so far. -/
  | args (function : String) (done : List Expr)
  /-- A choice whose next guard comes. -/
  | guard (done : List (Expr × Expr))
  /-- A choice whose next outcome comes. -/
  | outcome (done : List (Expr × Expr)) (guard : Expr)
  /-- A choice whose last part comes. -/
  | otherwise (done : List (Expr × Expr))

/-- What has been read behind the frames. -/
inductive Focus where
  | nothing
  /-- The name of a function, without its parenthesis. -/
  | named (function : String)
  /-- A choice between two of its branches. -/
  | between (done : List (Expr × Expr))
  /-- An expression that may still turn out to be the left side of an operator. -/
  | whole (e : Expr)

/-- The frames, the newest one first, and what has been read behind them. -/
structure State where
  stack : List Frame
  focus : Focus

/-- Gives an expression to the operators that wait for it and bind at least as tightly as a level. -/
def settle (level : Nat) : List Frame → Expr → List Frame × Expr
  | .left l op :: s, e =>
    if level ≤ op.level then settle level s (.binary l op e) else (.left l op :: s, e)
  | s, e => (s, e)

/-- A token where an expression begins. Only a call without arguments can end there. -/
def opens (s : List Frame) : Token → Option State
  | .name c => some ⟨s, .whole (.column c)⟩
  | .literal v => some ⟨s, .whole (.literal v)⟩
  | .param v => some ⟨s, .whole (.param v)⟩
  | .star => some ⟨s, .whole .star⟩
  | .function f => some ⟨s, .named f⟩
  | .keyword .choice => some ⟨s, .between []⟩
  | .closing => match s with
    | .args f [] :: s => some ⟨s, .whole (.call f [])⟩
    | _ => none
  | _ => none

/-- A token between two branches of a choice. -/
def branches (s : List Frame) (done : List (Expr × Expr)) : Token → Option State
  | .keyword .guard => some ⟨.guard done :: s, .nothing⟩
  | .keyword .otherwise => some ⟨.otherwise done :: s, .nothing⟩
  | .keyword .closing => some ⟨s, .whole (.choice done none)⟩
  | _ => none

/-- A token that ends an expression, for the frame that waits for the expression. -/
def closes : List Frame → Expr → Token → Option State
  | .args f done :: s, e, .comma => some ⟨.args f (done ++ [e]) :: s, .nothing⟩
  | .args f done :: s, e, .closing => some ⟨s, .whole (.call f (done ++ [e]))⟩
  | .guard done :: s, e, .keyword .outcome => some ⟨.outcome done e :: s, .nothing⟩
  | .outcome done g :: s, e, t => branches s (done ++ [(g, e)]) t
  | .otherwise done :: s, e, .keyword .closing => some ⟨s, .whole (.choice done (some e))⟩
  | _, _, _ => none

/-- One token. -/
def step (st : State) : Token → Option State
  | .space => some st
  | t => match st.focus with
    | .nothing => opens st.stack t
    | .named f => if t = .opening then some ⟨.args f [] :: st.stack, .nothing⟩ else none
    | .between done => branches st.stack done t
    | .whole e => match t with
      | .operator op =>
        let (s, e) := settle op.level st.stack e
        some ⟨.left e op :: s, .nothing⟩
      | t =>
        let (s, e) := settle 0 st.stack e
        closes s e t

/-- The end of the tokens. -/
def finish (st : State) : Option Expr :=
  match st.focus with
  | .whole e => match settle 0 st.stack e with
    | ([], e) => some e
    | _ => none
  | _ => none

/-- The expression that a list of tokens is read as. -/
def parse (ts : List Token) : Option Expr :=
  (ts.foldlM step ⟨[], .nothing⟩).bind finish

end Reading

end LedgerQuery.Sql
