import Mathlib.Data.List.Basic
import Mathlib.Data.List.Induction
import LedgerQuery.Proofs.Sql.Clauses

/-!
# Calls that build a query

A query is built by calls, each of one method. A filter adds its condition to those before it; any
other call replaces what the earlier calls of its method have said. No call touches what the others
are about, so only the order among the calls of one method counts.

* `Query.build_eq_query`: the query that calls build, from their choices.
* `Query.build_eq_clauses`: its clauses, its bound values, and what the order of the calls does to
  them.
-/

namespace LedgerQuery.Sql

namespace Query

/-- The methods that build a query. -/
inductive Method where
  | select
  | source
  | filter
  | groups
  | having
  | limit
  deriving DecidableEq

/-- A call with its argument. -/
inductive Call where
  | select (items : List SelectItem)
  | source (table : String)
  | filter (e : Expr)
  | groups (es : List Expr)
  | having (e : Expr)
  | limit (n : UInt64)

namespace Call

/-- The method that is called. -/
def method : Call → Method
  | .select _ => .select
  | .source _ => .source
  | .filter _ => .filter
  | .groups _ => .groups
  | .having _ => .having
  | .limit _ => .limit

/-- The query after a call. -/
def apply (q : Query) : Call → Query
  | .select items => q.select items
  | .source table => q.fromTable table
  | .filter e => q.filter e
  | .groups es => q.groupBy es
  | .having e => q.withHaving e
  | .limit n => q.withLimit n

/-- The result list that a call gives. -/
def items? : Call → Option (List SelectItem)
  | .select items => some items
  | _ => none

/-- The table that a call gives. -/
def source? : Call → Option String
  | .source table => some table
  | _ => none

/-- The condition on rows that a call gives. -/
def condition? : Call → Option Expr
  | .filter e => some e
  | _ => none

/-- The groups that a call gives. -/
def groups? : Call → Option (List Expr)
  | .groups es => some es
  | _ => none

/-- The condition on groups that a call gives. -/
def having? : Call → Option Expr
  | .having e => some e
  | _ => none

/-- The greatest number of rows that a call gives. -/
def limit? : Call → Option UInt64
  | .limit n => some n
  | _ => none

/-- A call gives nothing but what its method is about. -/
theorem method_or_none (c : Call) :
    (c.method = .select ∨ c.items? = none) ∧ (c.method = .source ∨ c.source? = none) ∧
      (c.method = .filter ∨ c.condition? = none) ∧ (c.method = .groups ∨ c.groups? = none) ∧
      (c.method = .having ∨ c.having? = none) ∧ (c.method = .limit ∨ c.limit? = none) := by
  cases c <;> simp [method, items?, source?, condition?, groups?, having?, limit?]

end Call

/-- The query that calls build from a new one. -/
def build (calls : List Call) : Query :=
  calls.foldl Call.apply {}

theorem build_snoc (calls : List Call) (c : Call) :
    build (calls ++ [c]) = c.apply (build calls) := by
  rw [build, List.foldl_append, List.foldl_cons, List.foldl_nil, build]

variable {α : Type}

/-- What the last of the calls that give something gives. -/
def lastOf (f : Call → Option α) (calls : List Call) : Option α :=
  (calls.filterMap f).getLast?

theorem lastOf_snoc (f : Call → Option α) (calls : List Call) (c : Call) :
    lastOf f (calls ++ [c]) = (f c).or (lastOf f calls) := by
  rw [lastOf, List.filterMap_append, List.getLast?_append, lastOf]
  cases hc : f c <;> simp [hc]

/-- What calls choose: all the conditions on rows in the order of the calls, and of each other part
the last one that is given. -/
structure Choices where
  items : Option (List SelectItem)
  source : Option String
  conditions : List Expr
  groups : Option (List Expr)
  having : Option Expr
  limit : Option UInt64

namespace Choices

/-- What calls choose. -/
def ofCalls (calls : List Call) : Choices where
  items := lastOf Call.items? calls
  source := lastOf Call.source? calls
  conditions := calls.filterMap Call.condition?
  groups := lastOf Call.groups? calls
  having := lastOf Call.having? calls
  limit := lastOf Call.limit? calls

/-- The choices after one more call. -/
def add (ch : Choices) (c : Call) : Choices where
  items := c.items?.or ch.items
  source := c.source?.or ch.source
  conditions := ch.conditions ++ c.condition?.toList
  groups := c.groups?.or ch.groups
  having := c.having?.or ch.having
  limit := c.limit?.or ch.limit

theorem ofCalls_snoc (calls : List Call) (c : Call) :
    ofCalls (calls ++ [c]) = (ofCalls calls).add c := by
  have hconditions : [c].filterMap Call.condition? = c.condition?.toList := by
    cases c <;> rfl
  simp only [ofCalls, add, lastOf_snoc, List.filterMap_append, hconditions]

/-- The query of the choices. -/
def query (c : Choices) : Query where
  items := c.items.getD []
  source := c.source
  condition := conjunction c.conditions
  groups := c.groups.getD []
  having := c.having
  limit := c.limit

/-- The conditions with `AND` between them. -/
def conditionTokens (es : List Expr) : List Token :=
  List.intercalate [.space, .operator .conj, .space] (es.map Expr.tokens)

/-- The clauses of the choices. -/
def clauses (c : Choices) : List Clause :=
  ⟨.select, Query.itemTokens (c.items.getD [])⟩ ::
    (partClause .source (fun t => [.table t]) c.source ++
      partClause .condition conditionTokens (nonempty c.conditions) ++
      partClause .grouping Expr.listTokens (nonempty (c.groups.getD [])) ++
      partClause .having Expr.tokens c.having ++
      partClause .limit (fun n => [.literal (.int n.toInt64.toInt)]) c.limit)

/-- The expressions of the choices, in the order of the clauses. -/
def exprs (c : Choices) : List Expr :=
  (c.items.getD []).map SelectItem.expr ++ c.conditions ++ c.groups.getD [] ++ c.having.toList

theorem conditionTokens_eq (es : List Expr) : conditionTokens es = conjunctionTokens es := by
  cases es with
  | nil => rfl
  | cons e es => rw [conditionTokens, List.map_cons, intercalate_cons, List.flatMap_map]; rfl

theorem clauses_query (c : Choices) : c.query.clauses = c.clauses := by
  have hcondition : partClause .condition Expr.tokens (conjunction c.conditions) =
      partClause .condition conditionTokens (nonempty c.conditions) := by
    cases h : c.conditions with
    | nil => rfl
    | cons e es =>
      have htokens := tokens_conjunction (conjunction_cons e es)
      rw [conjunction_cons, nonempty_cons]
      simp only [partClause, Option.toList_some, List.map_cons, List.map_nil]
      rw [htokens, conditionTokens_eq]
  simp only [Query.clauses, query, clauses, hcondition]

theorem params_query (c : Choices) :
    c.query.params = c.exprs.flatMap fun e => Sql.params e.tokens := by
  rw [Query.params_eq, exprs, List.flatMap_append, List.flatMap_append, List.flatMap_append,
    List.flatMap_map]
  simp only [query, params_condition]

end Choices

/-- One more call changes the part that its method is about, and no other. -/
theorem Choices.query_add (ch : Choices) (c : Call) : (ch.add c).query = c.apply ch.query := by
  cases c with
  | filter e =>
    have hcondition : conjunction (ch.conditions ++ [e]) =
        addCondition (conjunction ch.conditions) e := by
      rw [conjunction, List.foldl_concat, conjunction]
    simp only [query, add, Call.condition?, Option.toList_some, hcondition]
    rfl
  | _ =>
    simp only [query, add, Call.condition?, Option.toList_none, List.append_nil]
    rfl

/-- The query that calls build is that of their choices. -/
theorem build_eq_query (calls : List Call) : build calls = (Choices.ofCalls calls).query := by
  induction calls using List.reverseRecOn with
  | nil => rfl
  | append_singleton calls c ih =>
    rw [build_snoc, ih, Choices.ofCalls_snoc, Choices.query_add]

/-! ### Calls in another order -/

/-- The calls of each method are the same ones in the same order. -/
def SameByMethod (calls calls' : List Call) : Prop :=
  ∀ m, calls.filter (fun c => c.method = m) = calls'.filter (fun c => c.method = m)

namespace SameByMethod

variable {calls calls' : List Call} (h : SameByMethod calls calls')

include h

/-- What the calls of one method give, and no other call gives, is the same. -/
theorem filterMap_eq {f : Call → Option α} (m : Method)
    (hf : ∀ c, c.method = m ∨ f c = none) : calls.filterMap f = calls'.filterMap f := by
  have honly : ∀ calls : List Call,
      (calls.filter (fun c => c.method = m)).filterMap f = calls.filterMap f := by
    intro calls
    rw [List.filterMap_filter]
    refine List.filterMap_congr fun c _ => ?_
    rcases hf c with hc | hc <;> simp [hc]
  rw [← honly calls, h m, honly]

theorem lastOf_eq {f : Call → Option α} (m : Method)
    (hf : ∀ c, c.method = m ∨ f c = none) : lastOf f calls = lastOf f calls' := by
  rw [lastOf, lastOf, h.filterMap_eq m hf]

/-- The choices of the calls are the same. -/
theorem ofCalls_eq : Choices.ofCalls calls = Choices.ofCalls calls' := by
  have hone := Call.method_or_none
  rw [Choices.ofCalls, Choices.ofCalls, h.lastOf_eq .select fun c => (hone c).1,
    h.lastOf_eq .source fun c => (hone c).2.1, h.filterMap_eq .filter fun c => (hone c).2.2.1,
    h.lastOf_eq .groups fun c => (hone c).2.2.2.1, h.lastOf_eq .having fun c => (hone c).2.2.2.2.1,
    h.lastOf_eq .limit fun c => (hone c).2.2.2.2.2]

end SameByMethod

/-- The query that calls build, in any order and however often they are repeated, is written from
their choices alone: the last argument of each method, and the arguments of all filters in the order
of the calls with `AND` between them. Each clause stands at most once, all of them stand in one
order, and so do the bound values. So the same calls of each method, interleaved in another way,
give the same text and the same bound values. -/
theorem build_eq_clauses (calls : List Call) :
    (build calls).tokens =
        List.intercalate [.newline] ((Choices.ofCalls calls).clauses.map Clause.tokens) ∧
      ((Choices.ofCalls calls).clauses.map Clause.word).Sublist clauseWords ∧
      (build calls).tokens.filterMap Token.clauseWord? =
        (Choices.ofCalls calls).clauses.map Clause.word ∧
      (build calls).params = (Choices.ofCalls calls).exprs.flatMap (fun e => Sql.params e.tokens) ∧
      ∀ calls', SameByMethod calls calls' →
        (build calls).tokens = (build calls').tokens ∧
        (build calls).params = (build calls').params ∧
        ∀ d, (build calls).sql d = (build calls').sql d ∧
          (build calls).inlineSql d = (build calls').inlineSql d := by
  have hclauses : (build calls).clauses = (Choices.ofCalls calls).clauses := by
    rw [build_eq_query, Choices.clauses_query]
  refine ⟨?_, ?_, ?_, ?_, ?_⟩
  · rw [Query.tokens_eq_clauses, hclauses]
  · rw [← hclauses]
    exact (build calls).word_clauses_sublist
  · rw [Query.clauseWords_tokens, hclauses]
  · rw [build_eq_query, Choices.params_query]
  · intro calls' hsame
    have hbuild : build calls = build calls' := by
      rw [build_eq_query, build_eq_query, hsame.ofCalls_eq]
    rw [hbuild]
    exact ⟨rfl, rfl, fun _ => ⟨rfl, rfl⟩⟩

/-- Two filters, two limits and a table: interleaved in another way, they give the same text. -/
theorem build_eq_clauses_interleaved :
    let first : Expr := .eq (.column "status") (.param (.text "open"))
    let second : Expr := .gt (.column "amount") (.param (.int 5))
    let calls : List Call := [.limit 9, .filter first, .limit 3, .filter second, .source "loans"]
    let calls' : List Call := [.source "loans", .filter first, .limit 9, .filter second, .limit 3]
    SameByMethod calls calls' ∧ (build calls).sql .sqlite = (build calls').sql .sqlite ∧
      (build calls).sql .sqlite =
        "SELECT *\nFROM loans\nWHERE status = ? AND amount > ?\nLIMIT 3" := by
  intro first second calls calls'
  have hsame : SameByMethod calls calls' := by
    intro m
    cases m <;> rfl
  exact ⟨hsame, (((build_eq_clauses calls).2.2.2.2 calls' hsame).2.2 .sqlite).1, by decide +kernel⟩

end Query

end LedgerQuery.Sql
