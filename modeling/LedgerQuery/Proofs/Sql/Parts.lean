import LedgerQuery.Sql.Query

/-!
# From the parts of a query to the query

A query consists of its expressions and of words and marks that hold them together. A property of
token lists that these words and marks have, and that passes to lists put behind each other, holds
of a query as soon as it holds of its expressions.

* `Composable.query`: from expressions to queries.
* `Pervasive.query`: from operators, functions and bound values to all queries.
-/

namespace LedgerQuery.Sql

/-- The token holds others together: it is no operator, no function and no bound value. -/
def Token.isGlue : Token → Bool
  | .operator _ | .function _ | .param _ => false
  | _ => true

/-- A property of token lists that passes to lists behind each other and holds of what stands
between expressions. -/
structure Composable (P : List Token → Prop) : Prop where
  append : ∀ {ts us}, P ts → P us → P (ts ++ us)
  glue : ∀ {ts : List Token}, ts.all Token.isGlue = true → P ts

namespace Composable

variable {P : List Token → Prop} (h : Composable P)

include h

theorem item {i : SelectItem} (hi : P i.expr.tokens) : P i.tokens := by
  rw [SelectItem.tokens]
  refine h.append hi ?_
  cases i.naming <;> exact h.glue rfl

theorem itemTokens {is : List SelectItem} (hi : ∀ i ∈ is, P i.expr.tokens) :
    P (Query.itemTokens is) := by
  have hmore : ∀ is : List SelectItem, (∀ i ∈ is, P i.expr.tokens) →
      P (Query.moreItemTokens is) := by
    intro is hi
    induction is with
    | nil => exact h.glue rfl
    | cons i is ih =>
      rw [Query.moreItemTokens]
      exact h.append (h.append (h.glue rfl) (h.item (hi i (by simp))))
        (ih fun j hj => hi j (by simp [hj]))
  cases is with
  | nil => exact h.glue rfl
  | cons i is =>
    rw [Query.itemTokens]
    exact h.append (h.append (h.glue rfl) (h.item (hi i (by simp))))
      (hmore is fun j hj => hi j (by simp [hj]))

theorem partTokens {α : Type} {word : Keyword} {f : α → List Token} {o : Option α}
    (ho : ∀ a ∈ o, P (f a)) : P (Query.partTokens word f o) := by
  cases o with
  | none => exact h.glue rfl
  | some a =>
    rw [Query.partTokens]
    exact h.append (h.glue rfl) (ho a rfl)

theorem groupTokens {es : List Expr} (he : ∀ e ∈ es, P e.tokens) : P (Query.groupTokens es) := by
  have hlist : ∀ es : List Expr, (∀ e ∈ es, P e.tokens) → P (Expr.listTokens es) := by
    intro es he
    induction es with
    | nil => exact h.glue rfl
    | cons e es ih =>
      have ih := ih fun f hf => he f (by simp [hf])
      cases es with
      | nil => exact he e (by simp)
      | cons f es =>
        rw [Expr.listTokens]
        exact h.append (h.append (he e (by simp)) (h.glue rfl)) ih
  cases es with
  | nil => exact h.glue rfl
  | cons e es =>
    rw [Query.groupTokens]
    exact h.append (h.glue rfl) (hlist _ he)

/-- From the expressions of a query to the query. -/
theorem query {q : Query} (hi : ∀ i ∈ q.items, P i.expr.tokens)
    (hc : ∀ e ∈ q.condition, P e.tokens) (hg : ∀ e ∈ q.groups, P e.tokens)
    (hh : ∀ e ∈ q.having, P e.tokens) : P q.tokens := by
  have hs : P (Query.partTokens .source (fun t => [Token.table t]) q.source) :=
    h.partTokens fun _ _ => h.glue rfl
  rw [Query.tokens]
  refine h.append (h.append (h.append (h.append (h.append (h.append (h.glue rfl)
    (h.itemTokens hi)) hs) (h.partTokens hc)) (h.groupTokens hg)) (h.partTokens hh)) ?_
  cases q.limit <;> exact h.glue rfl

end Composable

/-- A composable property that operators, functions and bound values have as well. -/
structure Pervasive (P : List Token → Prop) : Prop extends Composable P where
  operator : ∀ op, P [.space, .operator op, .space]
  function : ∀ f, P [.function f, .opening]
  param : ∀ v, P [.param v]

namespace Pervasive

variable {P : List Token → Prop}

mutual

/-- Every expression has the property. -/
theorem tokens (h : Pervasive P) (e : Expr) : P e.tokens := by
  cases e with
  | column _ | literal _ | star =>
    rw [Expr.tokens]
    exact h.glue rfl
  | param v =>
    rw [Expr.tokens]
    exact h.param v
  | binary l op r =>
    rw [Expr.tokens]
    exact h.append (h.append (tokens h l) (h.operator op)) (tokens h r)
  | call f args =>
    rw [Expr.tokens]
    exact h.append (h.append (h.function f) (listTokens h args)) (h.glue rfl)
  | choice branches otherwise =>
    rw [Expr.tokens]
    exact h.append (h.append (h.append (h.glue rfl) (branchTokens h branches))
      (otherwiseTokens h otherwise)) (h.glue rfl)

theorem listTokens (h : Pervasive P) (es : List Expr) : P (Expr.listTokens es) := by
  match es with
  | [] => exact h.glue rfl
  | [e] => exact tokens h e
  | e :: f :: r =>
    rw [Expr.listTokens]
    exact h.append (h.append (tokens h e) (h.glue rfl)) (listTokens h (f :: r))

theorem branchTokens (h : Pervasive P) (bs : List (Expr × Expr)) : P (Expr.branchTokens bs) := by
  match bs with
  | [] => exact h.glue rfl
  | (g, e) :: r =>
    rw [Expr.branchTokens]
    exact h.append (h.append (h.append (h.append (h.glue rfl) (tokens h g)) (h.glue rfl))
      (tokens h e)) (branchTokens h r)

theorem otherwiseTokens (h : Pervasive P) (o : Option Expr) : P (Expr.otherwiseTokens o) := by
  match o with
  | none => exact h.glue rfl
  | some e =>
    rw [Expr.otherwiseTokens]
    exact h.append (h.glue rfl) (tokens h e)

end

/-- Every query has the property. -/
theorem query (h : Pervasive P) (q : Query) : P q.tokens :=
  h.toComposable.query (fun i _ => h.tokens i.expr) (fun e _ => h.tokens e)
    (fun e _ => h.tokens e) fun e _ => h.tokens e

end Pervasive

end LedgerQuery.Sql
