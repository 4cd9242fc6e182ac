import LedgerQuery.Proofs.Compile.Query
import LedgerQuery.Proofs.Sql.Precedence

/-!
# Compiled expressions are read as they are meant

No statement has parentheses around an operand, and none needs them: in everything that a descriptor
is compiled to, each operand binds tightly enough for its place.

* `Query.exprs`: the expressions of a query.
* `Descriptor.normal_exprs`: those of a compiled query are normal.
* `Descriptor.reads_compile`: what an expression is read as, and that a compiled one is read as
  itself.
-/

namespace LedgerQuery

open Sql (Expr Query)

namespace Sql

/-- The expressions of a query: its items, its condition, its groups and the condition on them. -/
def Query.exprs (q : Query) : List Expr :=
  q.items.map (·.expr) ++ q.condition.toList ++ q.groups ++ q.having.toList

/-- Conditions that bind more tightly than the conjunction form a normal chain of any length. -/
theorem normal_conjunction {es : List Expr} (hes : ∀ e ∈ es, e.Normal ∧ 0 < e.rank) {c : Expr}
    (h : conjunction es = some c) : c.Normal := by
  have hchain : ∀ (es : List Expr) (c : Expr), c.Normal → (∀ e ∈ es, e.Normal ∧ 0 < e.rank) →
      (es.foldl Expr.and c).Normal := by
    intro es
    induction es with
    | nil => exact fun c hc _ => hc
    | cons e es ih =>
      intro c hc hes
      obtain ⟨he, hlt⟩ := hes e List.mem_cons_self
      exact ih (c.and e) ⟨hc, he, Nat.zero_le _, hlt⟩ fun f hf => hes f (List.mem_cons_of_mem e hf)
  cases es with
  | nil => exact absurd h (by simp)
  | cons e es =>
    rw [conjunction_cons, Option.some_inj] at h
    rw [← h]
    exact hchain es e (hes e List.mem_cons_self).1 fun f hf => hes f (List.mem_cons_of_mem e hf)

end Sql

/-- The quotient of a product of operands, and a choice by a comparison inside of a call. -/
theorem normal_defaultRateExpr : defaultRateExpr.Normal := by
  simp [defaultRateExpr, Expr.div, Expr.mul, Expr.sum, Expr.cond, Expr.eq, Expr.countRows,
    Expr.Normal, Expr.AllNormal, Expr.BranchesNormal, Expr.OtherwiseNormal, Expr.rank,
    Sql.Operator.level]

theorem Metric.normal_item (m : Metric) : m.item.expr.Normal := by
  cases m with
  | defaultRate => exact normal_defaultRateExpr
  | count | sum | average => exact ⟨trivial, trivial⟩
  | other s => trivial

namespace Descriptor

theorem normal_someRow : someRow.Normal :=
  ⟨⟨trivial, trivial⟩, trivial, by decide, by decide⟩

/-- Every condition compares a column with a bound value. -/
theorem normal_of_mem_conditions {d : Descriptor} {e : Expr} (h : e ∈ d.conditions) :
    e.Normal ∧ 0 < e.rank := by
  have hcompare : ∀ (c : String) (op : Sql.Operator) (s : Scalar), 0 < op.level →
      (Expr.binary (.column c) op (.param s.toLiteral)).Normal ∧
        0 < (Expr.binary (.column c) op (.param s.toLiteral)).rank := by
    intro c op s hop
    have hlt : op.level < 4 := Expr.level_lt_rank op (e := .star) (by simp)
    exact ⟨⟨trivial, trivial, Nat.le_of_lt hlt, hlt⟩, hop⟩
  rw [conditions] at h
  rcases List.mem_append.mp h with h | h
  · obtain ⟨f, -, rfl⟩ := List.mem_map.mp h
    exact hcompare f.1 .equal f.2 (by decide)
  · cases hb : d.bounds with
    | none =>
      rw [hb] at h
      exact absurd h List.not_mem_nil
    | some ab =>
      rw [hb] at h
      simp only [List.mem_cons, List.not_mem_nil, or_false] at h
      rcases h with rfl | rfl
      · exact hcompare "date" .atLeast ab.1 (by decide)
      · exact hcompare "date" .atMost ab.2 (by decide)

/-- Every expression of a compiled query is normal. -/
theorem normal_exprs {d : Descriptor} {e : Expr} (h : e ∈ d.query.exprs) : e.Normal := by
  rw [Query.exprs] at h
  simp only [List.mem_append] at h
  rcases h with ((h | h) | h) | h
  · obtain ⟨i, hi, rfl⟩ := List.mem_map.mp h
    rcases mem_items hi with ⟨c, -, rfl⟩ | ⟨m, -, rfl⟩
    · trivial
    · exact m.normal_item
  · rw [query_eq] at h
    exact Sql.normal_conjunction (fun e he => normal_of_mem_conditions he) (Option.mem_toList.mp h)
  · rw [query_eq] at h
    obtain ⟨c, -, rfl⟩ := List.mem_map.mp h
    trivial
  · rw [query_eq] at h
    have hhaving := Option.mem_toList.mp h
    split at hhaving
    · obtain rfl := Option.some.inj hhaving
      exact normal_someRow
    · exact absurd hhaving (by simp)

/-- Every expression is read as one whole normal expression with the same tokens, which is the
expression itself if and only if it is normal. The expressions of a compiled query are, so that each
of them is read as it is meant. -/
theorem reads_compile :
    (∀ e : Expr, ∃ e', Sql.Reading.parse e.tokens = some e' ∧ e'.Normal ∧ e'.tokens = e.tokens ∧
      (e' = e ↔ e.Normal)) ∧
    ∀ (d : Descriptor) (dialect : Sql.Dialect), ∀ e ∈ (d.compile dialect).query.exprs,
      e.Normal ∧ Sql.Reading.parse e.tokens = some e := by
  refine ⟨fun e => ?_, fun d dialect e he => ?_⟩
  · exact ⟨e.regroup, Sql.Reading.parse_tokens e, e.normal_regroup, e.tokens_regroup,
      Sql.Reading.regroup_eq_self⟩
  · have hnormal : e.Normal := normal_exprs he
    exact ⟨hnormal, Sql.Reading.parse_of_normal hnormal⟩

/-- A comparison under a product is torn apart; the conditions on status and date are not. -/
theorem reads_compile_open_period :
    let torn := (Expr.column "rate").mul ((Expr.column "amount").gt (.literal (.int 5)))
    let d : Descriptor :=
      { entity := "loans", filters := [("status", .text "open")],
        period := some (.range (.text "2024-01-01") (.text "2024-03-31")) }
    let kept := (((Expr.column "status").eq (.param (.text "open"))).and
      ((Expr.column "date").ge (.param (.text "2024-01-01")))).and
        ((Expr.column "date").le (.param (.text "2024-03-31")))
    (∃ e', Sql.Reading.parse torn.tokens = some e' ∧ e' ≠ torn) ∧
      kept ∈ (d.compile .sqlite).query.exprs ∧ Sql.Reading.parse kept.tokens = some kept := by
  intro torn d kept
  have htorn : ¬ torn.Normal := fun h => absurd h.2.2.2 (by decide)
  obtain ⟨e', hparse, -, -, hiff⟩ := reads_compile.1 torn
  have hkept : kept ∈ (d.compile .sqlite).query.exprs := by
    have hcondition : (d.compile .sqlite).query.condition = some kept := by
      rw [compile, query_eq]
      rfl
    simp [Query.exprs, hcondition]
  exact ⟨⟨e', hparse, fun h => htorn (hiff.mp h)⟩, hkept, (reads_compile.2 d .sqlite kept hkept).2⟩

end Descriptor

end LedgerQuery
