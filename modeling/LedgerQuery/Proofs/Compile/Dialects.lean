import LedgerQuery.Proofs.Compile.Query
import LedgerQuery.Proofs.Sql.Dialects

/-!
# The statements of a descriptor in both dialects

A descriptor is compiled to a query that writes out no truth value, those of its filters being
bound. So its statements in the two dialects differ in the name of the table only, and a backend of
either dialect is asked the same.

* `Descriptor.neutral_query`, `Descriptor.neutral_sample`: the compiled queries write out no truth
  value.
* `Descriptor.dialects_agree`: the texts around the name of the table, and what is bound to them.
-/

namespace LedgerQuery

open Sql (Expr Query Dialect conjunction)

theorem Metric.neutral_item {t : Table} {m : Metric} (h : m.appliesTo t) :
    m.item.expr.Neutral := by
  cases m with
  | count | sum | average =>
    simp [item, item?, Expr.countRows, Expr.sum, Expr.average, Expr.Neutral, Expr.AllNeutral]
  | defaultRate =>
    simp [item, item?, defaultRateExpr, Expr.countRows, Expr.sum, Expr.cond, Expr.eq, Expr.mul,
      Expr.div, Expr.Neutral, Expr.AllNeutral, Expr.BranchesNeutral, Expr.OtherwiseNeutral]
  | other s => simp at h

namespace Descriptor

/-- The values of the filters and of the bounds are bound, not written out. -/
theorem neutral_conditions (d : Descriptor) : ∀ e ∈ d.conditions, e.Neutral := by
  intro e he
  rcases List.mem_append.mp he with he | he
  · obtain ⟨f, _, rfl⟩ := List.mem_map.mp he
    simp [Expr.eq, Expr.Neutral]
  · cases hb : d.bounds with
    | none => simp [hb] at he
    | some b =>
      simp only [hb, List.mem_cons, List.not_mem_nil, or_false] at he
      rcases he with rfl | rfl
      · simp [Expr.ge, Expr.Neutral]
      · simp [Expr.le, Expr.Neutral]

theorem neutral_query (d : Descriptor) : d.query.Neutral where
  items i hi := by
    rcases mem_items hi with ⟨c, _, rfl⟩ | ⟨m, hm, rfl⟩
    · simp [Expr.Neutral]
    · exact Metric.neutral_item hm
  condition := by
    rw [query_eq]
    exact Sql.neutral_conjunction d.neutral_conditions
  groups := by
    rw [query_eq]
    intro e he
    obtain ⟨c, _, rfl⟩ := List.mem_map.mp he
    simp [Expr.Neutral]
  having := by
    rw [query_eq]
    intro e he
    split at he
    · rw [← Option.some.inj he]
      simp [someRow, Expr.gt, Expr.countRows, Expr.Neutral, Expr.AllNeutral]
    · simp at he

theorem neutral_sample (d : Descriptor) (dialect : Dialect) (limit : UInt64) :
    (d.sample dialect limit).query.Neutral where
  items i hi := absurd hi (List.not_mem_nil)
  condition e he := by cases he
  groups e he := absurd he (List.not_mem_nil)
  having e he := by cases he

/-- The dialects agree up to the name of the table: around it, the statements of a descriptor, for
its metrics and for its sample rows, have one text, they bind the same values, and they are about
the same table. The same holds of any query in which no truth value is written out. -/
theorem dialects_agree :
    (∀ d : Descriptor,
      (∃ front behind, ∀ dialect : Dialect,
        (d.compile dialect).sql = front ++ dialect.tableText d.table.name ++ behind) ∧
      (∀ limit, ∃ front behind, ∀ dialect : Dialect,
        (d.sample dialect limit).sql = front ++ dialect.tableText d.table.name ++ behind) ∧
      ∀ e₁ e₂ : Dialect,
        ((d.compile e₁).params = (d.compile e₂).params ∧
          (d.compile e₁).table = (d.compile e₂).table ∧
          (d.compile e₁).grouped = (d.compile e₂).grouped) ∧
        ∀ limit,
          (d.sample e₁ limit).params = (d.sample e₂ limit).params ∧
          (d.sample e₁ limit).table = (d.sample e₂ limit).table ∧
          (d.sample e₁ limit).grouped = (d.sample e₂ limit).grouped) ∧
    ∀ q : Query, q.Neutral →
      (∃ front behind, ∀ dialect : Dialect,
        q.sql dialect = front ++ q.sourceText dialect ++ behind) ∧
      ∀ (t : Table) (e₁ e₂ : Dialect),
        (Statement.mk q e₁ t).params = (Statement.mk q e₂ t).params := by
  refine ⟨fun d => ⟨?_, fun limit => ?_, fun e₁ e₂ => ⟨⟨rfl, rfl, rfl⟩, fun _ => ⟨rfl, rfl, rfl⟩⟩⟩,
    fun q h => ⟨h.sql_eq, fun _ _ _ => rfl⟩⟩
  · exact d.neutral_query.sql_eq_of_source (by rw [query_eq])
  · exact (d.neutral_sample .sqlite limit).sql_eq_of_source rfl

/-- A truth value that is bound leaves no trace in the text. -/
theorem dialects_agree_bound_truth :
    let q : Query :=
      { items := [⟨.column "id", none⟩], source := some "loans"
        condition := some ((Expr.column "active").eq (.param (.bool true))) }
    q.Neutral ∧
      (∃ front behind, ∀ dialect : Dialect,
        q.sql dialect = front ++ q.sourceText dialect ++ behind) ∧
      ∀ (t : Table) (e₁ e₂ : Dialect),
        (Statement.mk q e₁ t).params = (Statement.mk q e₂ t).params := by
  intro q
  have hq : q.Neutral :=
    { items := by simp [q, Expr.Neutral]
      condition := by simp [q, Expr.eq, Expr.Neutral]
      groups := by simp [q]
      having := by simp [q] }
  exact ⟨hq, dialects_agree.2 q hq⟩

end Descriptor

end LedgerQuery
