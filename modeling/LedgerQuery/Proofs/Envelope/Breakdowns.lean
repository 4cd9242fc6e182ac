import LedgerQuery.Envelope.Shape
import LedgerQuery.Proofs.Compile.Query
import LedgerQuery.Proofs.Sql.Clauses

/-!
# Breakdowns and groups

A report has breakdowns if the descriptor asks for aggregations. The statement has groups if one of
these aggregations applies to its table. So every statement with groups has its breakdowns, but a
report may have breakdowns without any groups: if aggregations are asked for and none applies.

* `Sql.Query.grouping_mem_tokens_iff`: `GROUP BY` is written exactly if there are groups.
* `Descriptor.grouped_compile_iff`: when the statement of a descriptor has groups.
* `shape_breakdowns`: when a report has breakdowns, and what they are.
-/

namespace LedgerQuery

/-! ### Groups in the statement -/

/-- `GROUP BY` is written exactly if there are groups. -/
theorem Sql.Query.grouping_mem_tokens_iff (q : Query) :
    .keyword .grouping ∈ q.tokens ↔ q.groups ≠ [] := by
  rw [q.keyword_mem_tokens_iff (by decide)]
  cases hgroups : q.groups <;> simp [clauses, partClause, hgroups]

/-! ### Aggregations that apply -/

/-- The aggregation forms groups in the table. -/
def Aggregation.appliesTo (t : Table) : Aggregation → Bool
  | .byCategory => decide (t = .loans)
  | .byType => decide (t = .deposits)
  | .other _ => false

namespace Descriptor

theorem grouping_isSome_iff (d : Descriptor) :
    d.grouping.isSome ↔ ∃ a ∈ d.aggregations, a.appliesTo d.table := by
  constructor
  · intro h
    obtain ⟨g, hg⟩ := Option.isSome_iff_exists.mp h
    rcases (d.grouping_eq_some_iff g).mp hg with ⟨⟨ha, ht⟩, -⟩ | ⟨⟨ha, ht⟩, -⟩
    · exact ⟨.byCategory, ha, decide_eq_true ht⟩
    · exact ⟨.byType, ha, decide_eq_true ht⟩
  · rintro ⟨a, ha, happlies⟩
    cases a with
    | byCategory =>
      have hg := (d.grouping_eq_some_iff "loan_type").mpr
        (.inl ⟨⟨ha, of_decide_eq_true happlies⟩, rfl⟩)
      exact Option.isSome_of_eq_some hg
    | byType =>
      have hg := (d.grouping_eq_some_iff "account_type").mpr
        (.inr ⟨⟨ha, of_decide_eq_true happlies⟩, rfl⟩)
      exact Option.isSome_of_eq_some hg
    | other s => cases happlies

/-- The statement has groups exactly if some aggregation applies to the table. -/
theorem grouped_compile_iff (d : Descriptor) (dialect : Sql.Dialect) :
    (d.compile dialect).grouped = true ↔ ∃ a ∈ d.aggregations, a.appliesTo d.table := by
  rw [← grouping_isSome_iff]
  show (!d.query.groups.isEmpty) = true ↔ d.grouping.isSome
  rw [query_eq]
  cases d.grouping <;> simp

end Descriptor

/-! ### Breakdowns -/

/-- A report has breakdowns exactly if the descriptor asks for aggregations, and they are the
records of the whole result. So there are breakdowns for every statement with groups, and
breakdowns without groups exactly if aggregations are asked for and none applies to the table. -/
theorem shape_breakdowns (d : Descriptor) (dialect : Sql.Dialect) (result sample : RowSet)
    (elapsed : Elapsed) :
    ∃ r, shape d result sample elapsed = .report r ∧
      (r.breakdowns.isSome ↔ d.aggregations ≠ []) ∧
      (∀ records, r.breakdowns = some records → records = result.records) ∧
      ((d.compile dialect).grouped = true → r.breakdowns = some result.records) ∧
      ((d.compile dialect).grouped = true ↔
        .keyword .grouping ∈ (d.compile dialect).query.tokens) ∧
      ((d.compile dialect).grouped = true ↔ ∃ a ∈ d.aggregations, a.appliesTo d.table) ∧
      (r.breakdowns.isSome ∧ (d.compile dialect).grouped = false ↔
        d.aggregations ≠ [] ∧ ∀ a ∈ d.aggregations, ¬a.appliesTo d.table) := by
  have hgrouped := d.grouped_compile_iff dialect
  have hasked : d.hasAggregations = true ↔ d.aggregations ≠ [] := by
    simp [Descriptor.hasAggregations]
  have hsome : (if d.hasAggregations then some result.records else none).isSome ↔
      d.aggregations ≠ [] := by
    rw [← hasked]
    cases d.hasAggregations <;> simp
  refine ⟨_, rfl, hsome, ?_, ?_, ?_, hgrouped, ?_⟩
  · intro records hr
    rw [Option.ite_none_right_eq_some, Option.some.injEq] at hr
    exact hr.2.symm
  · intro hg
    -- an aggregation that applies has been asked for
    obtain ⟨a, ha, -⟩ := hgrouped.mp hg
    exact if_pos (hasked.mpr (List.ne_nil_of_mem ha))
  · rw [Sql.Query.grouping_mem_tokens_iff]
    simp [Statement.grouped]
  · rw [hsome, ← Bool.not_eq_true, hgrouped]
    simp

/-- Customers by type: no aggregation of customers forms groups, and yet the single row of the
result is given as a breakdown. -/
theorem breakdowns_of_customers_by_type :
    ∃ r, shape { entity := "customers", aggregations := [.byType] }
        ⟨["total_count"], [[.int 7]]⟩ ⟨["customer_id"], [[.text "C1"]]⟩ ⟨0, 0⟩ = .report r ∧
      r.breakdowns = some [[("total_count", .int 7)]] ∧
      (Descriptor.compile { entity := "customers", aggregations := [.byType] } .sqlite).grouped =
        false := by
  refine ⟨_, rfl, rfl, ?_⟩
  decide

end LedgerQuery
