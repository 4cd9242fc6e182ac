import Mathlib.Data.Nat.Cast.Order.Ring
import LedgerQuery.Proofs.Compile.Query
import LedgerQuery.Proofs.Sql.Cell

/-!
# What a compiled statement answers

The statement of a descriptor answers with what the descriptor asks for: the figures of the rows
that pass its filters and lie within its bounds, for each value of the column of the groups if
there is one.

* `Sql.Interpretation.scalar`: what a scalar stands for.
* `Descriptor.selects`: the rows that a descriptor is about.
* `Metric.figure`: the figure of a metric over rows.
* `Descriptor.answer_compile`: the answer of the statement on any table.
-/

namespace LedgerQuery

open Sql (Expr Interpretation Cell Row SelectItem Query conjunction)

variable {V : Type} (I : Interpretation V)

/-- What a scalar stands for under an interpretation. -/
def Sql.Interpretation.scalar : Scalar → Option V
  | .bool b => I.literal (.bool b)
  | .int n => I.literal (.int n)
  | .float x => I.literal (.float x)
  | .text s => I.literal (.text s)

theorem Sql.Interpretation.literal_of_binds {s : Scalar} {v : Sql.Literal} (h : s.Binds v) :
    I.literal v = I.scalar s := by
  cases h <;> rfl

/-- The row has loan status `default`. -/
def isDefaulted (r : Row V) : Bool :=
  Interpretation.test I.equal (r "status") (I.literal (.text "default"))

/-- The figure of a metric over rows. -/
def Metric.figure (rows : List (Row V)) : Metric → Option V
  | .count => some (I.number rows.length)
  | .sum => I.sum (rows.map fun r => r "amount")
  | .average => I.average (rows.map fun r => r "amount")
  | .defaultRate => some (I.number (rows.countP (isDefaulted I) * 100 / rows.length))
  | .other _ => none

/-- The item of a metric has its figure as value. -/
theorem Metric.value_item {t : Table} {m : Metric} (h : m.appliesTo t) {rows : List (Row V)}
    (hr : rows ≠ []) : m.item.expr.value I rows = m.figure I rows := by
  cases m with
  | count => exact Expr.value_countRows I rows
  | sum =>
    have he : Metric.sum.item.expr = .sum (.column "amount") := rfl
    rw [he, Expr.value_sum]
    rfl
  | average =>
    have he : Metric.average.item.expr = .average (.column "amount") := rfl
    rw [he, Expr.value_average]
    rfl
  | defaultRate =>
    have he : Metric.defaultRate.item.expr = defaultRateExpr := rfl
    rw [he, defaultRateExpr, Expr.value_percentage I _ hr, figure]
    have hd : ∀ r : Row V, I.holds (((Expr.column "status").eq
        (.literal (.text "default"))).value I [r]) = isDefaulted I r :=
      fun r => I.holds_compared I.equal _ _
    simp only [hd]
  | other s => simp at h

theorem Metric.isStar_item {t : Table} {m : Metric} (h : m.appliesTo t) :
    m.item.expr.isStar = false := by
  cases m with
  | other s => simp at h
  | _ => rfl

namespace Descriptor

/-- The row passes the filters, and its date lies within start and end of the period if it has
both. -/
def selects (d : Descriptor) (r : Row V) : Bool :=
  (d.filters.all fun f => Interpretation.test I.equal (r f.1) (I.scalar f.2)) &&
    match d.dates with
    | none => true
    | some (a, b) =>
      Interpretation.test I.atLeast (r "date") (I.scalar a) &&
        Interpretation.test I.atMost (r "date") (I.scalar b)

theorem holds_conditions (d : Descriptor) (r : Row V) :
    (d.conditions.all fun e => I.holds (e.value I [r])) = d.selects I r := by
  have hvalue : ∀ s : Scalar, I.literal s.toLiteral = I.scalar s :=
    fun s => I.literal_of_binds (Scalar.binds_iff.mpr rfl)
  have hequal : ∀ (c : String) (s : Scalar),
      I.holds (((Expr.column c).eq (.param s.toLiteral)).value I [r]) =
        Interpretation.test I.equal (r c) (I.scalar s) := by
    intro c s
    rw [← hvalue]
    exact I.holds_compared I.equal _ _
  rw [conditions, bounds_eq, selects, List.all_append, List.all_map]
  congr 1
  · simp only [Function.comp_def, hequal]
  · cases d.dates with
    | none => rfl
    | some b =>
      have hge : I.holds (((Expr.column "date").ge (.param b.1.toLiteral)).value I [r]) =
          Interpretation.test I.atLeast (r "date") (I.scalar b.1) := by
        rw [← hvalue]
        exact I.holds_compared I.atLeast _ _
      have hle : I.holds (((Expr.column "date").le (.param b.2.toLiteral)).value I [r]) =
          Interpretation.test I.atMost (r "date") (I.scalar b.2) := by
        rw [← hvalue]
        exact I.holds_compared I.atMost _ _
      simp only [List.all_cons, List.all_nil, hge, hle, Bool.and_true]

/-- The rows that a compiled query keeps are those that the descriptor selects. -/
theorem kept_query (d : Descriptor) (table : List (Row V)) :
    d.query.kept I table = table.filter (d.selects I) := by
  have hc : ∀ r : Row V, ((conjunction d.conditions).all fun e => I.holds (e.value I [r])) =
      d.selects I r := by
    intro r
    rw [← holds_conditions]
    cases d.conditions with
    | nil => rfl
    | cons e es =>
      rw [Sql.conjunction_cons, Option.all_some, Expr.holds_foldl_and, List.all_cons]
  rw [Query.kept, query_eq]
  exact List.filter_congr fun r _ => hc r

/-- The row of the answer for a group: its value in the column of the groups, then the figures. -/
theorem project_query (d : Descriptor) (columns : List String) {rows : List (Row V)}
    (hr : rows ≠ []) (hi : d.grouping ≠ none ∨ d.figures ≠ []) :
    d.query.project I columns rows =
      d.grouping.toList.map (fun c => rows.head?.bind fun r => r c) ++
        d.figures.map (Metric.figure I rows) := by
  have hfig : (d.figures.map Metric.item).flatMap (fun i =>
      if i.expr.isStar then Query.allCells columns rows else [i.expr.value I rows]) =
        d.figures.map (Metric.figure I rows) := by
    rw [List.flatMap_map, List.map_eq_flatMap]
    refine List.flatMap_congr fun m hm => ?_
    have ha := (List.mem_filter.mp hm).2
    rw [Metric.isStar_item ha, Metric.value_item I ha hr]
    rfl
  rw [Query.project, query_eq]
  dsimp only
  rw [if_neg, List.flatMap_append, hfig]
  · cases d.grouping <;> rfl
  · cases hg : d.grouping with
    | some c => simp
    | none => simpa [hg] using hi

variable [DecidableEq V]

theorem groupsOf_grouped {d : Descriptor} {g : String} (hg : d.grouping = some g)
    (rows : List (Row V)) :
    d.query.groupsOf I rows =
      (rows.map fun r => r g).dedup.map fun k => rows.filter fun r => r g = k := by
  have hkey : ∀ r : Row V, Expr.values I [r] [.column g] = [r g] := fun r => rfl
  have hinj : Function.Injective fun k : Option V => [k] := fun _ _ h => List.singleton_inj.mp h
  have hmap : (rows.map fun r => [r g]) = (rows.map fun r => r g).map fun k => [k] := by
    rw [List.map_map]
    rfl
  rw [Query.groupsOf, query_eq]
  simp only [hg, Option.toList_some, List.map_cons, List.map_nil, ne_eq, List.cons_ne_self,
    not_false_eq_true, if_true, hkey]
  rw [hmap, List.dedup_map_of_injective hinj, List.map_map]
  simp [Function.comp_def]

theorem groupsOf_ungrouped {d : Descriptor} (hg : d.grouping = none) (rows : List (Row V)) :
    d.query.groupsOf I rows = if d.figures ≠ [] then [rows] else rows.map fun r => [r] := by
  rw [Query.groupsOf, Query.isSummary, query_eq]
  by_cases hf : d.figures = [] <;> simp [hg, hf]

theorem answer_query (columns : List String) (d : Descriptor) (table : List (Row V)) :
    d.query.answer I columns table =
      ((d.query.groupsOf I (table.filter (d.selects I))).filter fun rows =>
        if d.grouping = none ∧ d.figures ≠ [] then decide (rows ≠ []) else true).map
          (d.query.project I columns) := by
  have hh : ∀ rows : List (Row V), (d.query.having.all fun e => I.holds (e.value I rows)) =
      if d.grouping = none ∧ d.figures ≠ [] then decide (rows ≠ []) else true := by
    intro rows
    rw [query_eq]
    dsimp only
    split
    · -- the number of rows is compared with zero
      rw [Option.all_some, someRow, Expr.gt, Expr.value, Expr.value_countRows]
      have hz : (Expr.literal (.int 0)).value I rows = some (I.number 0) := I.literal_zero
      rw [hz, Interpretation.operate, I.holds_compared, Interpretation.test, I.greater_number]
      exact decide_eq_decide.mpr (Nat.cast_pos.trans List.length_pos_iff)
    · rfl
  have hl : d.query.limit = none := by rw [query_eq]
  rw [Query.answer, hl, kept_query]
  simp only [hh]

theorem answer_grouped {d : Descriptor} {g : String} (hg : d.grouping = some g)
    (columns : List String) (table : List (Row V)) :
    d.query.answer I columns table =
      ((table.filter (d.selects I)).map fun r => r g).dedup.map fun k =>
        k :: d.figures.map
          (Metric.figure I ((table.filter (d.selects I)).filter fun r => r g = k)) := by
  rw [answer_query, groupsOf_grouped I hg, hg]
  simp only [reduceCtorEq, false_and, if_false, List.filter_true, List.map_map]
  refine List.map_congr_left fun k hk => ?_
  -- the rows of a key are some, and each of them has the key in its column
  obtain ⟨r, hr, hrk⟩ := List.mem_map.mp (List.mem_dedup.mp hk)
  generalize table.filter (d.selects I) = selected at hr ⊢
  have hne : (selected.filter fun r => r g = k) ≠ [] :=
    List.ne_nil_of_mem (List.mem_filter.mpr ⟨hr, decide_eq_true hrk⟩)
  obtain ⟨s, rows, hs⟩ := List.exists_cons_of_ne_nil hne
  have hsk : s g = k := by
    have hm : s ∈ selected.filter fun r => r g = k := by simp [hs]
    simpa using (List.mem_filter.mp hm).2
  rw [Function.comp_apply, d.project_query I columns hne (.inl (by simp [hg])), hg, hs]
  simp [hsk]

theorem answer_figures {d : Descriptor} (hg : d.grouping = none) (hf : d.figures ≠ [])
    (columns : List String) (table : List (Row V)) :
    d.query.answer I columns table =
      if table.filter (d.selects I) = [] then []
      else [d.figures.map (Metric.figure I (table.filter (d.selects I)))] := by
  rw [answer_query, groupsOf_ungrouped I hg, if_pos hf]
  generalize table.filter (d.selects I) = selected
  simp only [hg, hf, ne_eq, not_false_eq_true, and_self, if_true]
  by_cases hs : selected = []
  · simp [hs]
  · have hp := d.project_query I columns hs (.inr hf)
    rw [hg] at hp
    simp [hs, hp]

theorem answer_rows {d : Descriptor} (hg : d.grouping = none) (hf : d.figures = [])
    (columns : List String) (table : List (Row V)) :
    d.query.answer I columns table =
      (table.filter (d.selects I)).map fun r => columns.map fun c => r c := by
  have hitems : d.query.items = [] := by
    rw [query_eq]
    simp [hg, hf]
  have hp : ∀ r : Row V, d.query.project I columns [r] = columns.map fun c => r c := by
    intro r
    rw [Query.project, if_pos hitems]
    rfl
  rw [answer_query, groupsOf_ungrouped I hg, if_neg (by simp [hf])]
  simp only [hf, ne_eq, not_true_eq_false, and_false, if_false, List.filter_true, List.map_map]
  exact List.map_congr_left fun r _ => hp r

/-- The answer of a compiled statement, on every table. If the rows are grouped, there is one row
for each value of the column of the groups among the rows selected, with that value and the
figures of the rows that have it. Without groups, the figures are those of all rows selected, and
there are none if no row is. If no figure is asked for either, the rows selected are answered as
they are. -/
theorem answer_compile (columns : List String) (d : Descriptor) (dialect : Sql.Dialect)
    (table : List (Row V)) :
    let selected := table.filter (d.selects I)
    let answer := (d.compile dialect).query.answer I columns table
    let byCategory := .byCategory ∈ d.aggregations ∧ d.table = .loans
    let byType := .byType ∈ d.aggregations ∧ d.table = .deposits
    (∀ g, (byCategory ∧ g = "loan_type") ∨ (byType ∧ g = "account_type") →
      ∃ keys : List (Option V), keys.Nodup ∧ (∀ k, k ∈ keys ↔ ∃ r ∈ selected, r g = k) ∧
        answer = keys.map fun k =>
          k :: d.figures.map (Metric.figure I (selected.filter fun r => r g = k))) ∧
    (¬ byCategory → ¬ byType → d.figures ≠ [] →
      answer = if selected = [] then [] else [d.figures.map (Metric.figure I selected)]) ∧
    (¬ byCategory → ¬ byType → d.figures = [] →
      answer = selected.map fun r => columns.map fun c => r c) := by
  intro selected answer byCategory byType
  have hnone : ¬ byCategory → ¬ byType → d.grouping = none :=
    fun hc ht => d.grouping_eq_none_iff.mpr ⟨hc, ht⟩
  refine ⟨fun g h => ?_, fun hc ht hf => ?_, fun hc ht hf => ?_⟩
  · have hg := (d.grouping_eq_some_iff g).mpr h
    refine ⟨(selected.map fun r => r g).dedup, List.nodup_dedup _, fun k => ?_, ?_⟩
    · rw [List.mem_dedup, List.mem_map]
    · exact answer_grouped I hg columns table
  · exact answer_figures I (hnone hc ht) hf columns table
  · exact answer_rows I (hnone hc ht) hf columns table

/-- Of eight loans three pass the filters and lie within the bounds: the figures of each type, those
of all three, and the loans as they are. -/
theorem answer_compile_insured_loans :
    let d (metrics : List Metric) (aggregations : List Aggregation) : Descriptor :=
      { entity := "Loan"
        filters := [("insured", .bool true), ("rate", .float 4.5), ("branch", .text "north")]
        metrics := some metrics
        aggregations
        period := some (.range (.text "2024-01-01") (.text "2024-03-31")) }
    let metrics : List Metric := [.count, .sum, .other "median", .defaultRate]
    let loan : List (String × Cell) :=
      [("status", .text "active"), ("date", .text "2024-01-01"), ("amount", .number 10),
        ("insured", .truth true), ("rate", .number (9 / 2)), ("branch", .text "north")]
    let auto := ("loan_type", .text "auto") :: loan
    let untyped := ("amount", .number 5) :: loan
    let defaulted := ("status", .text "default") :: auto
    let loans := [("insured", .truth false) :: loan, auto, ("rate", .number 4) :: loan,
      ("date", .text "2023-12-31") :: loan, untyped, ("branch", .text "south") :: loan,
      ("date", .text "2024-04-01") :: loan, defaulted]
    let answer (d : Descriptor) :=
      (d.compile .sqlite).query.answer Cell.interpretation ["loan_type", "amount"]
        (loans.map Row.ofCells)
    (answer (d metrics [.byType, .byCategory])).Perm
        [[some (.text "auto"), some (.number 2), some (.number 20), some (.number 50)],
          [none, some (.number 1), some (.number 5), some (.number 0)]] ∧
      answer (d metrics [.byType]) =
        [[some (.number 3), some (.number 25), some (.number (100 / 3))]] ∧
      answer (d [] []) =
        [[some (.text "auto"), some (.number 10)], [none, some (.number 5)],
          [some (.text "auto"), some (.number 10)]] := by
  intro d metrics loan auto untyped defaulted loans answer
  have hselected : ∀ ms as, (loans.map Row.ofCells).filter ((d ms as).selects Cell.interpretation) =
      [auto, untyped, defaulted].map Row.ofCells := by
    intro ms as
    have hpass : (loans.filter fun l => (d [] []).selects Cell.interpretation (.ofCells l)) =
        [auto, untyped, defaulted] := by decide +kernel
    rw [List.filter_map, ← hpass]
    rfl
  have hanswer := fun ms as => answer_compile Cell.interpretation ["loan_type", "amount"] (d ms as)
    .sqlite (loans.map Row.ofCells)
  refine ⟨?_, ?_, ?_⟩
  · obtain ⟨keys, hnodup, hmem, hgroups⟩ :=
      (hanswer metrics [.byType, .byCategory]).1 "loan_type" (.inl ⟨⟨by decide, by decide⟩, rfl⟩)
    have htypes : ([auto, untyped, defaulted].map Row.ofCells).map (fun r => r "loan_type") =
        [some (.text "auto"), none, some (.text "auto")] := rfl
    have hkeys : keys.Perm [some (.text "auto"), none] := by
      refine (List.perm_ext_iff_of_nodup hnodup (by decide)).mpr fun k => (hmem k).trans ?_
      rw [hselected]
      refine List.mem_map.symm.trans ?_
      rw [htypes]
      simp [or_comm, or_left_comm]
    rw [hselected] at hgroups
    refine (List.Perm.of_eq hgroups).trans ((hkeys.map _).trans (.of_eq ?_))
    decide +kernel
  · refine ((hanswer metrics [.byType]).2.1 (by decide) (by decide) (by decide)).trans ?_
    rw [hselected]
    decide +kernel
  · refine ((hanswer [] []).2.2 (by decide) (by decide) (by decide)).trans ?_
    rw [hselected]
    decide +kernel

end Descriptor

end LedgerQuery
