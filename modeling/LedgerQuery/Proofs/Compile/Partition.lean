import Mathlib.Algebra.BigOperators.Group.List.Lemmas
import LedgerQuery.Envelope.Stats
import LedgerQuery.Proofs.Compile.Meaning

/-!
# Groups share out the rows

A descriptor that groups its rows and counts them, and the same descriptor without aggregations:
the groups of the one hold each row of the other once, so that their counts add up to its count,
and there are groups exactly if it has a row at all.

* `Sql.Query.cellsUnder`: the cells of an answer's row under a name.
* `Descriptor.count_cells`: the count stands under its name, however often it is asked for.
* `Descriptor.answer_shared_out`: the counts of the groups add up to the count without groups.
-/

namespace LedgerQuery

open Sql (Interpretation Cell Row SelectItem Query)

/-! ### Cells under a name -/

namespace Sql

/-- The name of an item's column: the one that it is given, else that of the column that it is. -/
def SelectItem.title (i : SelectItem) : Option String :=
  i.naming.or (match i.expr with
    | .column c => some c
    | _ => none)

variable {V : Type}

/-- The cells of a row of the answer under a name. -/
def Query.cellsUnder (q : Query) (name : String) (row : List (Option V)) : List (Option V) :=
  (q.items.zip row).filterMap fun p => if p.1.title = some name then some p.2 else none

/-- There is a cell, and every cell is the given one. -/
def AllAre (cells : List (Option V)) (cell : Option V) : Prop :=
  cells ≠ [] ∧ ∀ c ∈ cells, c = cell

theorem AllAre.unique {cells : List (Option V)} {a b : Option V} (ha : AllAre cells a)
    (hb : AllAre cells b) : a = b := by
  obtain ⟨hne, ha⟩ := ha
  obtain ⟨c, hc⟩ := List.exists_mem_of_ne_nil cells hne
  exact (ha c hc).symm.trans (hb.2 c hc)

theorem Query.mem_cellsUnder {q : Query} {name : String} {row : List (Option V)} {c : Option V} :
    c ∈ q.cellsUnder name row ↔ ∃ i, (i, c) ∈ q.items.zip row ∧ i.title = some name := by
  rw [cellsUnder, List.mem_filterMap]
  constructor
  · rintro ⟨⟨i, c'⟩, hmem, hc⟩
    obtain ⟨htitle, hc⟩ := Option.ite_none_right_eq_some.mp hc
    obtain rfl := Option.some.inj hc
    exact ⟨i, hmem, htitle⟩
  · rintro ⟨i, hmem, htitle⟩
    exact ⟨(i, c), hmem, if_pos htitle⟩

end Sql

open Sql (AllAre)

theorem Metric.title_item {t : Table} {m : Metric} (h : m.appliesTo t) :
    ∃ n ∈ metricColumns, m.item.title = some n := by
  cases m with
  | count => exact ⟨"total_count", by decide, rfl⟩
  | sum => exact ⟨"total_amount", by decide, rfl⟩
  | average => exact ⟨"average_amount", by decide, rfl⟩
  | defaultRate => exact ⟨"default_rate", by decide, rfl⟩
  | other s => simp at h

/-- Of the metrics that apply to a table, the count alone has its name. -/
theorem Metric.eq_count_of_title {t : Table} {m : Metric} (h : m.appliesTo t)
    (htitle : m.item.title = some "total_count") : m = .count := by
  cases m with
  | count => rfl
  | other s => simp at h
  | _ => exact absurd htitle (by decide)

/-! ### Sharing out -/

/-- Every item is in the group of its key and in no other one. -/
theorem sum_groups {α β : Type} [DecidableEq β] (key : α → β) (items : List α) :
    ((items.map key).dedup.map fun k => (items.filter fun a => key a = k).length).sum =
      items.length := by
  have hcount : ∀ k, (items.filter fun a => key a = k).length = (items.map key).count k := by
    intro k
    rw [List.count, List.countP_map, List.countP_eq_length_filter]
    rfl
  simp only [hcount]
  rw [List.sum_map_count_dedup_eq_length, List.length_map]

theorem length_group_pos {α β : Type} [DecidableEq β] {key : α → β} {items : List α} {k : β}
    (hk : k ∈ (items.map key).dedup) : 1 ≤ (items.filter fun a => key a = k).length := by
  obtain ⟨a, ha, hak⟩ := List.mem_map.mp (List.mem_dedup.mp hk)
  exact List.length_pos_of_mem (List.mem_filter.mpr ⟨ha, decide_eq_true hak⟩)

variable {V : Type} (I : Interpretation V)

namespace Descriptor

theorem zip_items (d : Descriptor) (front : List (Option V))
    (hfront : front.length = d.grouping.toList.length) (rows : List (Row V)) :
    d.query.items.zip (front ++ d.figures.map (Metric.figure I rows)) =
      (d.grouping.toList.map fun c => (⟨.column c, none⟩ : SelectItem)).zip front ++
        d.figures.map fun m => (m.item, m.figure I rows) := by
  have hitems : d.query.items = d.grouping.toList.map (fun c => ⟨.column c, none⟩) ++
      d.figures.map Metric.item := by
    rw [query_eq]
  rw [hitems, List.zip_append (by simp [hfront]), List.zip_map']

/-- The count of the rows stands under its name, and nothing else does. -/
theorem count_cells {d : Descriptor} (hcount : .count ∈ d.wantedMetrics) (front : List (Option V))
    (hfront : front.length = d.grouping.toList.length) (rows : List (Row V)) :
    AllAre (d.query.cellsUnder "total_count" (front ++ d.figures.map (Metric.figure I rows)))
      (some (I.number rows.length)) := by
  have hmem : .count ∈ d.figures := List.mem_filter.mpr ⟨hcount, rfl⟩
  constructor
  · have hcell : some (I.number rows.length) ∈
        d.query.cellsUnder "total_count" (front ++ d.figures.map (Metric.figure I rows)) := by
      refine Query.mem_cellsUnder.mpr ⟨Metric.count.item, ?_, rfl⟩
      rw [zip_items I d _ hfront]
      exact List.mem_append_right _ (List.mem_map_of_mem hmem)
    exact List.ne_nil_of_mem hcell
  · intro c hc
    obtain ⟨i, hi, htitle⟩ := Query.mem_cellsUnder.mp hc
    rw [zip_items I d _ hfront] at hi
    rcases List.mem_append.mp hi with hi | hi
    · -- the column of the groups has another name
      obtain ⟨g, hg, rfl⟩ := List.mem_map.mp (List.of_mem_zip hi).1
      obtain rfl : g = "total_count" := Option.some.inj htitle
      rcases grouping_mem (Option.mem_toList.mp hg) with h | h <;> exact absurd h (by decide)
    · obtain ⟨m, hm, heq⟩ := List.mem_map.mp hi
      obtain ⟨rfl, rfl⟩ := Prod.mk.inj heq
      obtain rfl := Metric.eq_count_of_title (List.mem_filter.mp hm).2 htitle
      rfl

/-- The value of the groups' column stands under the name of that column, and nothing else does. -/
theorem key_cells {d : Descriptor} {g : String} (hg : d.grouping = some g) (k : Option V)
    (rows : List (Row V)) :
    d.query.cellsUnder g (k :: d.figures.map (Metric.figure I rows)) = [k] := by
  have hfront : [k].length = d.grouping.toList.length := by simp [hg]
  have hnot : g ∉ metricColumns := by
    rcases grouping_mem hg with rfl | rfl <;> decide
  have hothers : (d.figures.map fun m => (m.item, m.figure I rows)).filterMap
      (fun p => if p.1.title = some g then some p.2 else none) = [] := by
    rw [List.filterMap_eq_nil_iff]
    intro p hp
    obtain ⟨m, hm, rfl⟩ := List.mem_map.mp hp
    obtain ⟨n, hn, htitle⟩ := Metric.title_item (List.mem_filter.mp hm).2
    refine if_neg ?_
    rw [htitle]
    rintro ⟨⟩
    exact hnot hn
  rw [Query.cellsUnder, ← List.singleton_append, zip_items I d _ hfront, List.filterMap_append, hothers,
    hg]
  simp [SelectItem.title]

variable [DecidableEq V]

/-- The descriptor without its aggregations. -/
def whole (d : Descriptor) : Descriptor :=
  { d with aggregations := [] }

theorem grouping_whole (d : Descriptor) : d.whole.grouping = none :=
  d.whole.grouping_eq_none_iff.mpr ⟨fun h => List.not_mem_nil h.1, fun h => List.not_mem_nil h.1⟩

/-- Of a descriptor that groups its rows and counts them, the groups share out the rows: their keys
are distinct, each holds a row, and their counts add up to the count that the descriptor has without
aggregations. There is no group exactly if there is no such count, because no row is selected. -/
theorem answer_shared_out (columns : List String) {d : Descriptor} (dialect : Sql.Dialect)
    (table : List (Row V)) {g : String}
    (hg : (.byCategory ∈ d.aggregations ∧ d.table = .loans) ∧ g = "loan_type" ∨
      (.byType ∈ d.aggregations ∧ d.table = .deposits) ∧ g = "account_type")
    (hcount : .count ∈ d.wantedMetrics) :
    let grouped := (d.compile dialect).query
    let total := (d.whole.compile dialect).query
    let groups := grouped.answer I columns table
    let sums := total.answer I columns table
    ∃ (keys : List (Option V)) (counts : List ℕ),
      groups.map (grouped.cellsUnder g) = keys.map (fun k => [k]) ∧ keys.Nodup ∧
      List.Forall₂ (fun row (n : ℕ) => AllAre (grouped.cellsUnder "total_count" row) (some (I.number n)))
        groups counts ∧
      (∀ n ∈ counts, 1 ≤ n) ∧
      sums.length ≤ 1 ∧
      (∀ row ∈ sums, AllAre (total.cellsUnder "total_count" row) (some (I.number counts.sum))) ∧
      (groups = [] ↔ sums = []) := by
  intro grouped total groups sums
  have hgrouping : d.grouping = some g := (d.grouping_eq_some_iff g).mpr hg
  have hnone : d.whole.grouping = none := d.grouping_whole
  have hfigures : d.whole.figures ≠ [] :=
    List.ne_nil_of_mem (List.mem_filter.mpr ⟨hcount, rfl⟩ : .count ∈ d.whole.figures)
  have hgroups := answer_grouped I hgrouping columns table
  have hsums := answer_figures I hnone hfigures columns table
  have hselects : d.whole.selects I = d.selects I := rfl
  rw [hselects] at hsums
  generalize table.filter (d.selects I) = selected at hgroups hsums
  -- the keys are those of the rows selected, and each has the count of the rows that have it
  refine ⟨(selected.map fun r => r g).dedup,
    (selected.map fun r => r g).dedup.map fun k => (selected.filter fun r => r g = k).length,
    ?_, List.nodup_dedup _, ?_, ?_, ?_, ?_, ?_⟩
  · show (d.query.answer I columns table).map _ = _
    rw [hgroups, List.map_map]
    exact List.map_congr_left fun k _ => key_cells I hgrouping k _
  · show List.Forall₂ _ (d.query.answer I columns table) _
    rw [hgroups, List.forall₂_map_left_iff, List.forall₂_map_right_iff, List.forall₂_same]
    intro k _
    exact count_cells I hcount [k] (by simp [hgrouping]) _
  · intro n hn
    obtain ⟨k, hk, rfl⟩ := List.mem_map.mp hn
    exact length_group_pos hk
  · show (d.whole.query.answer I columns table).length ≤ 1
    rw [hsums]
    split <;> simp
  · intro row hrow
    have hrow : row ∈ d.whole.query.answer I columns table := hrow
    rw [hsums, List.mem_ite_nil_left, List.mem_singleton] at hrow
    obtain ⟨-, rfl⟩ := hrow
    rw [sum_groups fun r : Row V => r g]
    exact count_cells I (d := d.whole) hcount [] (by simp [grouping_whole]) selected
  · show d.query.answer I columns table = [] ↔ d.whole.query.answer I columns table = []
    rw [hgroups, hsums]
    simp

/-- Three loans are active, one of them of no type: whatever the groups, their counts add up to
three. -/
theorem answer_shared_out_no_type :
    let d : Descriptor :=
      { entity := "Loan"
        filters := [("status", .text "active")]
        metrics := some [.sum, .count, .count]
        aggregations := [.byType, .byCategory] }
    let loan (kind : Option String) (status : String) : Row Cell := fun c =>
      if c = "loan_type" then kind.map .text
      else if c = "status" then some (.text status) else none
    let table := [loan (some "auto") "active", loan none "active", loan (some "boat") "default",
      loan (some "auto") "active"]
    let grouped := (d.compile .snowflake).query
    let groups := grouped.answer Cell.interpretation [] table
    ∃ counts : List ℕ,
      List.Forall₂ (fun row (n : ℕ) =>
        AllAre (grouped.cellsUnder "total_count" row) (some (.number n))) groups counts ∧
      (∀ n ∈ counts, 1 ≤ n) ∧ counts.sum = 3 := by
  intro d loan table grouped groups
  have hcount : .count ∈ d.wantedMetrics := by decide
  obtain ⟨-, counts, -, -, hgroups, hpos, -, hsum, -⟩ := answer_shared_out Cell.interpretation []
    (d := d) (g := "loan_type") .snowflake table (.inl ⟨by decide, rfl⟩) hcount
  refine ⟨counts, hgroups, hpos, ?_⟩
  -- the count over all rows is three, and it is the sum
  have hselected : (table.filter (d.selects Cell.interpretation)).length = 3 := by
    decide +kernel
  have hanswer := answer_figures Cell.interpretation (d := d.whole) d.grouping_whole
    (by decide) [] table
  have hne : table.filter (d.whole.selects Cell.interpretation) ≠ [] := by
    intro h
    rw [show table.filter (d.selects Cell.interpretation) = [] from h] at hselected
    exact absurd hselected (by decide)
  rw [if_neg hne] at hanswer
  have hcells := hsum _ (hanswer ▸ List.mem_singleton_self _)
  have hthree := hcells.unique (count_cells Cell.interpretation (d := d.whole) hcount
    [] (by simp [grouping_whole]) (table.filter (d.selects Cell.interpretation)))
  rw [hselected] at hthree
  exact_mod_cast Cell.number.inj (Option.some.inj hthree)

end Descriptor

end LedgerQuery
