import Mathlib.Data.List.Nodup
import LedgerQuery.Proofs.Compile.Query
import LedgerQuery.Proofs.Sql.Clauses
import LedgerQuery.Proofs.Sql.Names

/-!
# What the text of a compiled statement says

The text of a compiled statement and the outline of its query say the same: the parts of the table
name, the metrics, the column of the groups, the columns of the filters, and whether dates are
bounded. Values are bound and leave no trace in the text, and no name can be chosen so that one
query reads as another.

* `Descriptor.toList_sql`: the text, piece by piece.
* `Descriptor.binds_query`: the values that are bound.
* `Descriptor.compile_sql_determines`: two statements have one text exactly if their outlines
  agree, and the values bound are those of the filters and then the two bounds.
-/

namespace LedgerQuery

open Text (Readable StartsWith chain part startsWith_nil startsWith_cons)
open Sql (Token Expr SelectItem Query Operator Dialect conjunction comparisonText)

/-! ### Items -/

/-- An item of a compiled statement. -/
inductive Descriptor.Item where
  | group (column : String)
  | figure (metric : Metric)

namespace Descriptor.Item

/-- The item in the query. -/
def selectItem : Item → SelectItem
  | .group c => ⟨.column c, none⟩
  | .figure m => m.item

/-- The item is one that descriptors are compiled to. -/
def Known : Item → Prop
  | .group c => c ∈ ["loan_type", "account_type"]
  | .figure m => m.appliesTo .loans

/-- The text of an item. -/
def text : Item → String
  | .group c => Sql.Identifier.render c
  | .figure .count => "COUNT(*) AS total_count"
  | .figure .sum => "SUM(amount) AS total_amount"
  | .figure .average => "AVG(amount) AS average_amount"
  | .figure .defaultRate =>
    "SUM(CASE WHEN status = 'default' THEN 1 ELSE 0 END) * 100.0 / COUNT(*) AS default_rate"
  | .figure (.other s) => s

theorem write_selectItem (d : Dialect) {e : Item} (h : e.Known) :
    Sql.write d .bound e.selectItem.tokens = e.text := by
  rcases e with c | m
  · simp [selectItem, text, SelectItem.tokens, Expr.tokens, Sql.write, Token.write]
  · cases m with
    | other s => simp [Known] at h
    | _ => cases d <;> decide +kernel

/-- A character that ends an item. -/
def endsItem (c : Char) : Bool :=
  c == ',' || c == '\n'

/-- All items that descriptors are compiled to. -/
def all : List Item :=
  [.group "loan_type", .group "account_type", .figure .count, .figure .sum, .figure .average,
    .figure .defaultRate]

theorem mem_all {e : Item} (h : e.Known) : e ∈ all := by
  rcases e with c | m
  · simp only [Known, List.mem_cons, List.not_mem_nil, or_false] at h
    rcases h with rfl | rfl <;> simp [all]
  · cases m with
    | other s => simp [Known] at h
    | _ => simp [all]

/-- No two items have one text. -/
theorem nodup_texts : (all.map text).Nodup := by
  decide +kernel

theorem readable_text : Readable Known (fun e => e.text.toList) (StartsWith endsItem) := by
  refine Text.readable_of_stops ?_ ?_
  · intro e h
    have hall : (all.all fun e => !e.text.toList.any endsItem) = true := by decide +kernel
    simpa using List.all_eq_true.mp hall e (mem_all h)
  · intro a b ha hb h
    exact List.inj_on_of_nodup_map nodup_texts (mem_all ha) (mem_all hb) (String.toList_inj.mp h)

end Descriptor.Item

/-! ### The text, piece by piece -/

/-- The text of a list of items, each on a line of its own. -/
def itemsText {α : Type} (text : α → List Char) : List α → List Char
  | [] => [' ', '*']
  | a :: l => part ['\n', ' ', ' '] [',', '\n', ' ', ' '] text (a :: l)

/-- The text of a list of conditions, if there are any. -/
def conditionsText {α : Type} (text : α → List Char) (l : List α) : List Char :=
  part "\nWHERE ".toList " AND ".toList text l

theorem itemsText_congr {α β : Type} {f : α → List Char} {g : β → List Char} {l : List α}
    {m : List β} (h : l.map f = m.map g) : itemsText f l = itemsText g m := by
  cases l with
  | nil =>
    cases m with
    | nil => rfl
    | cons b m => simp at h
  | cons a l =>
    cases m with
    | nil => simp at h
    | cons b m => exact Text.part_congr h

theorem toList_write_itemTokens (d : Dialect) (items : List SelectItem) :
    (Sql.write d .bound (Query.itemTokens items)).toList =
      itemsText (fun i => (Sql.write d .bound i.tokens).toList) items := by
  have hmore : ∀ items, (Sql.write d .bound (Query.moreItemTokens items)).toList =
      chain [',', '\n', ' ', ' '] (fun i => (Sql.write d .bound i.tokens).toList) items := by
    intro items
    induction items with
    | nil => simp [Query.moreItemTokens]
    | cons i items ih =>
      rw [Query.moreItemTokens, Sql.write_append, Sql.write_append, String.toList_append,
        String.toList_append, ih, Text.chain_cons]
      simp [Token.write]
  cases items with
  | nil => simp [Query.itemTokens, Token.write, itemsText]
  | cons i items =>
    rw [Query.itemTokens, Sql.write_append, Sql.write_append, String.toList_append,
      String.toList_append, hmore, itemsText, part]
    simp [Token.write]

theorem toList_write_condition (d : Dialect) (es : List Expr) :
    (Sql.write d .bound (Query.partTokens .condition Expr.tokens (conjunction es))).toList =
      conditionsText (fun e => (Sql.write d .bound e.tokens).toList) es := by
  cases es with
  | nil => simp [Query.partTokens, conditionsText, part]
  | cons e es =>
    rw [Sql.conjunction_cons, Query.partTokens, Sql.tokens_foldl_and, conditionsText, part, chain]
    simp [Token.write, Sql.Keyword.text, Operator.text, List.flatMap_assoc]

namespace Descriptor

/-- The items of a descriptor's statement. -/
def entries (d : Descriptor) : List Item :=
  d.grouping.toList.map .group ++ d.figures.map .figure

/-- The names that a descriptor's statement compares with bound values. -/
def comparisons (d : Descriptor) : List (String × Operator) :=
  d.filters.map (fun f => (f.1, .equal)) ++
    if d.dates.isSome then [("date", .atLeast), ("date", .atMost)] else []

theorem known_entries (d : Descriptor) : ∀ e ∈ d.entries, e.Known := by
  intro e he
  rcases List.mem_append.mp he with he | he
  · obtain ⟨c, hc, rfl⟩ := List.mem_map.mp he
    simpa [Item.Known] using grouping_mem (Option.mem_toList.mp hc)
  · obtain ⟨m, hm, rfl⟩ := List.mem_map.mp he
    have ha := (List.mem_filter.mp hm).2
    cases m with
    | other s => simp at ha
    | _ => rfl

/-- The text of a statement behind its conditions. -/
def closing (dialect : Dialect) (grouping : Option String) (figures : List Metric) : List Char :=
  (Sql.write dialect .bound (Query.groupTokens (grouping.toList.map .column) ++
    Query.partTokens .having Expr.tokens
      (if grouping = none ∧ figures ≠ [] then some someRow else none))).toList

/-- The text of a statement, piece by piece. -/
theorem toList_sql (d : Descriptor) (dialect : Dialect) :
    (d.compile dialect).sql.toList =
      "SELECT".toList ++
        (itemsText (fun e => e.text.toList) d.entries ++
        ("\nFROM ".toList ++ ((dialect.tableText d.table.name).toList ++
        (conditionsText comparisonText d.comparisons ++
          closing dialect d.grouping d.figures)))) := by
  have hi : d.grouping.toList.map (fun c => (⟨.column c, none⟩ : SelectItem)) ++
      d.figures.map Metric.item = d.entries.map Item.selectItem := by
    rw [entries, List.map_append, List.map_map, List.map_map]
    rfl
  have hmap : (d.entries.map Item.selectItem).map
      (fun i => (Sql.write dialect .bound i.tokens).toList) =
      d.entries.map fun e => e.text.toList := by
    rw [List.map_map]
    refine List.map_congr_left fun e he => ?_
    rw [← Item.write_selectItem dialect (d.known_entries e he)]
    rfl
  have hc : d.conditions.map (fun e => (Sql.write dialect .bound e.tokens).toList) =
      d.comparisons.map comparisonText := by
    rw [conditions, bounds_eq, comparisons, List.map_append, List.map_append, List.map_map,
      List.map_map]
    refine congrArg₂ (· ++ ·) ?_ ?_
    · refine List.map_congr_left fun f _ => ?_
      simp [Expr.eq, Expr.tokens, comparisonText, Sql.operatorText, Token.write,
        Dialect.placeholder]
    · cases d.dates with
      | none => rfl
      | some b =>
        simp [Expr.ge, Expr.le, Expr.tokens, comparisonText, Sql.operatorText, Token.write,
          Dialect.placeholder]
  have hq : (d.compile dialect).sql = Sql.write dialect .bound d.query.tokens := rfl
  rw [hq, query_eq, Query.tokens, hi]
  simp only [Sql.write_append, String.toList_append, toList_write_itemTokens,
    toList_write_condition, itemsText_congr hmap, closing]
  rw [conditionsText, conditionsText, Text.part_congr hc]
  simp [Query.partTokens, Token.write, Sql.Keyword.text]

/-! ### Reading the outline off the text -/

/-- The items can be told from the text in front of the table. -/
theorem readable_items : Readable (fun es => ∀ e ∈ es, e.Known)
    (itemsText fun e : Item => e.text.toList) (fun t => "\nFROM ".toList <+: t) := by
  have hpart : Readable _ (part ['\n', ' ', ' '] [',', '\n', ' ', ' ']
      fun e : Item => e.text.toList) _ :=
    Item.readable_text.part fun t => startsWith_cons.mpr (by decide)
  intro es fs t u hes hfs ht hu h
  obtain ⟨t, rfl⟩ := ht
  obtain ⟨u, rfl⟩ := hu
  -- the line of the table is indented less than an item and begins with no comma
  have hend : ∀ t : List Char, (StartsWith Item.endsItem ("\nFROM ".toList ++ t) ∧
      ¬ [',', '\n', ' ', ' '] <+: "\nFROM ".toList ++ t) ∧
      ¬ ['\n', ' ', ' '] <+: "\nFROM ".toList ++ t :=
    fun t => ⟨⟨startsWith_cons.mpr (by decide), by simp⟩, by simp⟩
  cases es with
  | nil =>
    cases fs with
    | nil => exact ⟨rfl, List.append_cancel_left h⟩
    | cons f fs => simp [itemsText, part] at h
  | cons e es =>
    cases fs with
    | nil => simp [itemsText, part] at h
    | cons f fs => exact hpart _ _ _ _ hes hfs (hend t) (hend u) h

theorem startsWith_conditions (cs : List (String × Operator)) :
    StartsWith (fun c => Sql.Identifier.endsName c && c != '.')
      (conditionsText comparisonText cs) := by
  cases cs with
  | nil => exact startsWith_nil
  | cons c cs => exact startsWith_cons.mpr (by decide)

theorem readable_conditions {cs ds : List (String × Operator)}
    (h : conditionsText comparisonText cs = conditionsText comparisonText ds) : cs = ds := by
  have hpart : Readable _ (part "\nWHERE ".toList " AND ".toList comparisonText) _ :=
    Sql.readable_comparison.part fun _ => trivial
  unfold conditionsText at h
  refine (hpart cs ds [] [] (fun _ _ => trivial) (fun _ _ => trivial) ?_ ?_ (by rw [h])).1
  · exact ⟨⟨trivial, by simp⟩, by simp⟩
  · exact ⟨⟨trivial, by simp⟩, by simp⟩

theorem entries_inj {d₁ d₂ : Descriptor} (h : d₁.entries = d₂.entries) :
    d₁.grouping = d₂.grouping ∧ d₁.figures = d₂.figures := by
  have hf : ∀ {l m : List Metric}, l.map Item.figure = m.map Item.figure → l = m :=
    fun h => (List.map_inj_right fun _ _ he => Item.figure.inj he).mp h
  -- a group stands in front of the figures, and no figure is a group
  unfold entries at h
  cases h₁ : d₁.grouping with
  | none =>
    cases h₂ : d₂.grouping with
    | none => exact ⟨rfl, hf (by simpa [h₁, h₂] using h)⟩
    | some c => cases hm : d₁.figures <;> simp [h₁, h₂, hm] at h
  | some c =>
    cases h₂ : d₂.grouping with
    | none => cases hm : d₂.figures <;> simp [h₁, h₂, hm] at h
    | some c' =>
      simp only [h₁, h₂, Option.toList_some, List.map_cons, List.map_nil, List.cons_append,
        List.nil_append, List.cons.injEq, Item.group.injEq] at h
      exact ⟨by rw [h.1], hf h.2⟩

theorem comparisons_inj {d₁ d₂ : Descriptor} (h : d₁.comparisons = d₂.comparisons) :
    d₁.filters.map Prod.fst = d₂.filters.map Prod.fst ∧ d₁.dates.isSome = d₂.dates.isSome := by
  have hf : ∀ d : Descriptor, (d.comparisons.filter (·.2 = .equal)).map Prod.fst =
      d.filters.map Prod.fst := by
    intro d
    have he : ∀ c ∈ d.filters.map (fun f => (f.1, Operator.equal)),
        decide (c.2 = .equal) = true := by
      intro c hc
      obtain ⟨f, _, rfl⟩ := List.mem_map.mp hc
      rfl
    rw [comparisons, List.filter_append, List.filter_eq_self.mpr he, List.map_append, List.map_map]
    cases d.dates.isSome <;> simp [Function.comp_def]
  have hb : ∀ d : Descriptor, d.comparisons.any (·.2 = .atLeast) = d.dates.isSome := by
    intro d
    cases hd : d.dates.isSome <;> simp [comparisons, hd]
  exact ⟨by rw [← hf d₁, ← hf d₂, h], by rw [← hb d₁, ← hb d₂, h]⟩

theorem comparisons_congr {d₁ d₂ : Descriptor}
    (hf : d₁.filters.map Prod.fst = d₂.filters.map Prod.fst)
    (hb : d₁.dates.isSome = d₂.dates.isSome) : d₁.comparisons = d₂.comparisons := by
  have hm : ∀ d : Descriptor, d.filters.map (fun f => (f.1, Operator.equal)) =
      (d.filters.map Prod.fst).map fun c => (c, .equal) := by
    intro d
    rw [List.map_map]
    rfl
  rw [comparisons, comparisons, hm, hm, hf, hb]

/-! ### Bound values -/

/-- The values bound to a statement: those of the filters, and then the two bounds. -/
theorem binds_query (d : Descriptor) :
    List.Forall₂ Scalar.Binds (d.filters.map Prod.snd ++ d.dateValues) d.query.params := by
  have hitems : (d.query.items.flatMap fun i => Sql.params i.expr.tokens) = [] := by
    refine List.flatMap_eq_nil_iff.mpr fun i hi => ?_
    rcases mem_items hi with ⟨c, _, rfl⟩ | ⟨m, hm, rfl⟩
    · rfl
    · cases m with
      | other s => simp at hm
      | _ => rfl
  have hgroups :
      ((d.grouping.toList.map Expr.column).flatMap fun e => Sql.params e.tokens) = [] := by
    rw [List.flatMap_map]
    exact List.flatMap_eq_nil_iff.mpr fun c _ => rfl
  have hhaving : ((if d.grouping = none ∧ d.figures ≠ [] then some someRow else none).toList.flatMap
      fun e => Sql.params e.tokens) = [] := by
    split <;> rfl
  have hconditions : (d.conditions.flatMap fun e => Sql.params e.tokens) =
      (d.filters.map Prod.snd ++ d.dateValues).map Scalar.toLiteral := by
    rw [conditions, bounds_eq, dateValues, List.flatMap_append, List.flatMap_map, List.map_append,
      List.map_map]
    congr 1
    · exact List.map_eq_flatMap.symm
    · cases d.dates <;> rfl
  rw [Scalar.forall₂_binds_iff, Query.params_eq, hitems, query_eq]
  simp only [Sql.params_condition, hgroups, hhaving, hconditions, List.nil_append, List.append_nil]

/-! ### The statement and its outline -/

/-- Two statements have one text exactly if they agree on the parts of the table name, the
metrics, the column of the groups, the columns of the filters, and on being bounded in time. The
values bound are those of the filters in order and then start and end of the period if it has both,
each as the value that stands for it. -/
theorem compile_sql_determines :
    (∀ (d₁ d₂ : Descriptor) (dialect : Dialect),
      (d₁.compile dialect).sql = (d₂.compile dialect).sql ↔
        dialect.tableParts d₁.table.name = dialect.tableParts d₂.table.name ∧
        d₁.figures = d₂.figures ∧
        d₁.grouping = d₂.grouping ∧
        d₁.filters.map Prod.fst = d₂.filters.map Prod.fst ∧
        d₁.dates.isSome = d₂.dates.isSome) ∧
    ∀ (d : Descriptor) (dialect : Dialect),
      List.Forall₂ Scalar.Binds (d.filters.map Prod.snd ++ d.dateValues)
        (d.compile dialect).params := by
  refine ⟨fun d₁ d₂ dialect => ⟨fun h => ?_, ?_⟩, fun d _ => d.binds_query⟩
  · rw [← String.toList_inj, toList_sql, toList_sql, List.append_cancel_left_eq] at h
    obtain ⟨he, h⟩ := readable_items _ _ _ _ d₁.known_entries d₂.known_entries
      (List.prefix_append _ _) (List.prefix_append _ _) h
    obtain ⟨hg, hf⟩ := entries_inj he
    -- what stands behind the conditions is settled by the items
    rw [List.append_cancel_left_eq, hg, hf, ← List.append_assoc, ← List.append_assoc,
      List.append_cancel_right_eq] at h
    obtain ⟨ht, h⟩ := Sql.readable_tableText dialect (startsWith_conditions _)
      (startsWith_conditions _) h
    obtain ⟨hc, hb⟩ := comparisons_inj (readable_conditions h)
    exact ⟨ht, hf, hg, hc, hb⟩
  · rintro ⟨ht, hf, hg, hc, hb⟩
    have he : d₁.entries = d₂.entries := by rw [entries, entries, hg, hf]
    rw [← String.toList_inj, toList_sql, toList_sql, he, hg, hf, comparisons_congr hc hb,
      Dialect.tableText, Dialect.tableText, ht]

end Descriptor

end LedgerQuery
