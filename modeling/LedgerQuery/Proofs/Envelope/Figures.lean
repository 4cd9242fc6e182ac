import Mathlib.Data.List.Induction
import Mathlib.Data.String.Basic
import LedgerQuery.Compile
import LedgerQuery.Envelope.Stats

/-!
# The names of figures

Which figures a result has, and under which names. A figure moves from the name of its column to
the name that the entity has for it, so that none is left under the old name. Loans and deposits
have a name for each of the count, the total and the average, customers for the count alone.

* `Stats.lookup_put`, `Stats.lookup_move`: the figure of a name behind each step.
* `Stats.Ordered`: the names are in order, each of them once.
* `lookup_metricFigures`: the figures of a result under the names of its columns.
* `FigureNames.lookup_apply_of_mem`: what is left of them under these names.
* `summaryStats_columnNames`: no column keeps its name that the entity has a name for.
-/

namespace LedgerQuery

namespace Stats

/-! ### The figure of a name -/

theorem lookup_cons (f : String × Float) (s : Stats) (n : String) :
    (f :: s).lookup n = if n = f.1 then some f.2 else s.lookup n := by
  rw [List.lookup_cons]
  by_cases h : n = f.1
  · simp [h]
  · simp [h, beq_false_of_ne h]

theorem mem_names_iff (s : Stats) (n : String) :
    n ∈ s.map Prod.fst ↔ (s.lookup n).isSome = true := by
  induction s with
  | nil => simp
  | cons f s ih =>
    rw [lookup_cons, List.map_cons, List.mem_cons, ih]
    by_cases h : n = f.1 <;> simp [h]

theorem lookup_put (name : String) (value : Float) (s : Stats) (n : String) :
    (s.put name value).lookup n = if n = name then some value else s.lookup n := by
  induction s with
  | nil => exact lookup_cons (name, value) [] n
  | cons f s ih =>
    rw [put]
    split
    · exact lookup_cons (name, value) (f :: s) n
    · split
      · next h =>
        -- the new figure stands in place of the old one
        rw [lookup_cons, lookup_cons, h]
        by_cases hn : n = f.1 <;> simp [hn]
      · next h =>
        rw [lookup_cons, lookup_cons, ih]
        by_cases hn : n = name
        · obtain rfl := hn
          simp [h]
        · simp [hn]

theorem lookup_remove (name : String) (s : Stats) (n : String) :
    (s.remove name).lookup n = if n = name then none else s.lookup n := by
  induction s with
  | nil => simp [remove]
  | cons f s ih =>
    rw [remove] at ih
    rw [remove, List.filter_cons, lookup_cons]
    by_cases hf : f.1 = name
    · rw [if_neg (by simp [hf]), ih, hf]
      by_cases hn : n = name <;> simp [hn]
    · rw [if_pos (by simp [hf]), lookup_cons, ih]
      by_cases hn : n = f.1
      · simp [hn, hf]
      · simp [hn]

theorem lookup_move (old new : String) (s : Stats) (n : String) :
    (s.move old new).lookup n =
      if n = new ∧ (s.lookup old).isSome then s.lookup old
      else if n = old then none else s.lookup n := by
  rw [move]
  cases h : s.lookup old with
  | none =>
    by_cases hn : n = old
    · simp [hn, h]
    · simp [hn]
  | some v =>
    show (put new v (s.remove old)).lookup n = _
    rw [lookup_put, lookup_remove]
    by_cases hn : n = new <;> simp [hn]

theorem lookup_move_of_ne {old new n : String} (hold : n ≠ old) (hnew : n ≠ new) (s : Stats) :
    (s.move old new).lookup n = s.lookup n := by
  rw [lookup_move]
  simp [hold, hnew]

theorem lookup_move_new {old new : String} {s : Stats} (h : s.lookup new = none) :
    (s.move old new).lookup new = s.lookup old := by
  rw [lookup_move]
  cases hs : s.lookup old <;> simp [h]

/-- A repeated name has its last figure. -/
theorem lookup_ofList (fs : List (String × Float)) (n : String) :
    (ofList fs).lookup n = fs.reverse.lookup n := by
  rw [ofList]
  induction fs using List.reverseRecOn with
  | nil => rfl
  | append_singleton fs f ih =>
    rw [List.foldl_append, List.foldl_cons, List.foldl_nil, lookup_put, ih, List.reverse_append]
    exact (lookup_cons f fs.reverse n).symm

/-! ### The order of the names -/

/-- The names are in order, and none of them occurs twice. -/
def Ordered (s : Stats) : Prop :=
  s.Pairwise fun f g => f.1 < g.1

theorem Ordered.nodup {s : Stats} (h : s.Ordered) : (s.map Prod.fst).Nodup := by
  rw [List.Nodup, List.pairwise_map]
  exact List.Pairwise.imp (fun h => ne_of_lt h) h

theorem mem_put {name : String} {value : Float} {s : Stats} {f : String × Float}
    (h : f ∈ s.put name value) : f = (name, value) ∨ f ∈ s := by
  induction s with
  | nil => exact .inl (List.mem_singleton.mp h)
  | cons g s ih =>
    rw [put] at h
    split at h
    · exact List.mem_cons.mp h
    · split at h
      · exact (List.mem_cons.mp h).imp_right (List.mem_cons_of_mem g)
      · rcases List.mem_cons.mp h with rfl | h
        · exact .inr List.mem_cons_self
        · exact (ih h).imp_right (List.mem_cons_of_mem g)

theorem Ordered.put {s : Stats} (h : s.Ordered) (name : String) (value : Float) :
    (s.put name value).Ordered := by
  induction s with
  | nil => exact List.pairwise_singleton _ _
  | cons f s ih =>
    obtain ⟨hf, hs⟩ := List.pairwise_cons.mp h
    rw [Stats.put]
    split
    · next hlt =>
      -- all that stands behind the first figure comes behind the new one too
      refine List.pairwise_cons.mpr ⟨?_, h⟩
      intro g hg
      rcases List.mem_cons.mp hg with rfl | hg
      · exact hlt
      · exact lt_trans hlt (hf g hg)
    · next hle =>
      split
      · next heq =>
        refine List.pairwise_cons.mpr ⟨?_, hs⟩
        intro g hg
        show name < g.1
        exact heq ▸ hf g hg
      · next hne =>
        refine List.pairwise_cons.mpr ⟨?_, ih hs⟩
        intro g hg
        rcases mem_put hg with rfl | hg
        · exact lt_of_le_of_ne (not_lt.mp hle) (Ne.symm hne)
        · exact hf g hg

theorem Ordered.move {s : Stats} (h : s.Ordered) (old new : String) : (s.move old new).Ordered := by
  rw [Stats.move]
  split
  · exact h
  · exact Ordered.put (List.Pairwise.filter _ h) new _

/-- A figure whose name comes behind all others is put at the end. -/
theorem put_of_lt {name : String} {s : Stats} (h : ∀ f ∈ s, f.1 < name) (value : Float) :
    s.put name value = s ++ [(name, value)] := by
  induction s with
  | nil => rfl
  | cons f s ih =>
    have hf := h f List.mem_cons_self
    rw [put, if_neg (lt_asymm hf), if_neg (ne_of_gt hf),
      ih fun g hg => h g (List.mem_cons_of_mem f hg), List.cons_append]

theorem ordered_foldl {s : Stats} (h : s.Ordered) (fs : List (String × Float)) :
    Ordered (fs.foldl (fun s f => Stats.put f.1 f.2 s) s) := by
  induction fs generalizing s with
  | nil => exact h
  | cons f fs ih => exact ih (h.put f.1 f.2)

theorem ordered_ofList (fs : List (String × Float)) : (ofList fs).Ordered :=
  ordered_foldl List.Pairwise.nil fs

/-- Figures that are in order stay as they are. -/
theorem ofList_of_ordered {s : Stats} (h : s.Ordered) : ofList s = s := by
  -- each figure in turn comes behind those that are there
  have hfold : ∀ s seen : Stats, Ordered (seen ++ s) →
      s.foldl (fun s f => put f.1 f.2 s) seen = seen ++ s := by
    intro s
    induction s with
    | nil =>
      intro seen _
      exact (List.append_nil seen).symm
    | cons f s ih =>
      intro seen h
      have hlast : ∀ g ∈ seen, g.1 < f.1 := by
        intro g hg
        exact (List.pairwise_append.mp h).2.2 g hg f List.mem_cons_self
      rw [← List.singleton_append, ← List.append_assoc] at h
      rw [List.foldl_cons, put_of_lt hlast, ih _ h, List.append_assoc, List.singleton_append]
  exact hfold s [] h

end Stats

/-! ### The names of an entity -/

/-- The figure of the first row under a name. -/
def RowSet.firstFigure? (r : RowSet) (name : String) : Option Float :=
  (r.firstCell? name).bind figure?

theorem lookup_metricFigures (r : RowSet) (n : String) :
    (metricFigures r).lookup n = if n ∈ metricColumns then r.firstFigure? n else none := by
  -- a name that is given twice is given the same figure, so the order does not matter
  have hfigures : ∀ columns : List String,
      (columns.filterMap fun c => (r.firstFigure? c).map fun v => (c, v)).lookup n =
        if n ∈ columns then r.firstFigure? n else none := by
    intro columns
    induction columns with
    | nil => rfl
    | cons c columns ih =>
      by_cases hn : n = c
      · subst hn
        cases hc : r.firstFigure? n with
        | none => simp [hc] at ih ⊢; exact ih
        | some v => simp [hc]
      · cases hc : r.firstFigure? c with
        | none => simpa [hc, hn] using ih
        | some v => simpa [hc, hn, Stats.lookup_cons] using ih
  show (Stats.ofList _).lookup n = _
  rw [Stats.lookup_ofList, ← List.filterMap_reverse]
  refine (hfigures metricColumns.reverse).trans ?_
  simp only [List.mem_reverse]

namespace FigureNames

/-- The name that an entity has for the figures of a column. -/
def ofColumn? (names : FigureNames) (column : String) : Option String :=
  if column = "total_count" then some names.count
  else if column = "total_amount" then names.total
  else if column = "average_amount" then names.average
  else none

/-- The names of the entity's own. -/
def own (names : FigureNames) : List String :=
  names.count :: (names.total.toList ++ names.average.toList)

/-- The total under its name; it is zero if there is a count and no total. -/
def applyTotal (names : FigureNames) (counted : Bool) (s : Stats) : Stats :=
  match names.total with
  | none => s
  | some total =>
    if counted ∧ (s.lookup "total_amount").isNone then s.put total 0 else s.move "total_amount" total

/-- The average under its name. -/
def applyAverage (names : FigureNames) (s : Stats) : Stats :=
  match names.average with
  | none => s
  | some average => s.move "average_amount" average

theorem apply_eq (names : FigureNames) (s : Stats) :
    names.apply s = names.applyAverage
      (names.applyTotal (s.lookup "total_count").isSome (s.move "total_count" names.count)) := rfl

theorem lookup_applyTotal (names : FigureNames) (counted : Bool) (s : Stats) {n : String}
    (h : n ∉ names.total) :
    (names.applyTotal counted s).lookup n =
      if n = "total_amount" ∧ names.total.isSome then none else s.lookup n := by
  rw [applyTotal]
  cases ht : names.total with
  | none => simp
  | some total =>
    have hn : n ≠ total := by
      rintro rfl
      exact h ht
    dsimp only
    split
    · next hzero =>
      rw [Stats.lookup_put, if_neg hn]
      by_cases hcolumn : n = "total_amount"
      · simpa [hcolumn] using hzero.2
      · simp [hcolumn]
    · rw [Stats.lookup_move]
      simp [hn]

theorem lookup_applyAverage (names : FigureNames) (s : Stats) {n : String} (h : n ∉ names.average) :
    (names.applyAverage s).lookup n =
      if n = "average_amount" ∧ names.average.isSome then none else s.lookup n := by
  rw [applyAverage]
  cases ha : names.average with
  | none => simp
  | some average =>
    have hn : n ≠ average := by
      rintro rfl
      exact h ha
    show (s.move "average_amount" average).lookup n = _
    rw [Stats.lookup_move]
    simp [hn]

theorem ordered_apply (names : FigureNames) {s : Stats} (h : s.Ordered) :
    (names.apply s).Ordered := by
  have htotal : ∀ counted, (names.applyTotal counted (s.move "total_count" names.count)).Ordered := by
    intro counted
    rw [applyTotal]
    split
    · exact h.move _ _
    · split
      · exact (h.move _ _).put _ _
      · exact (h.move _ _).move _ _
  rw [apply_eq, applyAverage]
  split
  · exact htotal _
  · exact (htotal _).move _ _

/-- Under a name that is none of the entity's own, what was there is left unless the entity has a
name for it. -/
theorem lookup_apply {names : FigureNames} {n : String} (h : n ∉ names.own) (s : Stats) :
    (names.apply s).lookup n = if (names.ofColumn? n).isSome then none else s.lookup n := by
  simp only [own, List.mem_cons, List.mem_append, Option.mem_toList, not_or] at h
  obtain ⟨hcount, htotal, haverage⟩ := h
  have hmove : (s.move "total_count" names.count).lookup n =
      if n = "total_count" then none else s.lookup n := by
    rw [Stats.lookup_move]
    simp [hcount]
  rw [apply_eq, lookup_applyAverage _ _ haverage, lookup_applyTotal _ _ _ htotal, hmove, ofColumn?]
  by_cases h₁ : n = "total_count"
  · simp [h₁]
  · by_cases h₂ : n = "total_amount"
    · cases names.total <;> simp [h₂]
    · by_cases h₃ : n = "average_amount"
      · cases names.average <;> simp [h₃]
      · simp [h₁, h₂, h₃]

/-- The entity's own names are different from each other and from those of the columns. -/
structure Fresh (names : FigureNames) : Prop where
  count_not_column : names.count ∉ metricColumns
  total_not_column : ∀ t ∈ names.total, t ∉ metricColumns
  average_not_column : ∀ a ∈ names.average, a ∉ metricColumns
  count_not_total : names.count ∉ names.total
  count_not_average : names.count ∉ names.average
  total_not_average : ∀ t ∈ names.total, t ∉ names.average

theorem ne_column {n column : String} (h : n ∉ metricColumns) (hcolumn : column ∈ metricColumns) :
    n ≠ column := by
  rintro rfl
  exact h hcolumn

theorem Fresh.not_own {names : FigureNames} (h : names.Fresh) {column : String}
    (hcolumn : column ∈ metricColumns) : column ∉ names.own := by
  simp only [own, List.mem_cons, List.mem_append, Option.mem_toList, not_or]
  exact ⟨(ne_column h.count_not_column hcolumn).symm,
    fun ht => h.total_not_column column ht hcolumn,
    fun ha => h.average_not_column column ha hcolumn⟩

section Own

variable {names : FigureNames} (hn : names.Fresh) {s : Stats}
include hn

theorem lookup_apply_count (hs : s.lookup names.count = none) :
    (names.apply s).lookup names.count = s.lookup "total_count" := by
  have htotal : names.count ≠ "total_amount" := ne_column hn.count_not_column (by decide)
  have haverage : names.count ≠ "average_amount" := ne_column hn.count_not_column (by decide)
  rw [apply_eq, lookup_applyAverage _ _ hn.count_not_average,
    lookup_applyTotal _ _ _ hn.count_not_total, Stats.lookup_move_new hs]
  simp [htotal, haverage]

theorem lookup_apply_total {total : String} (ht : names.total = some total)
    (hs : s.lookup total = none) {v : Float} (hv : s.lookup "total_amount" = some v) :
    (names.apply s).lookup total = some v := by
  have hfresh := hn.total_not_column total ht
  have hcount : names.count ≠ total := by
    rintro rfl
    exact hn.count_not_total ht
  -- the count is moved past the total, which is there
  have hold : (s.move "total_count" names.count).lookup "total_amount" = some v := by
    rw [Stats.lookup_move_of_ne (by decide) (ne_column hn.count_not_column (by decide)).symm, hv]
  have hnew : (s.move "total_count" names.count).lookup total = none := by
    rw [Stats.lookup_move_of_ne (ne_column hfresh (by decide)) hcount.symm, hs]
  have haverage : total ≠ "average_amount" := ne_column hfresh (by decide)
  rw [apply_eq, lookup_applyAverage _ _ (hn.total_not_average total ht), applyTotal, ht]
  simp only [haverage, hold, Option.isNone_some, Bool.false_eq_true, and_false, false_and, if_false]
  rw [Stats.lookup_move_new hnew, hold]

theorem lookup_apply_average {average : String} (ha : names.average = some average)
    (hs : s.lookup average = none) :
    (names.apply s).lookup average = s.lookup "average_amount" := by
  have hfresh := hn.average_not_column average ha
  have hcount : names.count ≠ average := by
    rintro rfl
    exact hn.count_not_average ha
  have htotal : average ∉ names.total := fun ht => hn.total_not_average average ht ha
  have hcolumn : "average_amount" ∉ names.total :=
    fun ht => hn.total_not_column _ ht (by decide)
  have hnew : (names.applyTotal (s.lookup "total_count").isSome
      (s.move "total_count" names.count)).lookup average = none := by
    rw [lookup_applyTotal _ _ _ htotal,
      Stats.lookup_move_of_ne (ne_column hfresh (by decide)) hcount.symm, hs]
    simp
  rw [apply_eq, applyAverage, ha]
  dsimp only
  rw [Stats.lookup_move_new hnew, lookup_applyTotal _ _ _ hcolumn,
    Stats.lookup_move_of_ne (by decide) (ne_column hn.count_not_column (by decide)).symm]
  simp

/-- No figure is lost: it is found under the entity's name for its column, or under that of the
column if the entity has none. -/
theorem lookup_apply_ofColumn (hs : ∀ n, n ∉ metricColumns → s.lookup n = none) {column : String}
    (hcolumn : column ∈ metricColumns) {v : Float} (hv : s.lookup column = some v) :
    (names.apply s).lookup ((names.ofColumn? column).getD column) = some v := by
  cases hname : names.ofColumn? column with
  | none =>
    rw [Option.getD_none, lookup_apply (hn.not_own hcolumn), hname]
    simpa using hv
  | some n =>
    rw [Option.getD_some]
    rw [ofColumn?] at hname
    split at hname
    · next h =>
      obtain rfl := Option.some.inj hname
      rw [lookup_apply_count hn (hs _ hn.count_not_column), ← h, hv]
    · split at hname
      · next h => exact lookup_apply_total hn hname (hs n (hn.total_not_column n hname)) (h ▸ hv)
      · split at hname
        · next h =>
          rw [lookup_apply_average hn hname (hs n (hn.average_not_column n hname)), ← h, hv]
        · exact absurd hname (by simp)

end Own

end FigureNames

theorem Table.fresh_figureNames {t : Table} {names : FigureNames} (h : t.figureNames? = some names) :
    names.Fresh := by
  cases t with
  | other s => exact absurd h (by simp [figureNames?])
  | loans | deposits | customers =>
    obtain rfl := Option.some.inj h
    constructor <;> decide

/-! ### The figures of a result -/

theorem summaryStats_eq {r : RowSet} {d : Descriptor} {names : FigureNames}
    (h : d.table.figureNames? = some names) :
    summaryStats r d = names.apply (metricFigures r) := by
  have htable : (Table.ofEntity d.entity).figureNames? = some names := h
  rw [summaryStats, htable]

/-- Under the name of a column there is a figure only if the entity has no name for the column. -/
theorem lookup_summaryStats {r : RowSet} {d : Descriptor} {names : FigureNames}
    (h : d.table.figureNames? = some names) {column : String} (hcolumn : column ∈ metricColumns) :
    (summaryStats r d).lookup column =
      if (names.ofColumn? column).isSome then none else r.firstFigure? column := by
  have hfresh := Table.fresh_figureNames h
  rw [summaryStats_eq h, FigureNames.lookup_apply (hfresh.not_own hcolumn), lookup_metricFigures,
    if_pos hcolumn]

/-- Whatever the result, its figures are in the order of their names. -/
theorem ordered_summaryStats (r : RowSet) (d : Descriptor) : (summaryStats r d).Ordered := by
  have hcolumns : (metricFigures r).Ordered := Stats.ordered_ofList _
  rw [summaryStats]
  split
  · exact hcolumns
  · next names _ => exact names.ordered_apply hcolumns

/-- Loans and deposits keep none of the columns' names for the count, the total and the average.
Customers have a name for the count alone: their total and average, if the first row has a figure
in these columns, keep the names of the columns. Nothing is lost: each figure of the first row is
there under the entity's name for its column, or under that of the column. -/
theorem summaryStats_columnNames (r : RowSet) (d : Descriptor) :
    let stats := summaryStats r d
    (d.table = .loans ∨ d.table = .deposits →
      ∀ column ∈ ["total_count", "total_amount", "average_amount"], column ∉ stats.map Prod.fst) ∧
    (d.table = .customers → "total_count" ∉ stats.map Prod.fst ∧
      ∀ column ∈ ["total_amount", "average_amount"],
        stats.lookup column = r.firstFigure? column) ∧
    ∀ names, d.table.figureNames? = some names → ∀ column ∈ metricColumns, ∀ v,
      r.firstFigure? column = some v →
        stats.lookup ((names.ofColumn? column).getD column) = some v := by
  intro stats
  have hgone : ∀ column, stats.lookup column = none → column ∉ stats.map Prod.fst := by
    intro column h
    rw [Stats.mem_names_iff, h]
    simp
  refine ⟨?_, ?_, ?_⟩
  · intro htable column hcolumn
    -- both entities have a name for each of the three columns
    have hnames : ∃ names, d.table.figureNames? = some names ∧
        (names.ofColumn? column).isSome = true ∧ column ∈ metricColumns := by
      simp only [List.mem_cons, List.not_mem_nil, or_false] at hcolumn
      rcases htable with h | h <;> rw [h] <;> rcases hcolumn with rfl | rfl | rfl <;>
        exact ⟨_, rfl, by decide, by decide⟩
    obtain ⟨names, h, hsome, hmem⟩ := hnames
    apply hgone
    rw [lookup_summaryStats h hmem, if_pos hsome]
  · intro htable
    have h : d.table.figureNames? = some ⟨"total_customers", none, none⟩ := by
      rw [htable]
      rfl
    refine ⟨?_, ?_⟩
    · apply hgone
      rw [lookup_summaryStats h (by decide)]
      rfl
    · intro column hcolumn
      simp only [List.mem_cons, List.not_mem_nil, or_false] at hcolumn
      rcases hcolumn with rfl | rfl <;> exact lookup_summaryStats h (by decide)
  · intro names h column hcolumn v hv
    have hnew : ∀ n, n ∉ metricColumns → (metricFigures r).lookup n = none := by
      intro n hn
      rw [lookup_metricFigures, if_neg hn]
    show (summaryStats r d).lookup _ = some v
    rw [summaryStats_eq h]
    refine FigureNames.lookup_apply_ofColumn (Table.fresh_figureNames h) hnew hcolumn ?_
    rw [lookup_metricFigures, if_pos hcolumn, hv]

/-- Loans and customers with the same row: a count, a total under a name in capitals, and no
average. -/
theorem summaryStats_columnNames_capitals :
    let r : RowSet := ⟨["average_amount", "TOTAL_AMOUNT", "total_count"], [[.null, .int 5, .int 2]]⟩
    "total_amount" ∉ (summaryStats r { entity := "Loan" }).map Prod.fst ∧
      (summaryStats r { entity := "Loan" }).lookup "total_value" = some (Decimal.ofInt 5) ∧
      "total_count" ∉ (summaryStats r { entity := "customers" }).map Prod.fst ∧
      (summaryStats r { entity := "customers" }).lookup "total_amount" = some (Decimal.ofInt 5) ∧
      (summaryStats r { entity := "customers" }).lookup "average_amount" = none := by
  intro r
  have hloans := summaryStats_columnNames r { entity := "Loan" }
  have hcustomers := (summaryStats_columnNames r { entity := "customers" }).2.1 (by decide)
  have htotal : r.firstFigure? "total_amount" = some (Decimal.ofInt 5) := by rfl
  have haverage : r.firstFigure? "average_amount" = none := by rfl
  refine ⟨hloans.1 (.inl (by decide)) _ (by decide), ?_, hcustomers.1, ?_, ?_⟩
  · exact hloans.2.2 ⟨"total_loans", some "total_value", some "average_loan_size"⟩ (by decide)
      "total_amount" (by decide) _ htotal
  · exact (hcustomers.2 _ (by decide)).trans htotal
  · exact (hcustomers.2 _ (by decide)).trans haverage

/-- The total of customers is reported under the name of its column. -/
theorem total_amount_of_customers :
    Descriptor.table { entity := "customers" } = .customers ∧
      "total_amount" ∈ (summaryStats ⟨["total_amount"], [[.int 5]]⟩ { entity := "customers" }).map
        Prod.fst := by
  have htable : Descriptor.table { entity := "customers" } = .customers := by decide
  have hnames : Table.customers.figureNames? = some ⟨"total_customers", none, none⟩ := rfl
  refine ⟨htable, ?_⟩
  rw [Stats.mem_names_iff, lookup_summaryStats (htable ▸ hnames) (by decide)]
  rfl

end LedgerQuery
