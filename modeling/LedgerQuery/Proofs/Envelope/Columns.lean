import Mathlib.Data.List.Nodup
import Mathlib.Logic.Relation
import LedgerQuery.Proofs.Envelope.Figures
import LedgerQuery.Proofs.Text.Folding
import LedgerQuery.Envelope.Shape

/-!
# What figures depend on

The figures of a result are read from the first row, each from the first column that goes by the
name of its metric in any case. Nothing else that a result holds is looked at: not the order of the
columns, not the case of their names, no other column, and no row behind the first.

* `RowSet.firstCell?_eq`: the cell under a name is the first one among the named cells.
* `RowSet.Rearranged`: the changes that the figures do not show.
* `Rearranged.step`, `Rearranged.run`: what one change keeps and what any number of them keeps.
* `summaryStats_rearranged`: the figures do not change.
* `summaryStats_lowerColumns`: nor do they if the names of the columns are put in small letters.
-/

namespace LedgerQuery

/-! ### Cells under a name -/

/-- The first of the named cells that goes by a name in any case. -/
def cellUnder? (cells : List (String × Json)) (name : String) : Option Json :=
  (cells.find? fun c => Text.sameFolded c.1 name).map Prod.snd

namespace RowSet

/-- A cell beyond the last column goes by no name, and a column beyond the last cell names none. -/
theorem firstCell?_eq (columns : List String) (row : List Json) (later : List (List Json))
    (name : String) :
    firstCell? ⟨columns, row :: later⟩ name = cellUnder? (columns.zip row) name := by
  show ((columns.findIdx? fun c => Text.sameFolded c name).bind fun i => row[i]?) = _
  rw [cellUnder?]
  induction columns generalizing row with
  | nil => rfl
  | cons c columns ih =>
    rw [List.findIdx?_cons]
    cases hc : Text.sameFolded c name with
    | true => cases row <;> simp [hc]
    | false =>
      cases row with
      | nil => cases columns.findIdx? fun c => Text.sameFolded c name <;> simp
      | cons cell row =>
        rw [List.zip_cons_cons, List.find?_cons, hc, ← ih row]
        cases columns.findIdx? fun c => Text.sameFolded c name <;> simp

end RowSet

/-- Of cells no two of which go by the name, the order does not matter. -/
theorem cellUnder?_perm {cells cells' : List (String × Json)} (h : cells.Perm cells')
    {name : String} (hone : ((cells.map Prod.fst).map Text.foldAscii).count (Text.foldAscii name) ≤ 1) :
    cellUnder? cells' name = cellUnder? cells name := by
  have hfiltered := h.filter fun c => Text.sameFolded c.1 name
  have hlength : (cells.filter fun c => Text.sameFolded c.1 name).length ≤ 1 := by
    rw [← List.countP_eq_length_filter]
    rw [List.count, List.countP_map, List.countP_map] at hone
    exact hone
  rw [cellUnder?, cellUnder?, ← List.head?_filter, ← List.head?_filter]
  -- at most one cell is left, so a permutation of what is left is the same list
  generalize cells.filter _ = left at hfiltered hlength
  match left with
  | [] => rw [hfiltered.nil_eq]
  | [c] => rw [List.singleton_perm.mp hfiltered]
  | _ :: _ :: _ => simp at hlength

/-! ### Figures and cells -/

theorem metricFigures_congr {r r' : RowSet}
    (h : ∀ m ∈ metricColumns, r.firstCell? m = r'.firstCell? m) : metricFigures r = metricFigures r' := by
  rw [metricFigures, metricFigures]
  congr 1
  refine List.filterMap_congr fun m hm => ?_
  rw [h m hm]

/-- The figures are made of the cells of the first row under the names of the metrics. -/
theorem summaryStats_congr {r r' : RowSet}
    (h : ∀ m ∈ metricColumns, r.firstCell? m = r'.firstCell? m) (d : Descriptor) :
    summaryStats r d = summaryStats r' d := by
  rw [summaryStats, summaryStats, metricFigures_congr h]

/-! ### Changes that do not show -/

namespace RowSet

/-- A change that the figures do not show: the columns are put in another order together with the
cells of the first row, letters `A`–`Z` of their names change their case, a column that goes by the
name of no metric is put in anywhere together with a cell of the first row, or there are other rows
behind the first. In the first and the third of these the first row has a cell for each column. -/
inductive Rearranged : RowSet → RowSet → Prop
  | permuted {columns columns' : List String} {row row' : List Json} (later : List (List Json))
      (hrow : row.length = columns.length) (hrow' : row'.length = columns'.length)
      (h : (columns.zip row).Perm (columns'.zip row')) :
      Rearranged ⟨columns, row :: later⟩ ⟨columns', row' :: later⟩
  | recased {columns columns' : List String} (rows : List (List Json))
      (h : columns'.map Text.foldAscii = columns.map Text.foldAscii) :
      Rearranged ⟨columns, rows⟩ ⟨columns', rows⟩
  | inserted {before behind : List String} {front back : List Json} (name : String) (cell : Json)
      (later : List (List Json)) (hfront : front.length = before.length)
      (hback : back.length = behind.length)
      (hname : ∀ m ∈ metricColumns, Text.sameFolded name m = false) :
      Rearranged ⟨before ++ behind, (front ++ back) :: later⟩
        ⟨before ++ name :: behind, (front ++ cell :: back) :: later⟩
  | continued (columns : List String) (row : List Json) (later later' : List (List Json)) :
      Rearranged ⟨columns, row :: later⟩ ⟨columns, row :: later'⟩

/-- No two columns go by the name of one metric. This is all that the figures need of the distinct
names; a new column may well go by the name of another one. -/
def Unambiguous (r : RowSet) : Prop :=
  ∀ m ∈ metricColumns, (r.columns.map Text.foldAscii).count (Text.foldAscii m) ≤ 1

theorem unambiguous_of_nodup {r : RowSet} (h : (r.columns.map Text.foldAscii).Nodup) :
    r.Unambiguous :=
  fun m _ => List.nodup_iff_count_le_one.mp h (Text.foldAscii m)

/-- One change keeps the columns unambiguous and the cells under the names of the metrics. -/
theorem Rearranged.step {r r' : RowSet} (h : Rearranged r r') (hr : r.Unambiguous) :
    r'.Unambiguous ∧ ∀ m ∈ metricColumns, r'.firstCell? m = r.firstCell? m := by
  cases h with
  | @permuted columns columns' row row' later hrow hrow' h =>
    have hfst : (columns.zip row).map Prod.fst = columns := List.map_fst_zip hrow.ge
    have hfst' : (columns'.zip row').map Prod.fst = columns' := List.map_fst_zip hrow'.ge
    have hcolumns : columns.Perm columns' := by
      have hnames := h.map Prod.fst
      rwa [hfst, hfst'] at hnames
    constructor
    · intro m hm
      show (columns'.map Text.foldAscii).count _ ≤ 1
      rw [← (hcolumns.map Text.foldAscii).count_eq]
      exact hr m hm
    · intro m hm
      rw [firstCell?_eq, firstCell?_eq]
      refine cellUnder?_perm h ?_
      rw [hfst]
      exact hr m hm
  | @recased columns columns' rows h =>
    constructor
    · intro m hm
      show (columns'.map Text.foldAscii).count _ ≤ 1
      rw [h]
      exact hr m hm
    · intro m _
      -- a column is found by its folded name alone
      have hindex : ∀ columns : List String, columnIndex? ⟨columns, rows⟩ m =
          (columns.map Text.foldAscii).findIdx? (· == Text.foldAscii m) := by
        intro columns
        rw [List.findIdx?_map]
        rfl
      rw [firstCell?, firstCell?, hindex, hindex, h]
  | @inserted before behind front back name cell later hfront hback hname =>
    constructor
    · intro m hm
      have hne : (Text.foldAscii name == Text.foldAscii m) = false := hname m hm
      have hcount := hr m hm
      simp only [List.map_append, List.count_append] at hcount
      show ((before ++ name :: behind).map Text.foldAscii).count _ ≤ 1
      rw [List.map_append, List.map_cons, List.count_append, List.count_cons, hne]
      exact hcount
    · intro m hm
      rw [firstCell?_eq, firstCell?_eq, List.zip_append hfront.symm, List.zip_append hfront.symm,
        List.zip_cons_cons, cellUnder?, cellUnder?, List.find?_append, List.find?_append,
        List.find?_cons, hname m hm]
  | continued columns row later later' =>
    refine ⟨hr, fun m _ => ?_⟩
    rw [firstCell?_eq, firstCell?_eq]

/-- Any number of changes keeps the cells under the names of the metrics. -/
theorem Rearranged.run {r r' : RowSet} (h : Relation.ReflTransGen Rearranged r r')
    (hr : r.Unambiguous) :
    r'.Unambiguous ∧ ∀ m ∈ metricColumns, r'.firstCell? m = r.firstCell? m := by
  induction h with
  | refl => exact ⟨hr, fun _ _ => rfl⟩
  | tail _ hstep ih =>
    obtain ⟨hmiddle, hcells⟩ := ih
    obtain ⟨hlast, hcells'⟩ := hstep.step hmiddle
    exact ⟨hlast, fun m hm => (hcells' m hm).trans (hcells m hm)⟩

end RowSet

/-- A result whose columns have distinct names up to the case of `A`–`Z` keeps its figures, whatever
the descriptor, when its columns are put in another order, their names change their case, columns of
other names are put in, and the rows behind the first are replaced, one such change after the other.
-/
theorem summaryStats_rearranged {r r' : RowSet} (hnames : (r.columns.map Text.foldAscii).Nodup)
    (h : Relation.ReflTransGen RowSet.Rearranged r r') (d : Descriptor) :
    summaryStats r' d = summaryStats r d := by
  obtain ⟨-, hcells⟩ := RowSet.Rearranged.run h (RowSet.unambiguous_of_nodup hnames)
  exact summaryStats_congr hcells d

/-- The same count and total from two sources: in capitals, and behind a column of their own kind in
another order, with a second row. -/
theorem summaryStats_rearranged_capitals :
    let r : RowSet := ⟨["TOTAL_COUNT", "Total_Amount"], [[.int 2, .text "7.5"]]⟩
    let r' : RowSet := ⟨["region", "total_amount", "total_count"],
      [[.null, .text "7.5", .int 2], [.text "north"]]⟩
    (r.columns.map Text.foldAscii).Nodup ∧ Relation.ReflTransGen RowSet.Rearranged r r' ∧
      summaryStats r' { entity := "loans" } = summaryStats r { entity := "loans" } := by
  intro r r'
  have hnames : (r.columns.map Text.foldAscii).Nodup := by decide
  have hsmall : RowSet.Rearranged r ⟨["total_count", "total_amount"], [[.int 2, .text "7.5"]]⟩ :=
    .recased _ (by decide)
  have hturned : RowSet.Rearranged ⟨["total_count", "total_amount"], [[.int 2, .text "7.5"]]⟩
      ⟨["total_amount", "total_count"], [[.text "7.5", .int 2]]⟩ :=
    .permuted [] rfl rfl (List.Perm.swap _ _ _)
  have hregion : RowSet.Rearranged ⟨["total_amount", "total_count"], [[.text "7.5", .int 2]]⟩
      ⟨["region", "total_amount", "total_count"], [[.null, .text "7.5", .int 2]]⟩ :=
    @RowSet.Rearranged.inserted [] _ [] _ "region" .null [] rfl rfl (by decide)
  have hrun : Relation.ReflTransGen RowSet.Rearranged r r' :=
    ((Relation.ReflTransGen.single hsmall).tail hturned).tail hregion |>.tail
      (.continued _ _ [] [[.text "north"]])
  exact ⟨hnames, hrun, summaryStats_rearranged hnames hrun _⟩

/-! ### Names in small letters -/

/-- The names of the metrics are in ASCII and have no `k`. -/
theorem metricColumns_not_foreign :
    ∀ m ∈ metricColumns, ∀ c ∈ (Text.foldAscii m).toList, Text.isForeign c = false := by
  have hall : (metricColumns.all fun m =>
      (Text.foldAscii m).toList.all fun c => !Text.isForeign c) = true := by
    decide
  intro m hm c hc
  have hname := List.all_eq_true.mp hall m hm
  simpa using List.all_eq_true.mp hname c hc

theorem RowSet.firstCell?_lowerColumns (r : RowSet) {m : String} (hm : m ∈ metricColumns) :
    r.lowerColumns.firstCell? m = r.firstCell? m := by
  have hindex : r.lowerColumns.columnIndex? m = r.columnIndex? m := by
    have hname : (fun c => Text.sameFolded c m) ∘ Text.lower = fun c => Text.sameFolded c m :=
      funext (Text.sameFolded_lower (metricColumns_not_foreign m hm))
    rw [columnIndex?, columnIndex?, lowerColumns, List.findIdx?_map, hname]
  have hrows : r.lowerColumns.rows = r.rows := rfl
  rw [firstCell?, firstCell?, hindex, hrows]

/-- Putting the names of the columns in small letters, in all scripts, does not change the figures,
whatever the names and however long the rows. So two reports on the same rows, one with the names in
small letters and one with the names as they are, differ in nothing but the names in their records.
-/
theorem summaryStats_lowerColumns (r : RowSet) (d : Descriptor) :
    summaryStats r.lowerColumns d = summaryStats r d ∧
      ∀ (sample : RowSet) (elapsed : Elapsed), ∃ kept small : Report,
        shape d r sample elapsed = .report kept ∧
        shape d r.lowerColumns sample.lowerColumns elapsed = .report small ∧
        small = { kept with samples := small.samples, breakdowns := small.breakdowns } := by
  have hstats : summaryStats r.lowerColumns d = summaryStats r d :=
    summaryStats_congr (fun m hm => r.firstCell?_lowerColumns hm) d
  refine ⟨hstats, fun sample elapsed => ⟨_, _, rfl, rfl, ?_⟩⟩
  rw [hstats]
  rfl

end LedgerQuery
