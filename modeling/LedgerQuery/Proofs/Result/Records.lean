import Mathlib.Data.List.Forall2
import LedgerQuery.Result.Basic
import LedgerQuery.Proofs.Json.Repeated

/-!
# What records tell of their rows

A record has the names of the columns that its row has cells for, each of them once. If a name
stands over several cells, the record keeps the last one, while a search by name finds the first
column. Where the names are distinct up to the case of `A`–`Z` and each of them has a cell, both
agree, and the row can be read off the record.

* `RowSet.Tells`: the names of a record and the cells under them.
* `RowSet.Lossless`: what a record tells of a row without repeated, missing or surplus cells.
* `RowSet.records_faithful`: records tell of their rows in order, and lose nothing of such rows.
-/

namespace LedgerQuery.RowSet

open Json (collect Latest)

/-! ### Names and places -/

/-- Of the first `n` columns, the one at place `i` is the last that has the name. -/
structure LastAt (columns : List String) (n : Nat) (name : String) (i : Nat) : Prop where
  lt : i < n
  named : columns[i]? = some name
  last : ∀ j, i < j → j < n → columns[j]? ≠ some name

/-- A record has the distinct names of the columns that the row has cells for, in the order in which
they first occur, and under each of them the cell at the last place that has the name. -/
structure Tells (columns : List String) (row : List Json) (rec : Record) : Prop where
  keys : rec.map Prod.fst = (columns.take (min columns.length row.length)).eraseDups
  value : ∀ name cell, rec.lookup name = some cell ↔
    ∃ i, LastAt columns (min columns.length row.length) name i ∧ row[i]? = some cell

/-- The names of the columns are distinct up to the case of `A`–`Z`, and each of them has one cell. -/
def Regular (columns : List String) (row : List Json) : Prop :=
  (columns.map Text.foldAscii).Nodup ∧ row.length = columns.length

/-- The record has all columns and all cells in order, and under a column it has the cell at the
place where the column is found by its name in any case. -/
structure Lossless (r : RowSet) (row : List Json) (rec : Record) : Prop where
  keys : rec.map Prod.fst = r.columns
  cells : rec.map Prod.snd = row
  found : ∀ i column, r.columns[i]? = some column → ∀ name, Text.sameFolded name column = true →
    r.columnIndex? name = some i ∧ ∃ cell, row[i]? = some cell ∧ rec.lookup column = some cell

theorem map_fst_zip (columns : List String) (row : List Json) :
    (columns.zip row).map Prod.fst = columns.take (min columns.length row.length) := by
  rw [List.zip_eq_zip_take_min, List.map_fst_zip]
  simp

/-- The last cell under a name, by its place. -/
theorem lastAt_iff {columns : List String} {row : List Json} {name : String} {cell : Json} :
    (∃ before behind, columns.zip row = before ++ (name, cell) :: behind ∧
        name ∉ behind.map Prod.fst) ↔
      ∃ i, LastAt columns (min columns.length row.length) name i ∧ row[i]? = some cell := by
  -- among the first columns, a name stands at a place of the row's cells
  have hplace : ∀ j, ((columns.zip row).map Prod.fst)[j]? = some name ↔
      j < min columns.length row.length ∧ columns[j]? = some name := by
    intro j
    rw [map_fst_zip, List.getElem?_take]
    by_cases hj : j < min columns.length row.length <;> simp [hj]
  constructor
  · rintro ⟨before, behind, hzip, hname⟩
    have hhere : (columns.zip row)[before.length]? = some (name, cell) := by simp [hzip]
    obtain ⟨hnamed, hcell⟩ := List.getElem?_zip_eq_some.mp hhere
    have hlt := ((hplace before.length).mp (by simp [hzip])).1
    refine ⟨before.length, ⟨hlt, hnamed, fun j hij hj hagain => hname ?_⟩, hcell⟩
    have hbehind := (hplace j).mpr ⟨hj, hagain⟩
    obtain ⟨k, rfl⟩ : ∃ k, j = before.length + (k + 1) := ⟨j - before.length - 1, by omega⟩
    rw [hzip, List.map_append, List.map_cons, List.getElem?_append_right (by simp)] at hbehind
    exact List.mem_of_getElem? (i := k) (by simpa using hbehind)
  · rintro ⟨i, ⟨hi, hnamed, hlast⟩, hcell⟩
    have hhere : (columns.zip row)[i]? = some (name, cell) :=
      List.getElem?_zip_eq_some.mpr ⟨hnamed, hcell⟩
    obtain ⟨hlength, hget⟩ := List.getElem?_eq_some_iff.mp hhere
    refine ⟨(columns.zip row).take i, (columns.zip row).drop (i + 1), ?_, fun hname => ?_⟩
    · rw [← hget, List.getElem_cons_drop, List.take_append_drop]
    · rw [List.map_drop] at hname
      obtain ⟨k, hk⟩ := List.mem_iff_getElem?.mp hname
      rw [List.getElem?_drop] at hk
      obtain ⟨hlt, hagain⟩ := (hplace (i + 1 + k)).mp hk
      exact hlast (i + 1 + k) (by omega) hlt hagain

theorem tells_record (r : RowSet) (row : List Json) : Tells r.columns row (r.record row) where
  keys := by
    rw [← map_fst_zip]
    exact Json.keys_collect (r.columns.zip row)
  value name cell :=
    (Json.lookup_collect_eq_some_iff (r.columns.zip row) name cell).trans lastAt_iff

/-! ### Regular rows -/

/-- Names that differ up to the case of `A`–`Z` are different names. -/
theorem Regular.nodup {columns : List String} {row : List Json} (h : Regular columns row) :
    columns.Nodup :=
  List.Nodup.of_map Text.foldAscii h.1

/-- The record of a regular row is the row under the names of the columns. -/
theorem record_of_regular {r : RowSet} {row : List Json} (h : Regular r.columns row) :
    r.record row = r.columns.zip row := by
  refine Json.collect_of_nodup ?_
  rw [List.map_fst_zip h.2.ge]
  exact h.nodup

/-- Of columns with distinct folded names, the one that goes by a name is the first that does. -/
theorem columnIndex?_eq_some {r : RowSet} (h : (r.columns.map Text.foldAscii).Nodup) {i : Nat}
    {column name : String} (hcolumn : r.columns[i]? = some column)
    (hname : Text.sameFolded name column = true) : r.columnIndex? name = some i := by
  obtain ⟨hi, hget⟩ := List.getElem?_eq_some_iff.mp hcolumn
  rw [Text.sameFolded_iff] at hname
  rw [columnIndex?, List.findIdx?_eq_some_iff_getElem]
  refine ⟨hi, ?_, fun j hj hsame => ?_⟩
  · rw [hget, Text.sameFolded_iff, hname]
  · have hfolded : (r.columns.map Text.foldAscii)[j]? = (r.columns.map Text.foldAscii)[i]? := by
      rw [List.getElem?_map, List.getElem?_map, hcolumn, List.getElem?_eq_getElem (hj.trans hi),
        Option.map_some, Option.map_some, (Text.sameFolded_iff _ _).mp hsame, hname]
    have hlength : j < (r.columns.map Text.foldAscii).length := by
      rw [List.length_map]
      exact hj.trans hi
    exact absurd ((List.getElem?_inj hlength h).mp hfolded) (by omega)

theorem lossless_record {r : RowSet} {row : List Json} (h : Regular r.columns row) :
    Lossless r row (r.record row) where
  keys := by rw [record_of_regular h, List.map_fst_zip h.2.ge]
  cells := by rw [record_of_regular h, List.map_snd_zip h.2.le]
  found i column hcolumn name hname := by
    obtain ⟨hi, -⟩ := List.getElem?_eq_some_iff.mp hcolumn
    have hlength := h.2
    have hcell : row[i]? = some row[i] := List.getElem?_eq_getElem (by omega)
    refine ⟨columnIndex?_eq_some h.1 hcolumn hname, row[i], hcell, ?_⟩
    rw [(r.tells_record row).value]
    -- no other column has the name, so this one is the last that has it
    refine ⟨i, ⟨by omega, hcolumn, fun j hij _ hagain => ?_⟩, hcell⟩
    exact absurd ((List.getElem?_inj hi h.nodup).mp (hcolumn.trans hagain.symm)) (by omega)

/-- There is one record for each row, in order. It has the distinct names of the columns that the
row has cells for, and under each name the cell of the last of these columns that has it. If the
names of the columns are distinct up to the case of `A`–`Z` and the row has one cell for each, the
record loses nothing: it gives back the columns and the cells in order, and each name in any case
finds the column whose cell the record holds. The first record is that of the first row. -/
theorem records_faithful (r : RowSet) :
    List.Forall₂ (fun row rec =>
        Tells r.columns row rec ∧ (Regular r.columns row → Lossless r row rec)) r.rows r.records ∧
      r.firstRecord? = r.records.head? := by
  refine ⟨?_, r.firstRecord?_eq⟩
  rw [records, List.forall₂_map_right_iff, List.forall₂_same]
  exact fun row _ => ⟨r.tells_record row, lossless_record⟩

/-- A row with a cell for each of two columns, found in any case, in front of a shorter one. -/
theorem records_faithful_capitals :
    let r : RowSet := ⟨["ID", "amount"], [[.int 7, .null], [.int 8]]⟩
    Regular r.columns [.int 7, .null] ∧
      ∃ rec, r.firstRecord? = some rec ∧ Lossless r [.int 7, .null] rec ∧
        r.columnIndex? "id" = some 0 ∧ rec.lookup "ID" = some (.int 7) := by
  intro r
  have hregular : Regular r.columns [.int 7, .null] := ⟨by decide, rfl⟩
  obtain ⟨hrecords, hfirst⟩ := records_faithful r
  obtain ⟨⟨-, hlossless⟩, -⟩ := List.forall₂_cons.mp hrecords
  obtain ⟨hindex, cell, hcell, hvalue⟩ :=
    (hlossless hregular).found 0 "ID" rfl "id" (by decide)
  obtain rfl := Option.some.inj hcell
  exact ⟨hregular, _, hfirst, hlossless hregular, hindex, hvalue⟩

/-- A repeated name keeps its first place and has its last cell, as far as the row has cells. -/
example : (⟨["a", "b", "a"], [[.int 1, .int 2, .int 3, .int 4], [.int 5]]⟩ : RowSet).records =
    [[("a", .int 3), ("b", .int 2)], [("a", .int 5)]] := rfl

end LedgerQuery.RowSet
