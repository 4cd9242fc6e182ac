import LedgerQuery.Proofs.Compile.Outline
import LedgerQuery.Proofs.Descriptor.Filters

/-!
# Filters given more than once

A column may be given more than one filter, by putting filters on a descriptor one after another or
by the members of an object in its text. What is left, and what is compiled, is one filter for each
column, where the column was first given, with the value that was given last.

* `Descriptor.opening`: the text of a statement in front of its conditions.
* `Descriptor.toList_sql_withFilters`, `Descriptor.binds_withFilters`: the statement of a descriptor
  with filters put on it.
* `Descriptor.filters_latest`: the filters that are left, read and compiled.
-/

namespace LedgerQuery

open Sql (Dialect Operator comparisonText)

namespace Descriptor

/-- The text of a statement in front of its conditions. -/
def opening (d : Descriptor) (dialect : Dialect) : List Char :=
  "SELECT".toList ++ (itemsText (fun e => e.text.toList) d.entries ++
    ("\nFROM ".toList ++ (dialect.tableText d.table.name).toList))

/-- The comparisons of the bounds on dates, if there are both. -/
def boundComparisons (d : Descriptor) : List (String × Operator) :=
  if d.dates.isSome then [("date", .atLeast), ("date", .atMost)] else []

variable {d : Descriptor}

/-- One comparison for each distinct column stands in the statement, and then the bounds. -/
theorem toList_sql_withFilters (hempty : d.filters = []) (given : List (String × Scalar))
    (dialect : Dialect) :
    ((d.withFilters given).compile dialect).sql.toList =
      d.opening dialect ++
        (conditionsText comparisonText
            ((given.map Prod.fst).eraseDups.map (fun c => (c, .equal)) ++ d.boundComparisons) ++
          closing dialect d.grouping d.figures) := by
  have hcolumns : (Json.collect given).map (fun f => (f.1, Operator.equal)) =
      (given.map Prod.fst).eraseDups.map fun c => (c, .equal) := by
    rw [← Json.keys_collect, List.map_map]
    rfl
  have hcomparisons : (d.withFilters given).comparisons =
      (given.map Prod.fst).eraseDups.map (fun c => (c, .equal)) ++ d.boundComparisons := by
    rw [withFilters_eq hempty, comparisons, hcolumns]
    rfl
  refine (toList_sql (d.withFilters given) dialect).trans ?_
  rw [hcomparisons, withFilters_eq hempty]
  -- unfolded as it stands, since an equation for it would evaluate the words in it
  delta opening
  simp only [List.append_assoc]
  rfl

/-- The values of the filters that are left are bound, and then those of the bounds. -/
theorem binds_withFilters (hempty : d.filters = []) (given : List (String × Scalar))
    (dialect : Dialect) :
    List.Forall₂ Scalar.Binds ((d.withFilters given).filters.map Prod.snd ++ d.dateValues)
      ((d.withFilters given).compile dialect).params := by
  have hdates : (d.withFilters given).dateValues = d.dateValues := by
    rw [withFilters_eq hempty]
    rfl
  rw [← hdates]
  exact (d.withFilters given).binds_query

/-- Filters put on a descriptor one after another leave one for each column, where the column was
first given, with the value that was given last; a text that gives the filters as members of an
object is read as the same descriptor, in whatever way their values are spelled; and the statement
compares each of these columns once, in that order, and binds what stands for these values and then
for the bounds. -/
theorem filters_latest (hempty : d.filters = []) (given : List (String × Scalar)) :
    let built := d.withFilters given
    Json.Latest given built.filters ∧
      (d.Writable →
        (∀ texts, List.Forall₂ (fun t f => t.1 = f.1 ∧ Scalar.Spelling t.2 f.2) texts given →
          parse (d.textWith texts) = .ok built) ∧
        ((∀ f ∈ given, f.2.Writable) →
          parse ({ d with filters := given } : Descriptor).toJson.render = .ok built)) ∧
      ∀ dialect,
        (built.compile dialect).sql.toList =
          d.opening dialect ++
            (conditionsText comparisonText
                ((given.map Prod.fst).eraseDups.map (fun c => (c, .equal)) ++ d.boundComparisons) ++
              closing dialect d.grouping d.figures) ∧
        List.Forall₂ Scalar.Binds (built.filters.map Prod.snd ++ d.dateValues)
          (built.compile dialect).params := by
  refine ⟨?_, fun hd => ⟨fun texts h => parse_textWith hd hempty h,
    fun h => parse_render_given hd hempty h⟩, fun dialect =>
      ⟨toList_sql_withFilters hempty given dialect, binds_withFilters hempty given dialect⟩⟩
  rw [withFilters_eq hempty]
  exact Json.latest_collect given

/-- The status is given twice: it keeps its first place and its last value. -/
theorem filters_latest_status :
    let d : Descriptor :=
      { entity := "loans", period := some (.range (.text "2024-01-01") (.text "2024-12-31")) }
    let given : List (String × Scalar) :=
      [("status", .text "active"), ("branch_id", .int 4), ("insured", .bool true),
        ("rate", .float 4.5), ("status", .text "default")]
    let built := d.withFilters given
    built.filters = [("status", .text "default"), ("branch_id", .int 4), ("insured", .bool true),
        ("rate", .float 4.5)] ∧
      Json.Latest given built.filters ∧
      parse (d.textWith
        [("status", "\"active\"".toList), ("branch_id", "4".toList), ("insured", "true".toList),
          ("rate", "45e-1".toList), ("status", "\"def\\u0061ult\"".toList)]) = .ok built ∧
      (built.compile .sqlite).params =
        [.text "default", .int 4, .bool true, .float 4.5, .text "2024-01-01",
          .text "2024-12-31"] := by
  intro d given built
  have h := filters_latest (d := d) rfl given
  have hperiod : (Period.range (.text "2024-01-01") (.text "2024-12-31")).Writable :=
    List.forall_mem_cons.mpr ⟨trivial, List.forall_mem_singleton.mpr trivial⟩
  have hd : d.Writable :=
    { writable_new "loans" with period := fun _ hp => Option.some.inj hp ▸ hperiod }
  refine ⟨rfl, h.1, (h.2.1 hd).1 _ ?_, Scalar.forall₂_binds_iff.mp (h.2.2 .sqlite).2⟩
  exact .cons ⟨rfl, Scalar.spelling_of_toOption (by decide) (by decide +kernel)⟩
    (.cons ⟨rfl, Scalar.spelling_of_toOption (by decide) (by decide +kernel)⟩
      (.cons ⟨rfl, .trueWord⟩
        (.cons ⟨rfl, Scalar.spelling_of_toOption (by decide) (by decide +kernel)⟩
          (.cons ⟨rfl, Scalar.spelling_of_toOption (by decide) (by decide +kernel)⟩ .nil))))

end Descriptor

end LedgerQuery
