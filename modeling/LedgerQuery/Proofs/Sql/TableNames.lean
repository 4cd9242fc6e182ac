import Mathlib.Data.List.Forall2
import LedgerQuery.Proofs.Sql.Names

/-!
# Table names part by part

The text of a table name is cut at the dots that stand outside of double quotes. There are as many
pieces as the name has parts, and each piece gives back its part in the case of the dialect: a plain
name as it stands, any other one from between its quotes. A dot inside of a part is always quoted,
so that no part is taken for two.

* `Text.cutUnquoted`: cuts at a mark outside of quotes.
* `cutUnquoted_intercalate`: pieces that are passed as a whole are cut apart again.
* `Identifier.Spells`: the piece of a text that stands for a name.
* `Dialect.tableText_faithful`: the pieces of a table name, and which names have one text.
-/

namespace LedgerQuery

/-! ### Cutting outside of quotes -/

namespace Text

variable {mark quote : Char}

/-- Cuts at every occurrence of a mark that is met outside of quotes. The scan begins between quotes
if `quoted` says so, and each quote changes sides. -/
def cutUnquoted (mark quote : Char) : Bool → List Char → List (List Char)
  | _, [] => [[]]
  | quoted, c :: r =>
    if c = mark ∧ quoted = false then [] :: cutUnquoted mark quote false r
    else (cutUnquoted mark quote (if c = quote then !quoted else quoted) r).modifyHead (c :: ·)

/-- From one side of the quotes the text is passed without a cut, and the scan ends on the other
side or the same one. -/
def Passes (mark quote : Char) (start : Bool) (cs : List Char) (stop : Bool) : Prop :=
  ∀ r, cutUnquoted mark quote start (cs ++ r) =
    (cutUnquoted mark quote stop r).modifyHead (cs ++ ·)

theorem Passes.nil (start : Bool) : Passes mark quote start [] start := by
  intro r
  cases h : cutUnquoted mark quote start r with
  | nil => simp [h]
  | cons p ps => simp [h]

theorem Passes.append {start middle stop : Bool} {cs ds : List Char}
    (hcs : Passes mark quote start cs middle) (hds : Passes mark quote middle ds stop) :
    Passes mark quote start (cs ++ ds) stop := by
  intro r
  rw [List.append_assoc, hcs, hds, List.modifyHead_modifyHead]
  congr 1
  funext p
  exact (List.append_assoc cs ds p).symm

theorem Passes.cons {start stop : Bool} {c : Char} {cs : List Char}
    (hc : ¬(c = mark ∧ start = false))
    (hcs : Passes mark quote (if c = quote then !start else start) cs stop) :
    Passes mark quote start (c :: cs) stop := by
  intro r
  rw [List.cons_append, cutUnquoted, if_neg hc, hcs, List.modifyHead_modifyHead]
  rfl

/-- Outside of quotes, a text with neither marks nor quotes is passed. -/
theorem passes_of_unmarked {cs : List Char} (h : ∀ c ∈ cs, c ≠ mark ∧ c ≠ quote) :
    Passes mark quote false cs false := by
  induction cs with
  | nil => exact .nil false
  | cons c cs ih =>
    obtain ⟨hmark, hquote⟩ := h c List.mem_cons_self
    refine .cons (fun hc => hmark hc.1) ?_
    rw [if_neg hquote]
    exact ih fun d hd => h d (List.mem_cons_of_mem c hd)

/-- Between quotes, a text with its quotes doubled is passed: of two quotes the first leads out and
the second in again. -/
theorem passes_double (hne : quote ≠ mark) (cs : List Char) :
    Passes mark quote true (Quoted.double quote cs) true := by
  induction cs with
  | nil => exact .nil true
  | cons c cs ih =>
    by_cases hc : c = quote
    · rw [Quoted.double, if_pos hc]
      refine .cons (by simp) ?_
      rw [if_pos rfl]
      refine .cons (fun h => hne h.1) ?_
      rw [if_pos rfl]
      exact ih
    · rw [Quoted.double, if_neg hc]
      refine .cons (by simp) ?_
      rw [if_neg hc]
      exact ih

theorem passes_chars (hne : quote ≠ mark) (cs : List Char) :
    Passes mark quote false (Quoted.chars quote cs) false := by
  have hclose : Passes mark quote true [quote] false := by
    refine .cons (by simp) ?_
    rw [if_pos rfl]
    exact .nil false
  rw [Quoted.chars, List.cons_append]
  refine .cons (fun h => hne h.1) ?_
  rw [if_pos rfl]
  exact (passes_double hne cs).append hclose

/-- Pieces that are passed are cut apart again at the marks between them. -/
theorem cutUnquoted_intercalate {parts : List (List Char)}
    (h : ∀ p ∈ parts, Passes mark quote false p false) (hne : parts ≠ []) :
    cutUnquoted mark quote false (List.intercalate [mark] parts) = parts := by
  induction parts with
  | nil => exact absurd rfl hne
  | cons p parts ih =>
    have hp := h p List.mem_cons_self
    cases parts with
    | nil =>
      have hlast := hp []
      rw [List.append_nil] at hlast
      rw [List.intercalate_singleton, hlast]
      simp [cutUnquoted]
    | cons q parts =>
      have hrest := ih (fun r hr => h r (List.mem_cons_of_mem p hr)) (List.cons_ne_nil q parts)
      rw [List.intercalate_cons_cons, List.append_assoc, hp, List.singleton_append, cutUnquoted,
        if_pos ⟨rfl, rfl⟩, hrest]
      simp

end Text

namespace Sql

open Text (cutUnquoted)

/-! ### Pieces and names -/

namespace Identifier

/-- The piece of a text that stands for a name: a plain name as it is, and for any other name a
text between double quotes in which the name is found when doubled quotes are taken for one. -/
inductive Spells : String → List Char → Prop
  | plain {name : String} (h : isPlain name = true) : Spells name name.toList
  | quoted {name : String} {piece : List Char} (h : isPlain name = false)
      (hread : Text.Quoted.read '"' piece = some (name.toList, [])) : Spells name piece

theorem spells_render (name : String) : Spells name (render name).toList := by
  cases h : isPlain name with
  | true =>
    rw [render_of_isPlain h]
    exact .plain h
  | false =>
    rw [render_of_not_isPlain h]
    exact .quoted h (Text.Quoted.read_toList_quote '"' name)

/-- A piece that stands for a name is the name as it is written. -/
theorem Spells.eq_render {name : String} {piece : List Char} (h : Spells name piece) :
    piece = (render name).toList := by
  cases h with
  | plain hplain => rw [render_of_isPlain hplain]
  | quoted hquoted hread =>
    obtain ⟨hpiece, -⟩ := Text.Quoted.read_toList_iff.mp hread
    rw [render_of_not_isPlain hquoted, hpiece, List.append_nil, quote]

/-- No piece stands for two names. -/
theorem Spells.unique {name other : String} {piece : List Char} (h : Spells name piece)
    (h' : Spells other piece) : name = other := by
  have hsame := h.eq_render.symm.trans h'.eq_render
  exact render_injective (String.toList_inj.mp hsame)

/-- No dot of a written name is met outside of quotes. -/
theorem passes_render (name : String) : Text.Passes '.' '"' false (render name).toList false := by
  cases h : isPlain name with
  | true =>
    rw [render_of_isPlain h]
    refine Text.passes_of_unmarked fun c hc => ?_
    have htail := isTail_of_isWord ((isPlain_iff name).mp h).1 c hc
    constructor <;> rintro rfl <;> exact absurd htail (by decide)
  | false =>
    rw [render_of_not_isPlain h, quote, Text.Quoted.toList_quote]
    exact Text.passes_chars (by decide) name.toList

end Identifier

open Identifier (Spells)

/-! ### Table names -/

namespace Dialect

/-- The pieces between the dots outside of quotes are the parts as they are written. -/
theorem cutUnquoted_tableText (d : Dialect) (s : String) :
    cutUnquoted '.' '"' false (d.tableText s).toList =
      (d.tableParts s).map fun p => (Identifier.render p).toList := by
  rw [toList_tableText]
  refine Text.cutUnquoted_intercalate ?_ ?_
  · intro piece hpiece
    obtain ⟨p, -, rfl⟩ := List.mem_map.mp hpiece
    exact Identifier.passes_render p
  · rw [ne_eq, List.map_eq_nil_iff]
    exact tableParts_ne_nil d s

theorem spells_tableParts (d : Dialect) (s : String) :
    List.Forall₂ Spells (d.tableParts s) (cutUnquoted '.' '"' false (d.tableText s).toList) := by
  rw [cutUnquoted_tableText, List.forall₂_map_right_iff, List.forall₂_same]
  intro p _
  exact Identifier.spells_render p

theorem tableText_eq_iff (d : Dialect) (r s : String) :
    d.tableText r = d.tableText s ↔ d.tableParts r = d.tableParts s := by
  constructor
  · intro h
    have hr := d.spells_tableParts r
    rw [h] at hr
    -- the same pieces stand for the parts of both
    have hunique : Relator.LeftUnique Spells := fun _ _ _ hp hq => hp.unique hq
    exact hunique.forall₂ hr (d.spells_tableParts s)
  · intro h
    rw [tableText, tableText, h]

end Dialect

theorem nameParts_injective : Function.Injective nameParts := by
  have hofList : Function.Injective (List.map String.ofList) :=
    List.map_injective_iff.mpr fun _ _ => String.ofList_injective
  intro r s h
  have hparts := hofList h
  rw [← String.toList_inj, ← Text.intercalate_splitAt '.' r.toList, hparts,
    Text.intercalate_splitAt]

/-- Cut at the dots outside of double quotes, the text of a table name has as many pieces as the
name has parts between its dots, and piece by piece they spell these parts in the case of the
dialect. So two names have one text exactly if their parts agree in that case, and in the dialect
that keeps the case no two names have one text. -/
theorem Dialect.tableText_faithful (d : Dialect) :
    (∀ s, List.Forall₂ (fun part piece => Spells (d.tableCase part) piece) (nameParts s)
      (cutUnquoted '.' '"' false (d.tableText s).toList)) ∧
    (∀ r s, d.tableText r = d.tableText s ↔
      (nameParts r).map d.tableCase = (nameParts s).map d.tableCase) ∧
    Function.Injective (tableText .sqlite) := by
  refine ⟨?_, d.tableText_eq_iff, ?_⟩
  · intro s
    exact List.forall₂_map_left_iff.mp (d.spells_tableParts s)
  · intro r s h
    have hparts := (tableText_eq_iff .sqlite r s).mp h
    have hkept : ∀ s, tableParts .sqlite s = nameParts s := by
      intro s
      exact List.map_id'' tableCase_sqlite (nameParts s)
    rw [hkept, hkept] at hparts
    exact nameParts_injective hparts

/-- The capital form of a ligature is a plain name, and an empty part and a part with a quote are
quoted. -/
example : Dialect.tableText .snowflake "ﬁ..a\"b" = "FI.\"\".\"A\"\"B\"" := by
  decide +kernel

end Sql

end LedgerQuery
