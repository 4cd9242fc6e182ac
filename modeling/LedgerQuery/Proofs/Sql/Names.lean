import LedgerQuery.Proofs.Sql.Containment
import LedgerQuery.Proofs.Text.Readable

/-!
# Names read back

A name in a statement ends at the first character that belongs to no plain name, or at its closing
quote. Whatever the names hold, quotes, dots and line ends included, they can be read off the text.

* `Identifier.read_render`: reading a name takes back what was written.
* `Identifier.render_injective`: so no two names are written alike.
* `readable_tableText`: the parts of a table name can be told from its text.
* `readable_comparison`: so can a name that is compared with a placeholder.
-/

namespace LedgerQuery.Sql

open Text (Readable StartsWith chain startsWith_nil startsWith_cons)

namespace Identifier

/-- A character that neither continues a plain name nor opens a quoted one. -/
def endsName (c : Char) : Bool :=
  !isTail c && c != '"'

/-- Reads a name, and what follows it. -/
def read (cs : List Char) : Option (String × List Char) :=
  if cs.head? = some '"' then (Text.Quoted.read '"' cs).map fun p => (String.ofList p.1, p.2)
  else some (String.ofList (cs.takeWhile isTail), cs.dropWhile isTail)

theorem head?_of_isWord {cs : List Char} (h : isWord cs = true) (t : List Char) :
    (cs ++ t).head? ≠ some '"' := by
  cases cs with
  | nil => simp [isWord] at h
  | cons c r =>
    intro he
    simp only [List.cons_append, List.head?_cons, Option.some_inj] at he
    rw [he] at h
    simp [isWord, isHead] at h

theorem read_render (s : String) {t : List Char} (ht : StartsWith endsName t) :
    read ((render s).toList ++ t) = some (s, t) := by
  rw [render]
  split
  · next h =>
    have hw := ((isPlain_iff s).mp h).1
    have hs : StartsWith (fun c => !isTail c) t := ht.mono (by simp +contextual [endsName])
    obtain ⟨h₁, h₂⟩ := Text.takeWhile_append_of_stops
      (fun c hc => by simp [isTail_of_isWord hw c hc]) hs
    simp only [Bool.not_not] at h₁ h₂
    rw [read, if_neg (head?_of_isWord hw t), h₁, h₂, String.ofList_toList]
  · -- a quote behind the closing one would be read as one of two
    have hq : t.head? ≠ some '"' := by
      intro he
      have := ht '"' he
      simp [endsName] at this
    rw [quote, Text.Quoted.toList_quote, read, Text.Quoted.read_quote _ _ _ hq]
    simp [Text.Quoted.chars]

theorem readable_render :
    Readable (fun _ => True) (fun s : String => (render s).toList) (StartsWith endsName) :=
  .of_read read fun s _ _ ht => read_render s ht

theorem render_injective : Function.Injective render := by
  intro r s h
  have hread := readable_render r s [] [] trivial trivial Text.startsWith_nil Text.startsWith_nil
  exact (hread (congrArg (fun w : String => w.toList ++ []) h)).1

end Identifier

open Identifier (endsName)

/-! ### Table names -/

theorem tableParts_ne_nil (d : Dialect) (s : String) : d.tableParts s ≠ [] := by
  simp [Dialect.tableParts, nameParts, Text.splitAt_ne_nil]

/-- The parts of a table name can be told from its text. -/
theorem readable_tableText (d : Dialect) {r s : String} {t u : List Char}
    (ht : StartsWith (fun c => endsName c && c != '.') t)
    (hu : StartsWith (fun c => endsName c && c != '.') u)
    (he : (d.tableText r).toList ++ t = (d.tableText s).toList ++ u) :
    d.tableParts r = d.tableParts s ∧ t = u := by
  have hafter : ∀ {t}, StartsWith (fun c => endsName c && c != '.') t →
      StartsWith endsName t ∧ ¬ ['.'] <+: t := by
    intro t ht
    refine ⟨ht.mono (by simp +contextual), ?_⟩
    rintro ⟨v, rfl⟩
    exact absurd (startsWith_cons.mp ht) (by simp)
  have hc : Readable _ (chain ['.'] fun s : String => (Identifier.render s).toList) _ :=
    Identifier.readable_render.chain fun t => startsWith_cons.mpr (by decide)
  have hr := Identifier.readable_render.pair hc (by
    intro ps t _ ht
    cases ps with
    | nil => exact ht.1
    | cons p ps => exact startsWith_cons.mpr (by decide))
  rw [toList_tableText, toList_tableText] at he
  cases hp : d.tableParts r with
  | nil => exact absurd hp (tableParts_ne_nil d r)
  | cons p ps =>
    cases hq : d.tableParts s with
    | nil => exact absurd hq (tableParts_ne_nil d s)
    | cons q qs =>
      rw [hp, hq, Text.intercalate_cons_eq_chain, Text.intercalate_cons_eq_chain] at he
      obtain ⟨hpq, htu⟩ := hr (p, ps) (q, qs) t u (by simp) (by simp) (hafter ht) (hafter hu) he
      rw [Prod.mk.injEq] at hpq
      exact ⟨by rw [hpq.1, hpq.2], htu⟩

/-! ### Comparisons -/

/-- The text behind the name in a comparison. -/
def operatorText (op : Operator) : List Char :=
  ' ' :: op.text.toList ++ [' ', '?']

/-- A name compared with a placeholder. -/
def comparisonText (c : String × Operator) : List Char :=
  (Identifier.render c.1).toList ++ operatorText c.2

theorem readable_operator : Readable (fun _ => True) operatorText fun _ => True := by
  intro a b t u _ _ _ _ he
  cases a <;> cases b <;> simp [operatorText, Operator.text] at he ⊢ <;> exact he

theorem readable_comparison : Readable (fun _ => True) comparisonText fun _ => True := by
  have h := Identifier.readable_render.pair readable_operator
    fun op t _ _ => startsWith_cons.mpr (by decide)
  intro a b t u _ _ _ _ he
  exact h a b t u ⟨trivial, trivial⟩ ⟨trivial, trivial⟩ trivial trivial he

end LedgerQuery.Sql
