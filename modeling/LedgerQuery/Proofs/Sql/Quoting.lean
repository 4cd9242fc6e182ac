import LedgerQuery.Proofs.Sql.Names

/-!
# Names and strings between quotes

A text between quotes tells where it ends. Whatever runs of quotes it holds, at its ends or inside,
and whatever follows, the closing quote is the first one that is not one of two, unless what follows
begins with a quote itself. The names that are left bare are words, so that none of them is taken
for a text between quotes.

* `Identifier.isPlain_iff_lower`: a plain name is a word that is not reserved in small letters, by
  the mapping for all scripts.
* `Identifier.render_eq_quote_iff`: which names give a text between quotes.
* `quoted_selfDelimiting`: what is read between quotes, and which names are left bare.
-/

namespace LedgerQuery.Sql

namespace Identifier

/-! ### Bare names -/

theorem isAscii_of_isTail {c : Char} (h : isTail c = true) : Text.isAscii c = true := by
  have hlast : c ≤ 'z' := by
    simp only [isTail, isHead, Bool.or_eq_true, decide_eq_true_eq] at h
    rcases h with (⟨-, hcapital⟩ | ⟨-, hsmall⟩ | rfl) | ⟨-, hdigit⟩
    · exact Char.le_trans hcapital (by decide)
    · exact hsmall
    · decide
    · exact Char.le_trans hdigit (by decide)
  have hcode : c.toNat ≤ 122 := hlast
  rw [Text.isAscii, decide_eq_true_eq]
  omega

theorem lower_of_isWord {s : String} (h : isWord s.toList = true) :
    Text.lower s = Text.foldAscii s :=
  Text.lower_ascii s fun c hc => isAscii_of_isTail (isTail_of_isWord h c hc)

/-- Only the small letters of words are looked up among the reserved words, and a word has none
outside of ASCII. -/
theorem isPlain_iff_lower (s : String) :
    isPlain s = true ↔ isWord s.toList = true ∧ Text.lower s ∉ reservedWords := by
  rw [isPlain_iff]
  refine and_congr_right fun hword => ?_
  rw [lower_of_isWord hword, isReserved, List.contains_eq_mem, decide_eq_false_iff_not]

/-! ### Names as they are written -/

theorem render_eq_quote_iff (r s : String) : render r = quote s ↔ r = s ∧ render r ≠ r := by
  cases hplain : isPlain r with
  | true =>
    have hbare : render r = r := render_of_isPlain hplain
    constructor
    · intro h
      -- a word does not begin with a quote
      rw [← hbare, h, isPlain_quote] at hplain
      cases hplain
    · rintro ⟨-, hne⟩
      exact absurd hbare hne
  | false =>
    have hquoted : render r = quote r := render_of_not_isPlain hplain
    constructor
    · intro h
      refine ⟨Text.Quoted.quote_injective '"' (hquoted.symm.trans h), fun hbare => ?_⟩
      rw [render_eq_self_iff, hplain] at hbare
      cases hbare
    · rintro ⟨rfl, -⟩
      exact hquoted

end Identifier

/-! ### What is read between quotes -/

/-- From a text the reader takes `s` and leaves `t` exactly if the text is `s` between quotes with
`t` behind it and `t` does not begin with a quote, be it between double quotes or between single
ones. No two names are written alike. A name is left bare exactly if it is a word whose small
letters are not a reserved word. A bare name is never the same as a text between quotes: such a text
is written only for the name that it holds, where this name is not left bare. -/
theorem quoted_selfDelimiting :
    (∀ (s : String) (t u : List Char), Text.Quoted.read '"' u = some (s.toList, t) ↔
      u = (Identifier.quote s).toList ++ t ∧ t.head? ≠ some '"') ∧
    (∀ (s : String) (t u : List Char), Text.Quoted.read '\'' u = some (s.toList, t) ↔
      u = (stringText s).toList ++ t ∧ t.head? ≠ some '\'') ∧
    Function.Injective Identifier.render ∧
    (∀ s, Identifier.render s = s ↔
      Identifier.isWord s.toList = true ∧ Text.lower s ∉ reservedWords) ∧
    ∀ r s, Identifier.render r = Identifier.quote s ↔ r = s ∧ Identifier.render r ≠ r := by
  refine ⟨?_, ?_, Identifier.render_injective, ?_, Identifier.render_eq_quote_iff⟩
  · intro s t u
    exact Text.Quoted.read_toList_iff
  · intro s t u
    exact Text.Quoted.read_toList_iff
  · intro s
    rw [Identifier.render_eq_self_iff, Identifier.isPlain_iff_lower]

/-- Quotes at both ends of a name are told from the ones around it, and a quote behind the closing
one is taken for a part of the name. -/
example :
    Text.Quoted.read '"' "\"\"\"a\"\"\";--".toList = some ("\"a\"".toList, ";--".toList) ∧
      Text.Quoted.read '"' "\"a\"\";--".toList = none := by
  decide +kernel

end LedgerQuery.Sql
