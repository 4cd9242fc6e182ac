import LedgerQuery.Proofs.Compile.Query
import LedgerQuery.Proofs.Sql.Containment

/-!
# Compiled statements keep what they are given between quotes

Whatever a descriptor holds, seen from outside of quotes its statement is made of the compiler's own
words, of plain names, and of one placeholder for each bound value.

* `Descriptor.tame_query`: every function of a compiled query is written as a word.
* `Descriptor.compile_contained`: the text ends outside of quotes, shows as many placeholders as
  values are bound and no separator or comment, and becomes the text for people when the values
  take the place of their placeholders.
-/

namespace LedgerQuery

open Text (Region)
open Sql (Token Expr conjunction conjunctionTokens)

theorem Metric.tame_item {t : Table} {m : Metric} (h : m.appliesTo t = true) :
    ∀ u ∈ m.item.expr.tokens, u.isTame := by
  cases m with
  | count => decide
  | sum => decide
  | average => decide
  | defaultRate => decide
  | other s => simp at h

namespace Descriptor

theorem tame_conditions (d : Descriptor) : ∀ e ∈ d.conditions, ∀ t ∈ e.tokens, t.isTame := by
  intro e he
  rcases List.mem_append.mp he with he | he
  · obtain ⟨f, _, rfl⟩ := List.mem_map.mp he
    simp [Expr.eq, Expr.tokens, Token.isTame]
  · split at he
    · simp at he
    · simp only [List.mem_cons, List.not_mem_nil, or_false] at he
      rcases he with rfl | rfl
      · simp [Expr.ge, Expr.tokens, Token.isTame]
      · simp [Expr.le, Expr.tokens, Token.isTame]

theorem tame_conjunction {es : List Expr} (h : ∀ e ∈ es, ∀ t ∈ e.tokens, t.isTame) :
    ∀ e ∈ conjunction es, ∀ t ∈ e.tokens, t.isTame := by
  intro c hc
  rw [Sql.tokens_conjunction hc]
  cases es with
  | nil => simp [conjunctionTokens]
  | cons e es =>
    refine Sql.composable_tame.append (h e (by simp)) fun t ht => ?_
    obtain ⟨f, hf, ht⟩ := List.mem_flatMap.mp ht
    exact Sql.composable_tame.append (by simp [Token.isTame]) (h f (by simp [hf])) t ht

/-- Every function of a compiled query is written as a word. -/
theorem tame_query (d : Descriptor) : ∀ t ∈ d.query.tokens, t.isTame := by
  refine Sql.composable_tame.query ?_ ?_ ?_ ?_
  · intro i hi
    rcases mem_items hi with ⟨c, _, rfl⟩ | ⟨m, hm, rfl⟩
    · simp [Expr.tokens, Token.isTame]
    · exact Metric.tame_item hm
  · rw [query_eq]
    exact tame_conjunction d.tame_conditions
  · rw [query_eq]
    intro e he
    obtain ⟨c, _, rfl⟩ := List.mem_map.mp he
    simp [Expr.tokens, Token.isTame]
  · rw [query_eq]
    intro e he
    split at he
    · rw [← Option.some.inj he]
      decide
    · simp at he

/-- The statement of a descriptor keeps all that the descriptor holds between quotes or out of its
text. -/
theorem compile_contained (d : Descriptor) (dialect : Sql.Dialect) :
    let s := d.compile dialect
    Region.scan .outside s.sql.toList = .outside ∧
      Region.placeholders s.sql.toList = s.params.length ∧
      (∀ pattern ∈ [[';'], ['-', '-'], ['/', '*']], ¬ Region.Shows pattern s.sql.toList) ∧
      Region.fill .outside (s.params.map fun v => (v.write dialect).toList) s.sql.toList =
        s.inlineSql.toList ∧
      Region.scan .outside s.inlineSql.toList = .outside := by
  have h := d.tame_query
  refine ⟨Sql.scan_write dialect .bound h, Sql.placeholders_write dialect h, ?_,
    Sql.fill_write dialect h, Sql.scan_write dialect .inline h⟩
  intro pattern hp
  simp only [List.mem_cons, List.not_mem_nil, or_false] at hp
  rcases hp with rfl | rfl | rfl
  · exact Sql.not_shows_separator dialect .bound h
  · exact Sql.not_shows_dashes dialect .bound h
  · exact Sql.not_shows_stroke_star dialect .bound h (Sql.pervasive_spaced.query d.query)

end Descriptor

end LedgerQuery
