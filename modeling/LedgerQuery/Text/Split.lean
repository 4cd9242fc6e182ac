/-!
# Cutting a text

* `splitAt`: the parts of a text between the occurrences of a character.
* `intercalate_splitAt`: the parts joined again are the text.
* `splitAt_flatMap`: texts that end in the character each are cut apart again.
-/

namespace LedgerQuery.Text

/-- Cuts at every occurrence of a character; there is always one part more than cuts. -/
def splitAt (mark : Char) : List Char → List (List Char)
  | [] => [[]]
  | c :: r =>
    if c = mark then [] :: splitAt mark r
    else match splitAt mark r with
      | [] => [[c]]
      | p :: ps => (c :: p) :: ps

theorem splitAt_ne_nil (mark : Char) (cs : List Char) : splitAt mark cs ≠ [] := by
  cases cs with
  | nil => simp [splitAt]
  | cons c r =>
    simp only [splitAt]
    split
    · simp
    · split <;> simp

/-- The parts joined again are the text that was cut. -/
theorem intercalate_splitAt (mark : Char) (cs : List Char) :
    List.intercalate [mark] (splitAt mark cs) = cs := by
  induction cs with
  | nil => rfl
  | cons c r ih =>
    have hne := splitAt_ne_nil mark r
    cases hs : splitAt mark r with
    | nil => exact absurd hs hne
    | cons p ps =>
      rw [hs] at ih
      by_cases hc : c = mark
      · simp only [splitAt, hc, if_true, hs]
        rw [← ih]
        simp [List.intercalate, List.intersperse]
      · simp only [splitAt, hc, if_false, hs]
        rw [← ih]
        cases ps <;> simp [List.intercalate, List.intersperse]

/-- Up to its first occurrence, the character cuts off one part. -/
theorem splitAt_append_mark {mark : Char} {cs : List Char} (h : mark ∉ cs) (r : List Char) :
    splitAt mark (cs ++ mark :: r) = cs :: splitAt mark r := by
  induction cs with
  | nil => rw [List.nil_append, splitAt, if_pos rfl]
  | cons c cs ih =>
    obtain ⟨hc, hcs⟩ := not_or.mp (mt List.mem_cons.mpr h)
    rw [List.cons_append, splitAt, if_neg (Ne.symm hc), ih hcs]

/-- Texts that each end in the character, and hold it nowhere else, are cut apart again, and nothing
is left behind them. -/
theorem splitAt_flatMap {mark : Char} {parts : List (List Char)} (h : ∀ p ∈ parts, mark ∉ p) :
    splitAt mark (parts.flatMap (· ++ [mark])) = parts ++ [[]] := by
  induction parts with
  | nil => rfl
  | cons p parts ih =>
    have hp : mark ∉ p := h p List.mem_cons_self
    have hparts : ∀ q ∈ parts, mark ∉ q := fun q hq => h q (List.mem_cons_of_mem p hq)
    rw [List.flatMap_cons, List.append_assoc, List.singleton_append, splitAt_append_mark hp,
      ih hparts]
    rfl

end LedgerQuery.Text
