/-!
# Character classes by range

A class of characters is a list of code point ranges, both ends included.

* `CharSet.contains_iff`: a character belongs to the class when one of the ranges holds it.
-/

namespace LedgerQuery.Text

/-- A class of characters, given by ranges of code points. -/
structure CharSet where
  ranges : List (Nat × Nat)

namespace CharSet

/-- One of the ranges holds the character. -/
def contains (s : CharSet) (c : Char) : Bool :=
  s.ranges.any fun r => decide (r.1 ≤ c.toNat ∧ c.toNat ≤ r.2)

theorem contains_iff (s : CharSet) (c : Char) :
    s.contains c = true ↔ ∃ r ∈ s.ranges, r.1 ≤ c.toNat ∧ c.toNat ≤ r.2 := by
  simp [contains]

end CharSet

end LedgerQuery.Text
