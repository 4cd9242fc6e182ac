/-!
# Blanks at the ends of a text

The characters with the property `White_Space`, and the text without those at its two ends.

* `trim_eq_empty_iff`: nothing is left exactly of a text that is blank throughout.
-/

namespace LedgerQuery.Text

/-- The white space characters of every script. -/
def isBlank (c : Char) : Bool :=
  let n := c.toNat
  (9 ≤ n && n ≤ 13) || n == 0x20 || n == 0x85 || n == 0xA0 || n == 0x1680 ||
    (0x2000 ≤ n && n ≤ 0x200A) || n == 0x2028 || n == 0x2029 || n == 0x202F || n == 0x205F ||
    n == 0x3000

/-- The characters without the blanks at both ends. -/
def trimChars (cs : List Char) : List Char :=
  ((cs.dropWhile isBlank).reverse.dropWhile isBlank).reverse

/-- The text without the blanks at both ends. -/
def trim (s : String) : String :=
  String.ofList (trimChars s.toList)

/-- Every character is a blank. -/
def isBlankText (s : String) : Bool :=
  s.toList.all isBlank

theorem dropBlanks_eq_nil_iff (cs : List Char) :
    cs.dropWhile isBlank = [] ↔ ∀ c ∈ cs, isBlank c = true := by
  induction cs with
  | nil => simp
  | cons c r ih => by_cases h : isBlank c = true <;> simp [h, ih]

theorem trimChars_eq_nil_iff (cs : List Char) : trimChars cs = [] ↔ ∀ c ∈ cs, isBlank c = true := by
  have key : ∀ ds : List Char, (∀ c ∈ ds.dropWhile isBlank, isBlank c = true) ↔
      ∀ c ∈ ds, isBlank c = true := by
    intro ds
    induction ds with
    | nil => simp
    | cons d r ih => by_cases h : isBlank d = true <;> simp [h, ih]
  simp only [trimChars, List.reverse_eq_nil_iff, dropBlanks_eq_nil_iff, List.mem_reverse, key]

theorem trim_eq_empty_iff (s : String) : trim s = "" ↔ isBlankText s = true := by
  rw [← String.toList_inj]
  simp [trim, isBlankText, trimChars_eq_nil_iff]

end LedgerQuery.Text
