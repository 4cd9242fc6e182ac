import LedgerQuery.Text.Case
import LedgerQuery.Text.Quoted

/-!
# Names in statements

A plain name is written as it is, every other one between double quotes. Strings stand between
single quotes.

* `isPlain_iff`: what a plain name consists of.
* `render_eq_self_iff`: exactly the plain names are written as they are.
-/

namespace LedgerQuery.Sql

/-- Words that cannot stand for a name, in small letters. -/
def reservedWords : List String :=
  ["all", "and", "as", "between", "by", "case", "create", "delete", "distinct", "drop", "else",
    "end", "from", "group", "having", "in", "insert", "is", "join", "like", "limit", "not", "null",
    "on", "or", "order", "select", "table", "then", "union", "update", "when", "where"]

namespace Identifier

/-- A letter `A`–`Z`, `a`–`z`, or the underscore. -/
def isHead (c : Char) : Bool :=
  decide (('A' ≤ c ∧ c ≤ 'Z') ∨ ('a' ≤ c ∧ c ≤ 'z') ∨ c = '_')

/-- A character that may follow the first one of a plain name. -/
def isTail (c : Char) : Bool :=
  isHead c || decide ('0' ≤ c ∧ c ≤ '9')

/-- The characters form a word: a head and tail characters behind it. -/
def isWord : List Char → Bool
  | [] => false
  | c :: r => isHead c && r.all isTail

/-- The word is reserved, in any case. -/
def isReserved (s : String) : Bool :=
  reservedWords.contains (Text.foldAscii s)

/-- The name needs no quotes. -/
def isPlain (s : String) : Bool :=
  isWord s.toList && !isReserved s

/-- A name between double quotes. -/
def quote (s : String) : String :=
  Text.Quoted.quote '"' s

/-- A name as it stands in a statement. -/
def render (s : String) : String :=
  if isPlain s then s else quote s

theorem isPlain_iff (s : String) :
    isPlain s = true ↔ isWord s.toList = true ∧ isReserved s = false := by
  simp [isPlain]

@[simp] theorem render_of_isPlain {s : String} (h : isPlain s = true) : render s = s := by
  simp [render, h]

theorem render_of_not_isPlain {s : String} (h : isPlain s = false) : render s = quote s := by
  simp [render, h]

theorem isPlain_quote (s : String) : isPlain (quote s) = false := by
  have : isWord (quote s).toList = false := by
    simp [quote, Text.Quoted.chars, isWord, isHead]
  simp [isPlain, this]

theorem render_eq_self_iff (s : String) : render s = s ↔ isPlain s = true := by
  constructor
  · intro h
    by_cases hp : isPlain s = true
    · exact hp
    · have hq : quote s = s := by
        rwa [render_of_not_isPlain (Bool.eq_false_iff.mpr hp)] at h
      have hl := congrArg (fun r : String => r.toList.length) hq
      simp only [quote, Text.Quoted.toList_quote, Text.Quoted.length_chars] at hl
      omega
  · exact render_of_isPlain

end Identifier

/-- A string between single quotes. -/
def stringText (s : String) : String :=
  Text.Quoted.quote '\'' s

end LedgerQuery.Sql
