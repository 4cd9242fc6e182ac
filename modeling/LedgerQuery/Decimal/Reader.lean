import LedgerQuery.Decimal.Binary
import LedgerQuery.Text.Case

/-!
# Reading decimal numbers

The pieces that number grammars are made of, and the grammar of numbers in plain text: an optional
sign, digits with an optional point somewhere among or beside them, and an optional exponent; or
one of the names of infinity and of the missing number, in any case.

* `digitRun_append`: the digits read and the rest make up the text.
-/

namespace LedgerQuery.Decimal

/-- The value of a decimal digit. -/
def digitValue (c : Char) : Nat :=
  c.toNat - 48

/-- The number written by decimal digits. -/
def digitsValue (ds : List Char) : Nat :=
  ds.foldl (fun n c => 10 * n + digitValue c) 0

/-- A decimal digit `0`–`9`. -/
def isDigit (c : Char) : Bool :=
  decide ('0' ≤ c ∧ c ≤ '9')

/-- The digits at the front, and the rest. -/
def digitRun (cs : List Char) : List Char × List Char :=
  (cs.takeWhile isDigit, cs.dropWhile isDigit)

@[simp] theorem digitRun_append (cs : List Char) : (digitRun cs).1 ++ (digitRun cs).2 = cs := by
  simp [digitRun]

/-- A sign at the front (true for minus), and the rest. -/
def signRun : List Char → Bool × List Char
  | '-' :: r => (true, r)
  | '+' :: r => (false, r)
  | r => (false, r)

/-- An optional exponent that takes the whole rest; none if the rest is malformed. -/
def exponent? : List Char → Option Int
  | [] => some 0
  | c :: r =>
    if c = 'e' ∨ c = 'E' then
      let (negative, r) := signRun r
      let (ds, r) := digitRun r
      if ds.isEmpty || !r.isEmpty then none
      else some (if negative then -(digitsValue ds : Int) else digitsValue ds)
    else none

/-- An unsigned decimal: its digits and exponent. -/
def unsigned? (cs : List Char) : Option (Nat × Int) :=
  let (whole, r) := digitRun cs
  let (fraction, r) := match r with
    | '.' :: r => digitRun r
    | r => ([], r)
  if whole.isEmpty && fraction.isEmpty then none
  else (exponent? r).map fun e => (digitsValue (whole ++ fraction), e - fraction.length)

/-- A number in plain text. Decimals that are out of range give infinity. -/
def parse? (s : String) : Option Float :=
  let (negative, r) := signRun s.toList
  let name := String.ofList (r.map Text.foldChar)
  if name = "inf" ∨ name = "infinity" then some (signed negative infinityBits)
  else if name = "nan" then some (signed negative (infinityBits + Nat.pow 2 51))
  else (unsigned? r).map fun d => ofDecimal negative d.1 d.2

end LedgerQuery.Decimal
