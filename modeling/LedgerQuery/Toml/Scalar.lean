import LedgerQuery.Decimal.Reader
import LedgerQuery.Text.Split
import LedgerQuery.Toml.Tree

/-!
# Values without quotes

Truth values, numbers, dates and times of a settings document. Each is a run of characters that has
to be of one of these kinds throughout.

* `bareValue?`: the value that a run of characters stands for.
-/

namespace LedgerQuery.Toml

open Decimal (isDigit digitsValue)

/-! ### Numbers -/

/-- Digits without the underscores between them; an underscore stands between two digits. -/
def grouped? (accepted : Char → Bool) (cs : List Char) : Option (List Char) :=
  let parts := Text.splitAt '_' cs
  if parts.all fun p => !p.isEmpty && p.all accepted then some parts.flatten else none

/-- The value of a digit in a base up to sixteen. -/
def digitIn? (base : Nat) (c : Char) : Option Nat :=
  let n := if isDigit c then c.toNat - 48
    else if 'a' ≤ c ∧ c ≤ 'f' then c.toNat - 87
    else if 'A' ≤ c ∧ c ≤ 'F' then c.toNat - 55
    else base
  if n < base then some n else none

/-- The number that digits in a base stand for. -/
def valueIn (base : Nat) (ds : List Char) : Nat :=
  ds.foldl (fun n c => base * n + (digitIn? base c).getD 0) 0

/-- A whole number, if 128 bits hold it. -/
def whole? (n : Int) : Option Tree :=
  if -(Nat.pow 2 127 : Int) ≤ n ∧ n < (Nat.pow 2 128 : Int) then some (.int n) else none

/-- A whole number in a base other than ten. -/
def based? (base : Nat) (cs : List Char) : Option Tree := do
  let ds ← grouped? (fun c => (digitIn? base c).isSome) cs
  whole? (valueIn base ds)

/-- A decimal; one that is out of range is refused. -/
def fraction? (negative : Bool) (digits : List Char) (exponent : Int) : Option Tree :=
  let bits := Decimal.decimalBits (digitsValue digits) exponent
  if bits = Decimal.infinityBits then none else some (.float (Decimal.signed negative bits))

/-- The exponent of a decimal, with its sign. -/
def exponent? (cs : List Char) : Option Int := do
  let (negative, r) := Decimal.signRun cs
  let ds ← grouped? isDigit r
  return if negative then -(digitsValue ds : Int) else digitsValue ds

/-- The characters before an exponent, and the exponent. -/
def cutExponent (cs : List Char) : List Char × Option (List Char) :=
  let isMark (c : Char) : Bool := c == 'e' || c == 'E'
  match cs.dropWhile (!isMark ·) with
  | [] => (cs, none)
  | _ :: r => (cs.takeWhile (!isMark ·), some r)

/-- A decimal number without its sign. No zero stands in front of other digits. -/
def magnitude? (negative : Bool) (cs : List Char) : Option Tree := do
  let (mantissa, power) := cutExponent cs
  let whole ← grouped? isDigit (mantissa.takeWhile (· != '.'))
  if 1 < whole.length ∧ whole.head? = some '0' then none
  let exponent ← match power with
    | none => some 0
    | some r => exponent? r
  match mantissa.dropWhile (· != '.') with
  | _ :: r =>
    let ds ← grouped? isDigit r
    fraction? negative (whole ++ ds) (exponent - ds.length)
  | [] =>
    if power.isSome then fraction? negative whole exponent
    else whole? (if negative then -(digitsValue whole : Int) else digitsValue whole)

/-- A number with its sign, if it has one. -/
def signedNumber? (cs : List Char) : Option Tree :=
  let (negative, r) := Decimal.signRun cs
  if r = ['i', 'n', 'f'] then some (.float (Decimal.signed negative Decimal.infinityBits))
  else if r = ['n', 'a', 'n'] then
    some (.float (Decimal.signed negative (Decimal.infinityBits + Nat.pow 2 51)))
  else magnitude? negative r

/-- A number. -/
def number? : List Char → Option Tree
  | '0' :: 'x' :: r => based? 16 r
  | '0' :: 'o' :: r => based? 8 r
  | '0' :: 'b' :: r => based? 2 r
  | r => signedNumber? r

/-! ### Dates and times -/

/-- A number of so many digits in a range, and the rest. -/
def field? (width least greatest : Nat) (cs : List Char) : Option (Nat × List Char) :=
  let ds := cs.take width
  let n := digitsValue ds
  if ds.length = width ∧ ds.all isDigit ∧ least ≤ n ∧ n ≤ greatest then some (n, cs.drop width)
  else none

/-- The rest behind a character. -/
def mark? (c : Char) : List Char → Option (List Char)
  | [] => none
  | d :: r => if d = c then some r else none

/-- The number of days of a month. -/
def daysIn (year month : Nat) : Nat :=
  if month = 2 then
    if year % 4 = 0 ∧ (year % 100 ≠ 0 ∨ year % 400 = 0) then 29 else 28
  else if month = 4 ∨ month = 6 ∨ month = 9 ∨ month = 11 then 30
  else 31

/-- The rest behind a date. -/
def date? (cs : List Char) : Option (List Char) := do
  let (year, r) ← field? 4 0 9999 cs
  let (month, r) ← field? 2 1 12 (← mark? '-' r)
  let (_, r) ← field? 2 1 (daysIn year month) (← mark? '-' r)
  return r

/-- The rest behind the seconds of a time, which may have a fraction. -/
def seconds? (cs : List Char) : Option (List Char) := do
  let (_, r) ← field? 2 0 60 cs
  match r with
  | '.' :: r => if (r.takeWhile isDigit).isEmpty then none else some (r.dropWhile isDigit)
  | r => some r

/-- The rest behind a time of the day, whose seconds may be missing. -/
def time? (cs : List Char) : Option (List Char) := do
  let (_, r) ← field? 2 0 23 cs
  let (_, r) ← field? 2 0 59 (← mark? ':' r)
  match r with
  | ':' :: r => seconds? r
  | r => some r

/-- The text is a distance from universal time. -/
def isOffset : List Char → Bool
  | ['Z'] | ['z'] => true
  | c :: r =>
    (c == '+' || c == '-') &&
      ((do
        let (_, r) ← field? 2 0 23 r
        let (_, r) ← field? 2 0 59 (← mark? ':' r)
        return r) == some [])
  | [] => false

/-- The text is a time, which may have an offset if it belongs to a date. -/
def isTime (hasDate : Bool) (cs : List Char) : Bool :=
  match time? cs with
  | none => false
  | some [] => true
  | some r => hasDate && isOffset r

/-- The text is a date, a time or both. -/
def isMoment (cs : List Char) : Bool :=
  match date? cs with
  | none => isTime false cs
  | some [] => true
  | some (c :: r) => (c == 'T' || c == 't' || c == ' ') && isTime true r

/-! ### Values -/

/-- The value that a run of characters stands for. -/
def bareValue? (cs : List Char) : Option Tree :=
  if cs = ['t', 'r', 'u', 'e'] then some (.bool true)
  else if cs = ['f', 'a', 'l', 's', 'e'] then some (.bool false)
  else if isMoment cs then some (.moment (String.ofList cs))
  else number? cs

/-- The characters of values without quotes. -/
def isBareValue (c : Char) : Bool :=
  isDigit c || decide ('a' ≤ c ∧ c ≤ 'z') || decide ('A' ≤ c ∧ c ≤ 'Z') || c == '_' || c == '+' ||
    c == '-' || c == '.' || c == ':'

/-- The run of characters of a value at the front, and the rest. A blank may stand between a date
and a time. -/
def bareRun (cs : List Char) : List Char × List Char :=
  let run := cs.takeWhile isBareValue
  let rest := cs.dropWhile isBareValue
  match rest with
  | ' ' :: c :: r =>
    if isDigit c ∧ date? run = some [] then
      (run ++ ' ' :: c :: r.takeWhile isBareValue, r.dropWhile isBareValue)
    else (run, rest)
  | _ => (run, rest)

end LedgerQuery.Toml
