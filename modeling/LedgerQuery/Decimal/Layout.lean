import LedgerQuery.Decimal.Shortest

/-!
# How floats are written

One record says what a format decides: which numbers are written without an exponent, whether a
whole number keeps a fraction, and the sign of an exponent. The digits are the same in all of them.

* `json`, `sql`, `plain`: the three layouts in use.
* `fixed`: a given number of places, rounded from the exact value, ties to even.
-/

namespace LedgerQuery.Decimal

/-- The decisions of a number format. -/
structure Layout where
  /-- The least and the first too large decimal exponent written without an exponent; every
  number is written so if there are none. -/
  positional : Option (Int × Int)
  /-- A whole number written without an exponent ends in `.0`. -/
  fraction : Bool
  /-- A positive exponent carries a plus sign. -/
  plusSign : Bool

namespace Layout

/-- JSON texts: `100.0`, `0.00001`, `1e+16`, `1.5e-9`. -/
def json : Layout := ⟨some (-5, 16), true, true⟩

/-- Statement texts: `100.0`, `1e16`, `1e-7`. -/
def sql : Layout := ⟨some (-5, 16), true, false⟩

/-- Texts for people: `100`, `0.0000001`, never an exponent. -/
def plain : Layout := ⟨none, false, false⟩

/-- A decimal exponent is written out as zeros. -/
def isPositional (l : Layout) (e : Int) : Bool :=
  match l.positional with
  | none => true
  | some (least, bound) => decide (least ≤ e ∧ e < bound)

/-- The digits with a decimal point after the digit of exponent zero. -/
def positionalDigits (l : Layout) (digits : List Char) (e : Int) : List Char :=
  let tail := if l.fraction then ['.', '0'] else []
  if e < 0 then
    '0' :: '.' :: List.replicate (-e - 1).toNat '0' ++ digits
  else
    let whole := e.toNat + 1
    if digits.length ≤ whole then
      digits ++ List.replicate (whole - digits.length) '0' ++ tail
    else digits.take whole ++ '.' :: digits.drop whole

/-- The digits with a point after the first and an exponent. -/
def exponentDigits (l : Layout) (digits : List Char) (e : Int) : List Char :=
  let mantissa := match digits with
    | [] => ['0']
    | [d] => [d]
    | d :: r => d :: '.' :: r
  let sign := if e < 0 then ['-'] else if l.plusSign then ['+'] else []
  mantissa ++ 'e' :: sign ++ Nat.toDigits 10 e.natAbs

/-- The magnitude of a float. -/
def magnitude (l : Layout) (mantissa : Nat) (exponent : Int) : List Char :=
  if mantissa = 0 then '0' :: (if l.fraction then ['.', '0'] else [])
  else
    let (digits, e) := shortestDigits mantissa exponent
    if l.isPositional e then l.positionalDigits digits e else l.exponentDigits digits e

/-- A float as text. -/
def render (l : Layout) (x : Float) : String :=
  match parts x with
  | .nan => "NaN"
  | .infinite negative => if negative then "-inf" else "inf"
  | .finite negative m q => String.ofList ((if negative then ['-'] else []) ++ l.magnitude m q)

end Layout

/-- The digits of a whole number, at least `width` of them. -/
def padded (width n : Nat) : List Char :=
  let ds := Nat.toDigits 10 n
  List.replicate (width - ds.length) '0' ++ ds

/-- A finite float with a fixed number of places, the last one rounded from the exact value with
ties to even. -/
def fixed (places : Nat) (x : Float) : String :=
  match parts x with
  | .nan => "NaN"
  | .infinite negative => if negative then "-inf" else "inf"
  | .finite negative m q =>
    let (n, d) := scaled m 1 q
    let units := roundDiv (n * Nat.pow 10 places) d
    let point := if places = 0 then [] else '.' :: padded places (units % Nat.pow 10 places)
    String.ofList ((if negative then ['-'] else []) ++ Nat.toDigits 10 (units / Nat.pow 10 places) ++ point)

/-- A whole number as text. -/
def intText (n : Int) : String :=
  String.ofList ((if n < 0 then ['-'] else []) ++ Nat.toDigits 10 n.natAbs)

end LedgerQuery.Decimal
