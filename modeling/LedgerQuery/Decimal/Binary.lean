/-!
# Floats as exact numbers

A finite float is `mantissa * 2 ^ exponent`, and conversely every non-negative ratio has a nearest
float, ties going to the even mantissa. Everything here is arithmetic on natural numbers.

* `nearestBits_zero`: zero is its own nearest float.
* `ofDecimal`: the float nearest to a decimal number, infinite where the decimal is out of range.
-/

namespace LedgerQuery.Decimal

/-- What a float stands for. -/
inductive Parts where
  | nan
  | infinite (negative : Bool)
  | finite (negative : Bool) (mantissa : Nat) (exponent : Int)
  deriving DecidableEq

/-- Takes a float apart. -/
def parts (x : Float) : Parts :=
  let b : Nat := x.toBits.toNat
  let negative : Bool := decide (Nat.pow 2 63 ≤ b)
  let field : Nat := b / Nat.pow 2 52 % 2048
  let fraction : Nat := b % Nat.pow 2 52
  if field = 2047 then
    if fraction = 0 then .infinite negative else .nan
  else if field = 0 then .finite negative fraction (-1074)
  else .finite negative (Nat.pow 2 52 + fraction) ((field : Int) - 1075)

/-- The float is a number. -/
def isFinite (x : Float) : Bool :=
  match parts x with
  | .finite .. => true
  | _ => false

/-- The quotient rounded to the nearest whole number, a tie to the even one. -/
def roundDiv (num den : Nat) : Nat :=
  let q := num / den
  let r := num % den
  if 2 * r < den then q
  else if den < 2 * r then q + 1
  else if q % 2 = 0 then q else q + 1

/-- The ratio of two numbers scaled by a power of two, as a ratio. -/
def scaled (num den : Nat) (e : Int) : Nat × Nat :=
  if 0 ≤ e then (num * Nat.pow 2 e.toNat, den) else (num, den * Nat.pow 2 (-e).toNat)

/-- The bits of positive infinity. -/
def infinityBits : Nat := 2047 * Nat.pow 2 52

/-- The exponent on whose grid `num / den` is rounded: the least one that leaves a quotient below
`2 ^ 53`, and never below that of the smallest float. -/
def gridExponent (num den : Nat) : Int :=
  let guess : Int := max ((Nat.log2 num : Int) - Nat.log2 den - 53) (-1074)
  let (n, d) := scaled num den (-guess)
  if n / d < Nat.pow 2 53 then guess else guess + 1

/-- The bits of the float nearest to `num / den`. -/
def nearestBits (num den : Nat) : Nat :=
  if num = 0 then 0
  else
    let q := gridExponent num den
    let (n, d) := scaled num den (-q)
    min ((q + 1074).toNat * Nat.pow 2 52 + roundDiv n d) infinityBits

/-- The float with a sign and the bits of a magnitude. -/
def signed (negative : Bool) (bits : Nat) : Float :=
  Float.ofBits (UInt64.ofNat (if negative then Nat.pow 2 63 + bits else bits))

/-- The float nearest to `num / den`. -/
def nearest (negative : Bool) (num den : Nat) : Float :=
  signed negative (nearestBits num den)

/-- The bits of the float nearest to `digits * 10 ^ exponent`. Exponents far outside the range are
decided without the power. -/
def decimalBits (digits : Nat) (exponent : Int) : Nat :=
  if digits = 0 then 0
  else if 400 < exponent then infinityBits
  else if 3 * exponent + Nat.log2 digits < -1100 then 0
  else if 0 ≤ exponent then nearestBits (digits * Nat.pow 10 exponent.toNat) 1
  else nearestBits digits (Nat.pow 10 (-exponent).toNat)

/-- The float nearest to `digits * 10 ^ exponent`. -/
def ofDecimal (negative : Bool) (digits : Nat) (exponent : Int) : Float :=
  signed negative (decimalBits digits exponent)

/-- The float nearest to a whole number. -/
def ofInt (n : Int) : Float :=
  nearest (decide (n < 0)) n.natAbs 1

@[simp] theorem nearestBits_zero (den : Nat) : nearestBits 0 den = 0 := by
  simp [nearestBits]

@[simp] theorem decimalBits_zero (e : Int) : decimalBits 0 e = 0 := by
  simp [decimalBits]

theorem nearestBits_le (num den : Nat) : nearestBits num den ≤ infinityBits := by
  simp only [nearestBits]
  split
  · exact Nat.zero_le _
  · exact Nat.min_le_right _ _

theorem roundDiv_le (num den : Nat) : roundDiv num den ≤ num / den + 1 := by
  simp only [roundDiv]
  split
  · omega
  · split
    · omega
    · split <;> omega

theorem le_roundDiv (num den : Nat) : num / den ≤ roundDiv num den := by
  simp only [roundDiv]
  split
  · omega
  · split
    · omega
    · split <;> omega

end LedgerQuery.Decimal
