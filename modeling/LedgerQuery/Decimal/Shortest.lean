import LedgerQuery.Decimal.Binary

/-!
# The shortest decimal of a float

Of all decimals that read back as a given float, the one with the fewest digits, and of those the
nearest. For each number of digits only the two neighbours of the float on that decimal grid can be
the nearest, so both are read back.

* `Shortest.reads_back`: a decimal found on a grid reads back as the float it was made for.
-/

namespace LedgerQuery.Decimal

/-- The number of decimal digits of a number. -/
def digitCount (n : Nat) : Nat :=
  (Nat.toDigits 10 n).length

/-- A decimal `digits * 10 ^ exponent`. -/
structure Shortest where
  digits : Nat
  exponent : Int
  deriving DecidableEq

namespace Shortest

/-- The number of digits before the decimal point of `num / den`, negative where zeros follow the
point. The scale keeps every float above 1. -/
def magnitude (num den : Nat) : Int :=
  (digitCount (num * Nat.pow 10 350 / den) : Int) - 350

/-- The ratio as a multiple of `10 ^ e`. -/
def onGrid (num den : Nat) (e : Int) : Nat × Nat :=
  if 0 ≤ e then (num, den * Nat.pow 10 e.toNat) else (num * Nat.pow 10 (-e).toNat, den)

/-- Of the two neighbours of `num / den` on the grid of `10 ^ e` that read back as `bits`, the
nearer one, a tie going to the even one. -/
def neighbour? (bits num den : Nat) (e : Int) : Option Shortest :=
  let (n, d) := onGrid num den e
  let below := n / d
  let nearer := roundDiv n d
  let further := if nearer = below then below + 1 else below
  ([nearer, further].find? fun digits => decide (decimalBits digits e = bits)).map (⟨·, e⟩)

/-- The exact decimal of `num / den`, for denominators that are powers of two. -/
def exact (num den : Nat) : Shortest :=
  ⟨num * Nat.pow 5 (Nat.log2 den), -(Nat.log2 den : Int)⟩

/-- The shortest decimal of a positive float with the given bits and value. -/
def ofRatio (bits num den : Nat) : Shortest :=
  let k := magnitude num den
  ((List.range 17).findSome? fun (i : Nat) => neighbour? bits num den (k - (i + 1))).getD (exact num den)

/-- The digits without zeros at the end. -/
def stripped (s : Shortest) : List Char × Int :=
  let all := Nat.toDigits 10 s.digits
  let kept := (all.reverse.dropWhile (· = '0')).reverse
  (kept, s.exponent + all.length - 1)

theorem reads_back {bits num den : Nat} {e : Int} {s : Shortest}
    (h : neighbour? bits num den e = some s) : decimalBits s.digits s.exponent = bits := by
  obtain ⟨digits, hd, rfl⟩ := Option.map_eq_some_iff.1 h
  simpa using List.find?_some hd

end Shortest

/-- The digits and the decimal exponent of the first digit, for a mantissa above zero. -/
def shortestDigits (mantissa : Nat) (exponent : Int) : List Char × Int :=
  let (n, d) := scaled mantissa 1 exponent
  (Shortest.ofRatio (nearestBits n d) n d).stripped

end LedgerQuery.Decimal
