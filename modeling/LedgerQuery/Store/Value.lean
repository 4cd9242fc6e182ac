import LedgerQuery.Decimal.Layout
import LedgerQuery.Decimal.Reader
import LedgerQuery.Sql.Literal
import LedgerQuery.Text.Case
import LedgerQuery.Text.Bytes

/-!
# Values of the embedded store

A cell holds nothing, a whole number of 64 bits, a float, a text or bytes. The declared type of a
column has an affinity, by which values are converted before they are stored or compared.

* `Affinity.ofDeclared`: the affinity of a declared type.
* `compare`: the order of values of all kinds.
* `Affinity.apply`: the conversion on storing.
-/

namespace LedgerQuery.Store

/-- A value of a cell. -/
inductive Value where
  | null
  | int (value : Int)
  | float (value : Float)
  | text (value : String)
  | blob (bytes : List UInt8)
  deriving BEq, Inhabited

/-- The kind of value that a column prefers. -/
inductive Affinity where
  | blob
  | text
  | numeric
  | integer
  | real
  deriving DecidableEq, Inhabited

namespace Affinity

/-- A text occurs in another one. -/
def occursIn (part : List Char) : List Char → Bool
  | [] => part.isEmpty
  | c :: r => part.isPrefixOf (c :: r) || occursIn part r

/-- The affinity of a declared type: the first rule that applies. -/
def ofDeclared (declared : String) : Affinity :=
  let cs := declared.toList.map Text.foldChar
  let has (part : String) : Bool := occursIn part.toList cs
  if has "int" then .integer
  else if has "char" || has "clob" || has "text" then .text
  else if has "blob" || cs.isEmpty then .blob
  else if has "real" || has "floa" || has "doub" then .real
  else .numeric

/-- Values of the affinity are numbers. -/
def isNumeric : Affinity → Bool
  | .numeric | .integer | .real => true
  | _ => false

end Affinity

/-! ### Numbers in texts -/

/-- The blanks that may stand around a number. -/
def isSpace (c : Char) : Bool := c == ' ' || decide (9 ≤ c.toNat ∧ c.toNat ≤ 13)

/-- A whole number, if 64 bits hold it; else the nearest float. -/
def ofWhole (n : Int) : Value :=
  if Json.minSigned ≤ n ∧ n ≤ Json.maxSigned then .int n else .float (Decimal.ofInt n)

/-- An exponent at the front, if there is a whole one, and the rest. -/
def exponentRun (cs : List Char) : Int × List Char :=
  match cs with
  | c :: r =>
    if c = 'e' ∨ c = 'E' then
      let (negative, s) := Decimal.signRun r
      let (ds, s) := Decimal.digitRun s
      if ds.isEmpty then (0, cs)
      else (if negative then -(Decimal.digitsValue ds : Int) else Decimal.digitsValue ds, s)
    else (0, cs)
  | [] => (0, [])

/-- The number at the front of a text, and the rest. -/
def numberRun? (cs : List Char) : Option (Value × List Char) :=
  let (negative, r) := Decimal.signRun (cs.dropWhile isSpace)
  let (whole, r) := Decimal.digitRun r
  let (fraction, isPlain, s) := match r with
    | '.' :: s => let (ds, s) := Decimal.digitRun s; (ds, false, s)
    | _ => ([], true, r)
  if whole.isEmpty && fraction.isEmpty then none
  else
    let (exponent, t) := exponentRun s
    if isPlain && s.length == t.length then
      let n : Int := Decimal.digitsValue whole
      some (ofWhole (if negative then -n else n), t)
    else some (.float (Decimal.ofDecimal negative (Decimal.digitsValue (whole ++ fraction))
      (exponent - fraction.length)), t)

/-- The number that a text is, apart from blanks around it. -/
def numberOf? (s : String) : Option Value :=
  match numberRun? s.toList with
  | some (v, r) => if r.all isSpace then some v else none
  | none => none

/-- The number that a text begins with, or zero. -/
def leadingNumber (s : String) : Value :=
  match numberRun? s.toList with
  | some (v, _) => v
  | none => .int 0

/-! ### Numbers as texts -/

/-- The decimal of a positive number with at most fifteen digits. -/
def roundedDigits (num den : Nat) : List Char × Int :=
  let e := Decimal.Shortest.magnitude num den - 15
  let (n, d) := Decimal.Shortest.onGrid num den e
  (Decimal.Shortest.mk (Decimal.roundDiv n d) e).stripped

/-- The magnitude of a float with at most fifteen digits, always with a point. -/
def magnitudeText (mantissa : Nat) (exponent : Int) : List Char :=
  if mantissa = 0 then ['0', '.', '0']
  else
    let (n, d) := Decimal.scaled mantissa 1 exponent
    let (digits, e) := roundedDigits n d
    if -4 ≤ e ∧ e < 15 then Decimal.Layout.json.positionalDigits digits e
    else
      let fraction := if digits.length ≤ 1 then ['0'] else digits.drop 1
      let sign := if e < 0 then '-' else '+'
      digits.take 1 ++ '.' :: fraction ++ 'e' :: sign :: Decimal.padded 2 e.natAbs

/-- A float as text. -/
def floatText (x : Float) : String :=
  match Decimal.parts x with
  | .nan => ""
  | .infinite negative => if negative then "-Inf" else "Inf"
  | .finite negative m q =>
    String.ofList ((if negative ∧ m ≠ 0 then ['-'] else []) ++ magnitudeText m q)

/-! ### Conversions -/

/-- The whole number that a float is, if it is one of 64 bits. -/
def wholeOf? (x : Float) : Option Int :=
  match Decimal.parts x with
  | .finite negative m q =>
    let (n, d) := Decimal.scaled m 1 q
    let k : Int := (n / d : Nat)
    if n % d = 0 ∧ k < Nat.pow 2 63 then some (if negative then -k else k) else none
  | _ => none

/-- The whole part of a float, within 64 bits. -/
def truncated (x : Float) : Int :=
  match Decimal.parts x with
  | .nan => 0
  | .infinite negative => if negative then Json.minSigned else Json.maxSigned
  | .finite negative m q =>
    let (n, d) := Decimal.scaled m 1 q
    let k : Int := (n / d : Nat)
    max Json.minSigned (min Json.maxSigned (if negative then -k else k))

/-- The text of bytes; what is no text is replaced. -/
def bytesText (bytes : List UInt8) : String :=
  Text.decodeLossy bytes

namespace Value

/-- A float that is no number counts as nothing. -/
def ofFloat (x : Float) : Value :=
  match Decimal.parts x with
  | .nan => .null
  | _ => .float x

/-- The value that a literal is bound as. -/
def ofLiteral : Sql.Literal → Value
  | .null => .null
  | .bool b => .int (if b then 1 else 0)
  | .int n => .int n
  | .float x => ofFloat x
  | .text s => .text s

/-- The value in JSON. An infinite float is `null`, bytes are a list of numbers. -/
def toJson : Value → Json
  | .null => .null
  | .int n => .int n
  | .float x => if Decimal.isFinite x then .float x else .null
  | .text s => .text s
  | .blob bytes => .list (bytes.map fun b => .int b.toNat)

/-- The value is nothing. -/
def isNull : Value → Bool
  | .null => true
  | _ => false

/-- A text that is a number as this number. -/
def toNumeric : Value → Value
  | .text s => (numberOf? s).getD (.text s)
  | v => v

/-- A number as text. -/
def numberToText : Value → Value
  | .int n => .text (Decimal.intText n)
  | .float x => .text (floatText x)
  | v => v

/-- A float that is a whole number as this number. -/
def floatToWhole : Value → Value
  | .float x => ((wholeOf? x).map .int).getD (.float x)
  | v => v

/-- A whole number as float. -/
def wholeToFloat : Value → Value
  | .int n => .float (Decimal.ofInt n)
  | v => v

/-- The number that a value counts as in arithmetic; nothing stays nothing. -/
def toNumber : Value → Value
  | .text s => leadingNumber s
  | .blob bytes => leadingNumber (bytesText bytes)
  | v => v

/-- The float that a value counts as. -/
def toFloat (v : Value) : Float :=
  match v.toNumber with
  | .int n => Decimal.ofInt n
  | .float x => x
  | _ => 0

/-- The truth of a value; nothing is neither true nor false. -/
def truth? (v : Value) : Option Bool :=
  match v.toNumber with
  | .int n => some (n != 0)
  | .float x => some (x != 0)
  | _ => none

/-- A truth value. -/
def ofTruth : Option Bool → Value
  | none => .null
  | some b => .int (if b then 1 else 0)

end Value

/-- Converts a value that is stored in a column of the affinity. A float that is whole is kept as a
whole number even where floats are wanted, so that zero has no sign. -/
def Affinity.apply : Affinity → Value → Value
  | .blob, v => v
  | .text, v => v.numberToText
  | .real, v => v.toNumeric.floatToWhole.wholeToFloat
  | _, v => v.toNumeric.floatToWhole

/-! ### Order -/

/-- The order of a whole number and a float. -/
def compareIntFloat (n : Int) (x : Float) : Ordering :=
  match Decimal.parts x with
  | .nan => .gt
  | .infinite negative => if negative then .gt else .lt
  | .finite negative m q =>
    let (num, den) := Decimal.scaled m 1 q
    compare (n * den) (if negative then -(num : Int) else num)

/-- The order of two floats. -/
def compareFloats (x y : Float) : Ordering :=
  if x < y then .lt else if y < x then .gt else .eq

/-- The place of the kind of a value in the order of kinds. -/
def Value.rank : Value → Nat
  | .null => 0
  | .int _ | .float _ => 1
  | .text _ => 2
  | .blob _ => 3

/-- The order of values: nothing, numbers, texts, bytes. -/
def Value.compare : Value → Value → Ordering
  | .int m, .int n => Ord.compare m n
  | .int m, .float y => compareIntFloat m y
  | .float x, .int n => (compareIntFloat n x).swap
  | .float x, .float y => compareFloats x y
  | .text s, .text t => compareOfLessAndEq s t
  | .blob a, .blob b => compareOfLessAndEq a b
  | v, w => Ord.compare v.rank w.rank

/-- The affinity by which two sides are compared: the numeric one of two columns, or the one of the
side that has one. -/
def comparedAs : Option Affinity → Option Affinity → Affinity
  | some a, some b => if a.isNumeric || b.isNumeric then .numeric else .blob
  | some a, none => a
  | none, some b => b
  | none, none => .blob

/-- A value as it is compared by an affinity. -/
def Affinity.forComparison (a : Affinity) (v : Value) : Value :=
  if a.isNumeric then v.toNumeric
  else if a = .text then v.numberToText
  else v

end LedgerQuery.Store
