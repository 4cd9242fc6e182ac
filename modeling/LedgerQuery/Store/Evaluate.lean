import LedgerQuery.Store.Statement

/-!
# What terms are worth

A term is worth a value in a row of a group. Tests know a third answer beside true and false, when
something they compare is nothing.

* `Term.eval`: the value of a term.
* `total`: the sum of values, whole numbers exactly and floats with the error carried along.
-/

namespace LedgerQuery.Store

/-- A column of the row at hand. -/
structure Column where
  index : Nat
  affinity : Affinity
  deriving DecidableEq, Inhabited

/-- The affinity by which a side of a comparison is compared. -/
def Term.affinity? : Term Column → Option Affinity
  | .name c => some c.affinity
  | .cast a _ => some a
  | _ => none

/-! ### Arithmetic -/

/-- A whole number if 64 bits hold it, else the float that the operation gives. -/
def wholeOr (n : Int) (x : Float) : Value :=
  if Json.minSigned ≤ n ∧ n ≤ Json.maxSigned then .int n else .ofFloat x

/-- The value of an operation on numbers. A quotient by zero is nothing. -/
def arithmetic (op : Operator) (v w : Value) : Value :=
  let x := v.toFloat
  let y := w.toFloat
  match op, v.toNumber, w.toNumber with
  | _, .null, _ | _, _, .null => .null
  | .plus, .int m, .int n => wholeOr (m + n) (x + y)
  | .minus, .int m, .int n => wholeOr (m - n) (x - y)
  | .times, .int m, .int n => wholeOr (m * n) (x * y)
  | .over, .int m, .int n => if n = 0 then .null else wholeOr (m.tdiv n) (x / y)
  | .modulo, a, b =>
    let whole : Value → Int
      | .int n => n
      | .float x => truncated x
      | _ => 0
    let n := whole b
    if n = 0 then .null
    else match a, b with
      | .int m, .int _ => .int (m.tmod n)
      | a, _ => .float (Decimal.ofInt ((whole a).tmod n))
  | .plus, _, _ => .ofFloat (x + y)
  | .minus, _, _ => .ofFloat (x - y)
  | .times, _, _ => .ofFloat (x * y)
  | .over, _, _ => if y == 0 then .null else .ofFloat (x / y)
  | _, _, _ => .null

/-- The text that a value counts as. -/
def Value.toText : Value → String
  | .text s => s
  | .blob bytes => bytesText bytes
  | v => match v.numberToText with
    | .text s => s
    | _ => ""

/-- Two texts behind each other. -/
def joined (v w : Value) : Value :=
  if v.isNull || w.isNull then .null else .text (v.toText ++ w.toText)

/-! ### Tests -/

/-- Both are true. -/
def both : Option Bool → Option Bool → Option Bool
  | some false, _ | _, some false => some false
  | some true, some true => some true
  | _, _ => none

/-- One of both is true. -/
def either : Option Bool → Option Bool → Option Bool
  | some true, _ | _, some true => some true
  | some false, some false => some false
  | _, _ => none

/-- The answer of a comparison that came out so; nothing for operators that do not compare. -/
def Operator.holds? : Operator → Ordering → Option Bool
  | .equal, o => some (o == .eq)
  | .differ, o => some (o != .eq)
  | .less, o => some (o == .lt)
  | .atMost, o => some (o != .gt)
  | .greater, o => some (o == .gt)
  | .atLeast, o => some (o != .lt)
  | _, _ => none

/-- The answer of a comparison by an affinity; nothing if a side is nothing. -/
def compared (op : Operator) (a : Affinity) (v w : Value) : Option Bool :=
  if v.isNull || w.isNull then none
  else op.holds? ((a.forComparison v).compare (a.forComparison w))

/-- The value of an operator on two values that are compared by an affinity. -/
def Operator.apply (op : Operator) (a : Affinity) (v w : Value) : Value :=
  match op with
  | .conj => .ofTruth (both v.truth? w.truth?)
  | .disj => .ofTruth (either v.truth? w.truth?)
  | .plus | .minus | .times | .over | .modulo => arithmetic op v w
  | .concat => joined v w
  | _ => .ofTruth (compared op a v w)

/-! ### Conversions on request -/

/-- The whole number at the front of a text. -/
def leadingWhole (s : String) : Int :=
  let (negative, r) := Decimal.signRun (s.toList.dropWhile isSpace)
  let n : Int := Decimal.digitsValue (Decimal.digitRun r).1
  max Json.minSigned (min Json.maxSigned (if negative then -n else n))

/-- The value in the kind that an affinity stands for. -/
def Affinity.cast (a : Affinity) (v : Value) : Value :=
  if v.isNull then .null
  else match a with
    | .text => .text v.toText
    | .blob => match v with
      | .blob bytes => .blob bytes
      | v => .blob (Text.encode v.toText)
    | .integer => match v with
      | .int n => .int n
      | .float x => .int (truncated x)
      | v => .int (leadingWhole v.toText)
    | .real => .float v.toFloat
    | .numeric => match v with
      | .float x => .float x
      | v => v.toNumber.floatToWhole

/-! ### Sums -/

/-- A sum that is not whole: the float so far, and what rounding has taken from it. -/
structure Running where
  sum : Float
  error : Float

/-- Adds a float. Of sum and addend, the smaller one loses digits. -/
def Running.add (r : Running) (x : Float) : Running :=
  let t := r.sum + x
  let lost := if x.abs < r.sum.abs then (r.sum - t) + x else (x - t) + r.sum
  ⟨t, r.error + lost⟩

/-- Adds a whole number; one that no float holds exactly is added in two pieces. -/
def Running.addWhole (r : Running) (n : Int) : Running :=
  if n ≤ -4503599627370496 ∨ 4503599627370496 ≤ n then
    let low := n.tmod 16384
    (r.add (Decimal.ofInt (n - low))).add (Decimal.ofInt low)
  else r.add (Decimal.ofInt n)

/-- The running sum that a whole number begins. -/
def Running.ofWhole (n : Int) : Running :=
  if n ≤ -4503599627370496 ∨ 4503599627370496 ≤ n then
    let low := n.tmod 16384
    ⟨Decimal.ofInt (n - low), Decimal.ofInt low⟩
  else ⟨Decimal.ofInt n, 0⟩

/-- The float that a running sum comes to. -/
def Running.value (r : Running) : Float :=
  if Decimal.isFinite r.error then r.sum + r.error else r.sum

/-- A sum so far. -/
inductive Sum where
  | whole (n : Int)
  /-- A float has been added, or whole numbers have left 64 bits and nothing else was added. -/
  | running (r : Running) (hasOverflowed : Bool)

/-- Adds a value that is not nothing. -/
def Sum.add (s : Sum) (v : Value) : Sum :=
  match s, v.toNumeric with
  | .whole n, .int m =>
    if Json.minSigned ≤ n + m ∧ n + m ≤ Json.maxSigned then .whole (n + m)
    else .running ((Running.ofWhole n).addWhole m) true
  | .whole n, w => .running ((Running.ofWhole n).add w.toFloat) false
  | .running r o, .int m => .running (r.addWhole m) o
  | .running r _, w => .running (r.add w.toFloat) false

/-- The sum of values that are not nothing. -/
def total (vs : List Value) : Sum := vs.foldl Sum.add (.whole 0)

/-- The value of an aggregate of values. Nothing is left out, and of no value there is no sum. -/
def Aggregate.of (f : Aggregate) (vs : List Value) : Except Fault Value :=
  let vs := vs.filter fun v => !v.isNull
  match f with
  | .count => .ok (.int vs.length)
  | .sum =>
    if vs.isEmpty then .ok .null
    else match total vs with
      | .whole n => .ok (.int n)
      | .running _ true => .error .overflow
      | .running r false => .ok (.ofFloat r.value)
  | .average =>
    if vs.isEmpty then .ok .null
    else
      let sum := match total vs with
        | .whole n => Decimal.ofInt n
        | .running r _ => r.value
      .ok (.ofFloat (sum / Decimal.ofInt vs.length))

/-! ### Terms -/

/-- The value of a term in a row of a group. -/
def Term.eval (params : List Value) (group : List (List Value)) :
    List Value → Term Column → Except Fault Value
  | row, .name c => .ok (row.getD c.index .null)
  | _, .value v => .ok v
  | _, .param n => .ok (params.getD n .null)
  | row, .negate t => do return arithmetic .minus (.int 0) (← t.eval params group row)
  | row, .invert t => do return .ofTruth ((← t.eval params group row).truth?.map (!·))
  | row, .isNull expected t => do
    return .ofTruth (some ((← t.eval params group row).isNull == expected))
  | row, .binary op l r => do
    let v ← l.eval params group row
    let w ← r.eval params group row
    return op.apply (comparedAs l.affinity? r.affinity?) v w
  | row, .cond c y n => do
    let v ← c.eval params group row
    if v.truth? = some true then y.eval params group row else n.eval params group row
  | row, .cast a t => do return a.cast (← t.eval params group row)
  | _, .countRows _ _ => .ok (.int group.length)
  | _, .aggregate f _ _ t => do
    f.of (← group.mapM fun row => t.eval params [] row)
  | _, .unknown _ _ => .ok .null

/-- The condition holds in a row of a group. -/
def Term.holds (params : List Value) (group : List (List Value)) (row : List Value)
    (t : Term Column) : Except Fault Bool := do
  return (← t.eval params group row).truth? == some true

end LedgerQuery.Store
