import LedgerQuery.Json.Record
import LedgerQuery.Sql.Literal

/-!
# Scalars

The values of filters and period bounds: a truth value, a whole number of 64 bits with a sign, a
float, or a text.

* `Scalar.ofDraft_toDraft`: what is written of a scalar reads back as the same scalar.
-/

namespace LedgerQuery

/-- A value of a filter or of a period. -/
inductive Scalar where
  | bool (value : Bool)
  | int (value : Int)
  | float (value : Float)
  | text (value : String)
  deriving DecidableEq, Inhabited

namespace Scalar

/-- The scalar as people read it. -/
def display : Scalar → String
  | .bool b => if b then "true" else "false"
  | .int n => Decimal.intText n
  | .float x => Decimal.Layout.plain.render x
  | .text s => s

/-- The scalar as a value of a statement. -/
def toLiteral : Scalar → Sql.Literal
  | .bool b => .bool b
  | .int n => .int n
  | .float x => .float x
  | .text s => .text s

/-- The scalar in JSON. -/
def toJson : Scalar → Json
  | .bool b => .bool b
  | .int n => .int n
  | .float x => .float x
  | .text s => .text s

/-- The scalar of a JSON value. Whole numbers beyond the signed range are floats; lists, objects and
`null` are no scalars. -/
def ofJson? : Json → Option Scalar
  | .bool b => some (.bool b)
  | .int n =>
    if Json.minSigned ≤ n ∧ n ≤ Json.maxSigned then some (.int n)
    else some (.float (Decimal.ofInt n))
  | .float x => some (.float x)
  | .text s => some (.text s)
  | _ => none

/-- Reads a scalar. The whole value is read before its kind is looked at. -/
def ofDraft (room : Nat) (d : Json.Draft) : Except Json.Fault Scalar :=
  match d.value room with
  | .error f => .error f
  | .ok j => Json.Draft.required (ofJson? j)

/-- The whole number of a scalar is one of 64 bits with a sign. -/
def InRange : Scalar → Prop
  | .int n => Json.minSigned ≤ n ∧ n ≤ Json.maxSigned
  | _ => True

theorem ofJson?_toJson {s : Scalar} (h : s.InRange) : ofJson? s.toJson = some s := by
  cases s with
  | int n => simp only [toJson, ofJson?, if_pos (show _ ∧ _ from h)]
  | _ => rfl

theorem ofDraft_toDraft (room : Nat) {s : Scalar} (h : s.InRange) :
    ofDraft room s.toJson.toDraft = .ok s := by
  have hv : s.toJson.toDraft.value room = .ok s.toJson := by
    cases s <;> simp [toJson, Json.toDraft, Json.Draft.value]
  rw [ofDraft, hv]
  simp only [ofJson?_toJson h, Json.Draft.required]

end Scalar

end LedgerQuery
