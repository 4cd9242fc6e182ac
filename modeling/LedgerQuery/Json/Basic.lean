/-!
# JSON values

A JSON value keeps the order of an object's members and the difference between whole numbers and
floats: `1` and `1.0` are different values. Whole numbers are those of 64 bits, signed or unsigned.

* `insert_keys`: putting a member into an object keeps the place of a key that is already there.
-/

namespace LedgerQuery

/-- A JSON value. -/
inductive Json where
  | null
  | bool (value : Bool)
  | int (value : Int)
  | float (value : Float)
  | text (value : String)
  | list (items : List Json)
  | object (members : List (String × Json))
  deriving BEq, Inhabited

namespace Json

/-- The smallest signed whole number of 64 bits. -/
def minSigned : Int := -9223372036854775808

/-- The largest signed whole number of 64 bits. -/
def maxSigned : Int := 9223372036854775807

/-- The largest unsigned whole number of 64 bits. -/
def maxUnsigned : Int := 18446744073709551615

/-- Puts a value under a key: in place of the old one, or behind all others. -/
def insert {α : Type} (key : String) (value : α) : List (String × α) → List (String × α)
  | [] => [(key, value)]
  | m :: r => if m.1 = key then (key, value) :: r else m :: insert key value r

/-- The member of an object, or nothing for any other value. -/
def get? (j : Json) (key : String) : Option Json :=
  match j with
  | .object members => members.lookup key
  | _ => none

/-- The value is `null`. -/
def isNull : Json → Bool
  | .null => true
  | _ => false

/-- A missing value as `null`. -/
def ofOption {α : Type} (f : α → Json) : Option α → Json
  | none => .null
  | some a => f a

@[simp] theorem insert_nil {α : Type} (key : String) (value : α) :
    insert key value [] = [(key, value)] := rfl

/-- The keys after an insertion: unchanged if the key is there, else the key is the last one. -/
theorem insert_keys {α : Type} (key : String) (value : α) (ms : List (String × α)) :
    (insert key value ms).map Prod.fst =
      if key ∈ ms.map Prod.fst then ms.map Prod.fst else ms.map Prod.fst ++ [key] := by
  induction ms with
  | nil => simp
  | cons m r ih =>
    by_cases h : m.1 = key
    · simp [insert, h]
    · have h' : ¬ key = m.1 := fun e => h e.symm
      by_cases hr : key ∈ r.map Prod.fst
      · rw [if_pos (by simp [hr])]
        simp only [insert, h, if_false, List.map_cons, ih, if_pos hr]
      · rw [if_neg (by simpa [h'] using hr)]
        simp only [insert, h, if_false, List.map_cons, ih, if_neg hr, List.cons_append]

end Json

end LedgerQuery
