import LedgerQuery.Json.Draft
import LedgerQuery.Decimal.Binary

/-!
# Records in JSON

Readers for values of a known kind. A record is an object whose unknown members are skipped and
whose known members occur at most once, or a list of its fields in order. What a reader says of a
draft depends only on the part of the draft before the first fault it meets.

* `Draft.record`: runs through the fields of a record from the left.
* `Draft.elements`: reads every item of a list.
-/

namespace LedgerQuery.Json

/-- Where the items behind the last field of a record are faults: a text shows there that it goes on
where it has to end, a value held in memory has the wrong number of items. -/
inductive Source where
  | stream
  | memory
  deriving DecidableEq

/-- A field of a record. -/
structure Field where
  name : String
  /-- A record written as a list may end before this field. -/
  omissible : Bool

namespace Draft

/-- The fault of a reader who wants a value of another kind. -/
def fault : Draft → Fault
  | .broken b => b.wanted
  | .number .outOfRange => .malformed
  | .text none => .malformed
  | _ => .mismatch

/-- A string. -/
def string : Draft → Except Fault String
  | .text (some s) => .ok s
  | d => .error d.fault

/-- A truth value. -/
def boolean : Draft → Except Fault Bool
  | .bool b => .ok b
  | d => .error d.fault

/-- A whole number in the given range. -/
def wholeIn (least greatest : Int) : Draft → Except Fault Int
  | .number (.whole n) => if least ≤ n ∧ n ≤ greatest then .ok n else .error .mismatch
  | d => .error d.fault

/-- A number from zero up to the largest one of 64 bits. -/
def count (d : Draft) : Except Fault Nat :=
  (d.wholeIn 0 maxUnsigned).map Int.toNat

/-- A float; a whole number counts as the nearest one. -/
def float : Draft → Except Fault Float
  | .number (.whole n) => .ok (Decimal.ofInt n)
  | .number (.float x) => .ok x
  | d => .error d.fault

/-- A value that may be `null`. -/
def option {α : Type} (read : Draft → Except Fault α) : Draft → Except Fault (Option α)
  | .null => .ok none
  | d => (read d).map some

/-- The items of a list that may break off behind them. -/
def eachItem {α : Type} (read : Draft → Except Fault α) (ending : Option Break) :
    List Draft → Except Fault (List α)
  | [] => (close ending).map fun _ => []
  | d :: r =>
    match read d with
    | .error f => .error f
    | .ok a => (eachItem read ending r).map (a :: ·)

/-- A list whose items are all of one kind. -/
def elements {α : Type} (read : Draft → Except Fault α) : Draft → Except Fault (List α)
  | .list items ending => eachItem read ending items
  | d => .error d.fault

/-- The members of an object in order; a repeated key keeps its first place and its last value. -/
def eachMember {α : Type} (read : Draft → Except Fault α) (ending : Option Break) :
    List (Option String × Draft) → List (String × α) → Except Fault (List (String × α))
  | [], seen => (close ending).map fun _ => seen
  | m :: r, seen =>
    match m.1 with
    | none => .error .malformed
    | some key =>
      match read m.2 with
      | .error f => .error f
      | .ok a => eachMember read ending r (insert key a seen)

/-- An object whose members are all of one kind. -/
def dictionary {α : Type} (read : Draft → Except Fault α) :
    Draft → Except Fault (List (String × α))
  | .object members ending => eachMember read ending members []
  | d => .error d.fault

/-- The fields of a record given as an object. -/
def eachField {σ : Type} (fields : List Field) (step : σ → String → Draft → Except Fault σ)
    (ending : Option Break) :
    List (Option String × Draft) → List String → σ → Except Fault σ
  | [], _, state => (close ending).map fun _ => state
  | m :: r, seen, state =>
    match m.1 with
    | none => .error .malformed
    | some key =>
      if fields.any (·.name == key) then
        if key ∈ seen then .error .mismatch
        else match step state key m.2 with
          | .error f => .error f
          | .ok state => eachField fields step ending r (key :: seen) state
      else match m.2.skip with
        | .error f => .error f
        | .ok _ => eachField fields step ending r seen state

/-- The fault of an item behind the last field. -/
def surplus (source : Source) (d : Draft) : Fault :=
  match source, d with
  | .memory, _ => .mismatch
  | .stream, .broken b => b.unasked
  | .stream, _ => .malformed

/-- The fields of a record given as a list. -/
def eachPosition {σ : Type} (source : Source) (step : σ → String → Draft → Except Fault σ)
    (ending : Option Break) : List Field → List Draft → σ → Except Fault σ
  | [], [], state => (close ending).map fun _ => state
  | [], d :: _, _ => .error (surplus source d)
  | f :: fs, [], state =>
    match close ending with
    | .error e => .error e
    | .ok _ => if (f :: fs).all (·.omissible) then .ok state else .error .mismatch
  | f :: fs, d :: r, state =>
    match step state f.name d with
    | .error e => .error e
    | .ok state => eachPosition source step ending fs r state

/-- Runs through the fields of a record from the left, whichever way it is given. -/
def record {σ : Type} (source : Source) (fields : List Field)
    (step : σ → String → Draft → Except Fault σ) (start : σ) : Draft → Except Fault σ
  | .object members ending => eachField fields step ending members [] start
  | .list items ending => eachPosition source step ending fields items start
  | d => .error d.fault

/-- A field that has to be there. -/
def required {α : Type} : Option α → Except Fault α
  | some a => .ok a
  | none => .error .mismatch

end Draft

end LedgerQuery.Json
