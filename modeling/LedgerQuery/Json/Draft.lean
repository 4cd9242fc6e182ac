import LedgerQuery.Json.Basic

/-!
# Texts read as far as they go

A text is read into a draft: a value that may break off, together with the place and the kind of
its first fault. Whoever takes a draft apart walks it from the left, so that of several faults the
first one met decides, and a fault behind the place where the walk stops plays no part.

Numbers out of range and strings with half a surrogate pair are faults only for a reader who wants
the value. A reader who skips a value passes them, and has no limit on nesting.

* `Draft.value`: the value of a draft, read with care.
* `Draft.skip`: passes a draft whose value nobody asked for.
-/

namespace LedgerQuery.Json

/-- Why a text does not yield what is asked of it. -/
inductive Fault where
  /-- The text is no JSON. -/
  | malformed
  /-- The text ends too early. -/
  | ended
  /-- The value is not of the kind asked for. -/
  | mismatch
  deriving DecidableEq, Repr

/-- Where a text breaks off. -/
inductive Break where
  /-- Nothing is left where a value or a mark has to follow. -/
  | atEnd
  /-- Something else follows. The first fault depends on whether the value is wanted. -/
  | inside (wanted skipped : Fault)
  deriving DecidableEq

namespace Break

/-- The fault for a reader who wants the value. -/
def wanted : Break → Fault
  | .atEnd => .ended
  | .inside f _ => f

/-- The fault for a reader who skips the value. -/
def skipped : Break → Fault
  | .atEnd => .ended
  | .inside _ f => f

/-- The fault for a reader who accepts nothing at this place. -/
def unasked : Break → Fault
  | .atEnd => .ended
  | .inside _ _ => .malformed

/-- A break at a character that cannot stand there. -/
def malformed : Break := .inside .malformed .malformed

end Break

/-- A number of a text: whole if it is written so and has at most 64 bits. -/
inductive Number where
  | whole (value : Int)
  | float (value : Float)
  | outOfRange

/-- A value as far as the text goes. -/
inductive Draft where
  | null
  | bool (value : Bool)
  | number (value : Number)
  /-- A string; nothing where it holds half a surrogate pair. -/
  | text (value : Option String)
  | list (items : List Draft) (ending : Option Break)
  | object (members : List (Option String × Draft)) (ending : Option Break)
  | broken (place : Break)
  deriving Inhabited

/-- A whole text: a draft, and whether more follows it than blanks. -/
structure Document where
  draft : Draft
  trailing : Bool

/-- The containers that may be nested in one another. -/
def maxDepth : Nat := 127

namespace Draft

/-- The end of a container. -/
def close : Option Break → Except Fault Unit
  | none => .ok ()
  | some b => .error b.wanted

/-- The end of a container that is skipped. -/
def closeSkipped : Option Break → Except Fault Unit
  | none => .ok ()
  | some b => .error b.skipped

mutual

/-- Passes a value: only its shape matters. -/
def skip : Draft → Except Fault Unit
  | .list items ending => skipItems items ending
  | .object members ending => skipMembers members ending
  | .broken b => .error b.skipped
  | _ => .ok ()

/-- Passes the items of a list. -/
def skipItems : List Draft → Option Break → Except Fault Unit
  | [], ending => closeSkipped ending
  | d :: r, ending =>
    match skip d with
    | .error f => .error f
    | .ok _ => skipItems r ending

/-- Passes the members of an object. -/
def skipMembers : List (Option String × Draft) → Option Break → Except Fault Unit
  | [], ending => closeSkipped ending
  | m :: r, ending =>
    match skip m.2 with
    | .error f => .error f
    | .ok _ => skipMembers r ending

end

mutual

/-- The value of a draft in which `room` more containers may be opened. A repeated key of an object
keeps its first place and its last value. -/
def value (room : Nat) : Draft → Except Fault Json
  | .null => .ok .null
  | .bool b => .ok (.bool b)
  | .number (.whole n) => .ok (.int n)
  | .number (.float x) => .ok (.float x)
  | .number .outOfRange => .error .malformed
  | .text (some s) => .ok (.text s)
  | .text none => .error .malformed
  | .list items ending =>
    match room with
    | 0 => .error .malformed
    | room + 1 => (valueItems room items ending).map .list
  | .object members ending =>
    match room with
    | 0 => .error .malformed
    | room + 1 => (valueMembers room members ending []).map .object
  | .broken b => .error b.wanted

/-- The items of a list. -/
def valueItems (room : Nat) : List Draft → Option Break → Except Fault (List Json)
  | [], ending => (close ending).map fun _ => []
  | d :: r, ending =>
    match value room d with
    | .error f => .error f
    | .ok j => (valueItems room r ending).map (j :: ·)

/-- The members of an object, added to those before them. -/
def valueMembers (room : Nat) :
    List (Option String × Draft) → Option Break → List (String × Json) →
      Except Fault (List (String × Json))
  | [], ending, seen => (close ending).map fun _ => seen
  | m :: r, ending, seen =>
    match m.1 with
    | none => .error .malformed
    | some key =>
      match value room m.2 with
      | .error f => .error f
      | .ok j => valueMembers room r ending (insert key j seen)

end

end Draft

mutual

/-- A value as a draft that does not break off. -/
def toDraft : Json → Draft
  | .null => .null
  | .bool b => .bool b
  | .int n => .number (.whole n)
  | .float x => .number (.float x)
  | .text s => .text (some s)
  | .list items => .list (toDrafts items) none
  | .object members => .object (toMemberDrafts members) none

/-- The items of a list as drafts. -/
def toDrafts : List Json → List Draft
  | [] => []
  | j :: r => toDraft j :: toDrafts r

/-- The members of an object as drafts. -/
def toMemberDrafts : List (String × Json) → List (Option String × Draft)
  | [] => []
  | m :: r => (some m.1, toDraft m.2) :: toMemberDrafts r

end

namespace Document

/-- The result of a reader on the draft, provided that nothing follows it. -/
def finish {α : Type} (doc : Document) (read : Draft → Except Fault α) : Except Fault α :=
  match read doc.draft with
  | .error f => .error f
  | .ok a => if doc.trailing then .error .malformed else .ok a

end Document

end LedgerQuery.Json
