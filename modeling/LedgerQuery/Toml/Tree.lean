import LedgerQuery.Json.Basic

/-!
# Settings documents as trees

A settings document gives values to keys, one after another, in tables that its headers name. Each
table remembers how it came about, because that decides what may be added to it later.

* `Tree`: the values of a document.
* `assign`: gives a value to a key; no key is given two values.
* `openTable`, `openItem`: what a header does to the document.
-/

namespace LedgerQuery.Toml

/-- How a table came about. -/
inductive Origin where
  /-- On the way to a table that a header names. -/
  | implied
  /-- On the way to a key with several parts. -/
  | dotted
  /-- A header of its own. -/
  | headed
  /-- A value in braces, to which nothing is added. -/
  | inline
  deriving DecidableEq

/-- A value of a document. -/
inductive Tree where
  | text (value : String)
  | bool (value : Bool)
  | int (value : Int)
  | float (value : Float)
  /-- A date, a time or both. -/
  | moment (value : String)
  | list (items : List Tree)
  | table (origin : Origin) (members : List (String × Tree))
  /-- Tables that headers in double brackets made. -/
  | tables (items : List (List (String × Tree)))

/-- What a table holds, in the order in which it was given. -/
abbrev Members := List (String × Tree)

namespace Members

/-- Does something to the table at the end of a path; the tables on the way are made if there are
none. Of tables in a row the last one is meant. A key with several parts does not go into a table
that has a header of its own. -/
def at? (isDotted : Bool) (change : Origin → Members → Option Members) :
    List String → Origin → Members → Option Members
  | [], origin, ms => change origin ms
  | key :: path, _, ms =>
    match ms.lookup key with
    | none =>
      let origin := if isDotted then .dotted else .implied
      (at? isDotted change path origin []).map fun new => Json.insert key (.table origin new) ms
    | some (.table origin old) =>
      if origin = .inline ∨ (isDotted = true ∧ origin = .headed) then none
      else (at? isDotted change path origin old).map fun new =>
        Json.insert key (.table origin new) ms
    | some (.tables items) =>
      match items.getLast? with
      | none => none
      | some old => (at? isDotted change path .headed old).map fun new =>
        Json.insert key (.tables (items.dropLast ++ [new])) ms
    | some _ => none

/-- Gives a value to a key of the table at hand. A key with several parts ends in a table that such
keys made, any other key in a table that they did not make. -/
def assign (path : List String) (key : String) (value : Tree) (origin : Origin) (ms : Members) :
    Option Members :=
  let change (origin : Origin) (ms : Members) : Option Members :=
    if (origin == .dotted) == path.isEmpty then none
    else if (ms.lookup key).isSome then none
    else some (ms ++ [(key, value)])
  at? (!path.isEmpty) change path origin ms

/-- Opens the table that a header names. It may have come about on the way to others. -/
def openTable (path : List String) (key : String) (ms : Members) : Option Members :=
  let change (_ : Origin) (ms : Members) : Option Members :=
    match ms.lookup key with
    | none => some (ms ++ [(key, .table .headed [])])
    | some (.table .implied old) => some (Json.insert key (.table .headed old) ms)
    | some _ => none
  at? false change path .headed ms

/-- Adds a table to those in a row that a header names. -/
def openItem (path : List String) (key : String) (ms : Members) : Option Members :=
  let change (_ : Origin) (ms : Members) : Option Members :=
    match ms.lookup key with
    | none => some (ms ++ [(key, .tables [[]])])
    | some (.tables items) => some (Json.insert key (.tables (items ++ [[]])) ms)
    | some _ => none
  at? false change path .headed ms

end Members

/-- A line of a document. A key is its parts before the last one, and the last one. -/
inductive Statement where
  /-- A key and its value. -/
  | assign (path : List String) (key : String) (value : Tree)
  /-- A header in brackets. -/
  | table (path : List String) (key : String)
  /-- A header in double brackets. -/
  | item (path : List String) (key : String)

/-- What lines make of a document; `place` leads to the table that the last header opened. -/
def Members.build : List Statement → (place : List String) → Members → Option Members
  | [], _, ms => some ms
  | .assign path key value :: r, place, ms => do
    let ms ← ms.at? false (Members.assign path key value) place .headed
    Members.build r place ms
  | .table path key :: r, _, ms => do
    let ms ← ms.openTable path key
    Members.build r (path ++ [key]) ms
  | .item path key :: r, _, ms => do
    let ms ← ms.openItem path key
    Members.build r (path ++ [key]) ms

end LedgerQuery.Toml
