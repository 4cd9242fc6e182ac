import LedgerQuery.Settings.Basic
import LedgerQuery.Toml.Reader

/-!
# Settings in a document

The settings that a document gives. Keys that are no settings are skipped, and settings that are not
given keep their defaults. A group of settings is a table, or a list of the settings in order.

* `Settings.parse?`: the settings of a document, if it is well-formed and has texts where settings
  are texts.
-/

namespace LedgerQuery

namespace Settings

open Toml (Tree Members)

/-- The fields of a group of settings, as far as they are given, under their names. -/
def group? (names : List String) : Tree → Option Members
  | .table _ ms => some ms
  | .list items => some (names.zip items)
  | .tables items => some (names.zip (items.map (.table .headed ·)))
  | .moment _ => some []
  | _ => none

/-- A setting that is a text; the default if it is not given. -/
def text? (key other : String) (ms : Members) : Option String :=
  match ms.lookup key with
  | none => some other
  | some (.text s) => some s
  | some _ => none

/-- A setting that is a text or missing. -/
def optional? (key : String) (ms : Members) : Option (Option String) :=
  match ms.lookup key with
  | none => some none
  | some (.text s) => some (some s)
  | some _ => none

/-- A group inside another one. -/
def inner? (key : String) (names : List String) (ms : Members) : Option Members :=
  match ms.lookup key with
  | none => some []
  | some t => group? names t

/-- The settings of a table. -/
def ofMembers? (ms : Members) : Option Settings := do
  let provider ← inner? "provider" ["default"] ms
  let store ← inner? "local" ["path"] ms
  let w ← inner? "warehouse"
    ["account", "user", "password", "warehouse", "database", "schema", "driver"] ms
  let driver ← inner? "driver" ["path"] w
  return {
    defaultProvider := ← text? "default" "local" provider
    databasePath := ← text? "path" "data/banking.db" store
    warehouse := {
      account := ← optional? "account" w
      user := ← optional? "user" w
      password := ← optional? "password" w
      warehouse := ← optional? "warehouse" w
      database := ← optional? "database" w
      schema := ← optional? "schema" w
      driverPath := ← optional? "path" driver } }

/-- The settings of a document. -/
def parse? (s : String) : Option Settings :=
  (Toml.parse? s).bind ofMembers?

end Settings

end LedgerQuery
