import LedgerQuery.Provider
import LedgerQuery.Settings.View

/-!
# Selecting a provider

A provider is asked for by name. The warehouse is selected only if its credentials are complete and
its driver is there; otherwise the embedded store is selected in its place, and the reason is kept.

* `Settings.select`: what a name leads to.
* `Settings.availableProviders`: the providers that are selected when they are asked for.
-/

namespace LedgerQuery

/-- Why the embedded store is selected in place of what was asked for. -/
inductive Fallback where
  /-- Keys of the credentials have no value. -/
  | missingCredentials (keys : List CredentialKey)
  | driverUnavailable
  /-- The name is no provider's. -/
  | unknownProvider (name : String)
  deriving DecidableEq, Repr

namespace Fallback

/-- The text of a reason. -/
def message : Fallback → String
  | .missingCredentials keys =>
    "missing warehouse credentials: " ++ String.intercalate ", " (keys.map (·.name))
  | .driverUnavailable => "warehouse driver not available"
  | .unknownProvider name => "unknown provider '" ++ name ++ "'"

/-- A reason on display. -/
def view : Fallback → String
  | .missingCredentials keys =>
    "MissingCredentials([" ++
      String.intercalate ", " (keys.map fun k => Text.Escaped.quote k.name) ++ "])"
  | .driverUnavailable => "DriverUnavailable"
  | .unknownProvider name => "UnknownProvider(" ++ Text.Escaped.quote name ++ ")"

end Fallback

/-- A provider with what it takes to connect to it. -/
inductive DataSource where
  | embedded (path : String)
  | warehouse (credentials : Driver.Credentials)
  deriving DecidableEq

/-- The provider of a source. -/
def DataSource.provider : DataSource → Provider
  | .embedded _ => .embedded
  | .warehouse _ => .warehouse

/-- What a request for a provider leads to. -/
structure Selection where
  /-- The name that was looked at, in small letters. -/
  requested : String
  source : DataSource
  /-- Why the source is not what was asked for. -/
  fallback : Option Fallback := none
  deriving DecidableEq

namespace Selection

/-- The provider that is selected. -/
def provider (s : Selection) : Provider := s.source.provider

/-- Something else was asked for. -/
def isFallback (s : Selection) : Bool := s.fallback.isSome

/-- A selection on display. What it takes to connect is left out. -/
def view (s : Selection) : String :=
  "Selection \x7b requested: " ++ Text.Escaped.quote s.requested ++ ", provider: " ++
    s.provider.label ++ ", fallback: " ++
    (match s.fallback with
      | none => "None"
      | some f => "Some(" ++ f.view ++ ")") ++ ", .. \x7d"

/-- What a user is told about a selection that is not what was asked for. -/
def note? (s : Selection) : Option String :=
  s.fallback.map fun f =>
    "Note: using " ++ s.provider.name ++ " instead of '" ++ s.requested ++ "' (" ++ f.message ++ ")"

end Selection

namespace Settings

/-- The name that is looked at: the one asked for, unless it is blank, and else the default. -/
def requestedName (s : Settings) (asked : Option String) : String :=
  match asked with
  | some name => Text.lower (if Text.isBlankText name then s.defaultProvider else Text.trim name)
  | none => Text.lower s.defaultProvider

/-- The embedded store. A path with a variable that is not set is taken as it is. -/
def embeddedSource (s : Settings) (env : Environment) : DataSource :=
  .embedded (((s.expandedDatabasePath env).toOption).getD s.databasePath)

/-- What a name in small letters leads to. -/
def selectNamed (s : Settings) (env : Environment) (isAvailable : Bool) (name : String) :
    Selection :=
  let instead (reason : Fallback) : Selection := ⟨name, s.embeddedSource env, some reason⟩
  match Provider.ofName? name with
  | .error _ => instead (.unknownProvider name)
  | .ok .embedded => ⟨name, s.embeddedSource env, none⟩
  | .ok .warehouse =>
    match s.credentials env with
    | .error keys => instead (.missingCredentials keys)
    | .ok c => if isAvailable then ⟨name, .warehouse c, none⟩ else instead .driverUnavailable

/-- What a request for a provider leads to, given whether there is a driver for the warehouse. -/
def select (s : Settings) (env : Environment) (isAvailable : Bool) (asked : Option String) :
    Selection :=
  s.selectNamed env isAvailable (s.requestedName asked)

/-- The providers that are selected when they are asked for. -/
def availableProviders (s : Settings) (env : Environment) (isAvailable : Bool) : List Provider :=
  .embedded :: if (s.credentials env).isOk && isAvailable then [.warehouse] else []

end Settings

end LedgerQuery
