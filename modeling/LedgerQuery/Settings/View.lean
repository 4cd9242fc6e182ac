import LedgerQuery.Settings.Basic
import LedgerQuery.Text.Escaped

/-!
# Settings on display

The two texts that settings and credentials are shown by. Neither tells the password: the first one
leaves it out, the second one puts stars in its place. Credentials have a second view, as the
parameters of the request that opens a connection.

* `Settings.toJson_password`, `Settings.view_password`: what is shown does not depend on the
  password.
-/

namespace LedgerQuery

/-- A value that may be missing, with `null` in its place. -/
def optionJson : Option String → Json := Json.ofOption .text

namespace Settings

/-- The settings in JSON, without the password. -/
def toJson (s : Settings) : Json :=
  let w := s.warehouse
  .object [("provider", .object [("default", .text s.defaultProvider)]),
    ("local", .object [("path", .text s.databasePath)]),
    ("warehouse", .object [("account", optionJson w.account), ("user", optionJson w.user),
      ("warehouse", optionJson w.warehouse), ("database", optionJson w.database),
      ("schema", optionJson w.schema), ("driver", .object [("path", optionJson w.driverPath)])])]

/-- A named value on display, with its fields. -/
def viewOf (name : String) (fields : List (String × String)) : String :=
  name ++ " \x7b " ++ String.intercalate ", " (fields.map fun f => f.1 ++ ": " ++ f.2) ++ " \x7d"

/-- What stands for a password. -/
def mask : String := "***"

/-- The settings on display. -/
def view (s : Settings) : String :=
  let w := s.warehouse
  let show? := Text.Escaped.option
  viewOf "Settings" [
    ("provider", viewOf "ProviderSettings" [("default", Text.Escaped.quote s.defaultProvider)]),
    ("local", viewOf "LocalSettings" [("path", Text.Escaped.quote s.databasePath)]),
    ("warehouse", viewOf "WarehouseSettings" [("account", show? w.account),
      ("user", show? w.user), ("password", show? (w.password.map fun _ => mask)),
      ("warehouse", show? w.warehouse), ("database", show? w.database),
      ("schema", show? w.schema),
      ("driver", viewOf "DriverSettings" [("path", show? w.driverPath)])])]

end Settings

namespace Driver.Credentials

/-- The credentials in JSON, without the password. -/
def toJson (c : Credentials) : Json :=
  .object [("account", .text c.account), ("user", .text c.user), ("warehouse", .text c.warehouse),
    ("database", .text c.database), ("schema", .text c.schema)]

/-- The credentials on display under a name. -/
def viewAs (name : String) (c : Credentials) : String :=
  let quote := Text.Escaped.quote
  Settings.viewOf name [("account", quote c.account), ("user", quote c.user),
    ("password", quote Settings.mask), ("warehouse", quote c.warehouse),
    ("database", quote c.database), ("schema", quote c.schema)]

/-- The credentials on display. -/
def view (c : Credentials) : String := c.viewAs "WarehouseCredentials"

/-- The parameters that open a connection on display. -/
def openingView (c : Credentials) : String := c.viewAs "OpenConnectionParams"

end Driver.Credentials

namespace Settings

/-- The settings in JSON do not depend on the password. -/
theorem toJson_password (s : Settings) (p : Option String) :
    toJson { s with warehouse := { s.warehouse with password := p } } = toJson s := rfl

/-- The settings on display do not depend on what the password is. -/
theorem view_password (s : Settings) (p q : String) :
    view { s with warehouse := { s.warehouse with password := some p } } =
      view { s with warehouse := { s.warehouse with password := some q } } := rfl

end Settings

end LedgerQuery
