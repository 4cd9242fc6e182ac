import LedgerQuery.Text.Blank
import LedgerQuery.Settings.Expansion
import LedgerQuery.Driver.Message

/-!
# Settings

Which provider is used by default, where the database file is, and what opens a connection to the
warehouse. Values may refer to variables of the environment; they are looked up when a value is
used and not before.

* `withOverrides`: single values replaced from outside.
* `credentials`: what opens a connection, or the keys for which there is no value.
-/

namespace LedgerQuery

/-- The values that together open a connection to the warehouse. -/
inductive CredentialKey where
  | account
  | user
  | password
  | warehouse
  | database
  | schema
  deriving DecidableEq, Repr

namespace CredentialKey

/-- The keys in their fixed order. -/
def all : List CredentialKey := [.account, .user, .password, .warehouse, .database, .schema]

/-- The variable that gives the value of a key. -/
def name : CredentialKey → String
  | .account => "SNOWFLAKE_ACCOUNT"
  | .user => "SNOWFLAKE_USER"
  | .password => "SNOWFLAKE_PASSWORD"
  | .warehouse => "SNOWFLAKE_WAREHOUSE"
  | .database => "SNOWFLAKE_DATABASE"
  | .schema => "SNOWFLAKE_SCHEMA"

end CredentialKey

/-- The part of the settings that is about the warehouse. -/
structure WarehouseSettings where
  account : Option String := none
  user : Option String := none
  password : Option String := none
  warehouse : Option String := none
  database : Option String := none
  schema : Option String := none
  driverPath : Option String := none
  deriving DecidableEq, Inhabited

/-- The setting of a key. -/
def WarehouseSettings.get (w : WarehouseSettings) : CredentialKey → Option String
  | .account => w.account
  | .user => w.user
  | .password => w.password
  | .warehouse => w.warehouse
  | .database => w.database
  | .schema => w.schema

/-- The settings of the program. -/
structure Settings where
  defaultProvider : String := "local"
  databasePath : String := "data/banking.db"
  warehouse : WarehouseSettings := {}
  deriving DecidableEq, Inhabited

namespace Settings

/-- The value that replaces a setting: the one from outside unless it is missing or blank. -/
def override (lookup : String → Option String) (key : String) : Option String :=
  (lookup key).filter fun v => !Text.isBlankText v

/-- The settings with single values replaced. A value from outside is taken as it is. -/
def withOverrides (lookup : String → Option String) (s : Settings) : Settings :=
  let given := override lookup
  let w := s.warehouse
  { defaultProvider := (given "DATA_PROVIDER").getD s.defaultProvider
    databasePath := (given "LOCAL_DB_PATH").getD s.databasePath
    warehouse := {
      account := given CredentialKey.account.name <|> w.account
      user := given CredentialKey.user.name <|> w.user
      password := given CredentialKey.password.name <|> w.password
      warehouse := given CredentialKey.warehouse.name <|> w.warehouse
      database := given CredentialKey.database.name <|> w.database
      schema := given CredentialKey.schema.name <|> w.schema
      driverPath := given "SNOWFLAKE_DRIVER_PATH" <|> w.driverPath } }

/-- The settings with the values that the environment gives. -/
def withEnvironment (env : Environment) (s : Settings) : Settings :=
  s.withOverrides env.get?

/-- The path of the database file. -/
def expandedDatabasePath (s : Settings) (env : Environment) : Except Expansion.Missing String :=
  Expansion.expand env s.databasePath

/-- The path of the driver; none if it refers to a variable that is not set. -/
def expandedDriverPath (s : Settings) (env : Environment) : Option String :=
  s.warehouse.driverPath.bind fun p => (Expansion.expand env p).toOption

/-- The value of a key: the setting with its variables replaced, unless it is blank then. -/
def credential (s : Settings) (env : Environment) (key : CredentialKey) : Option String :=
  ((s.warehouse.get key).bind fun v => (Expansion.expand env v).toOption).filter
    fun v => !Text.isBlankText v

/-- The keys without a value, in their fixed order. -/
def missingCredentials (s : Settings) (env : Environment) : List CredentialKey :=
  CredentialKey.all.filter fun key => (s.credential env key).isNone

/-- What opens a connection, or the keys without a value. -/
def credentials (s : Settings) (env : Environment) :
    Except (List CredentialKey) Driver.Credentials :=
  match s.credential env .account, s.credential env .user, s.credential env .password,
    s.credential env .warehouse, s.credential env .database, s.credential env .schema with
  | some account, some user, some password, some warehouse, some database, some schema =>
    .ok ⟨account, user, password, warehouse, database, schema⟩
  | _, _, _, _, _, _ => .error (s.missingCredentials env)

end Settings

end LedgerQuery
