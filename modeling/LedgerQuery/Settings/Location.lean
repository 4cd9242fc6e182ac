import LedgerQuery.Settings.Document
import LedgerQuery.Text.Bytes
import LedgerQuery.Workspace

/-!
# Where settings come from

Settings are read from the first document among those named by the environment, kept in the
directory at hand, and kept for the user. If there is none, the defaults hold. A document that is
there but cannot be read is an error and not passed over.

* `Settings.location?`: the path of the document.
* `Settings.load`: the settings of that document, with the values that the environment gives.
-/

namespace LedgerQuery

namespace Settings

/-- Why there are no settings. -/
inductive LoadError where
  /-- Nothing is at the path. -/
  | missing (path : String)
  | isDirectory
  /-- The document is no text. -/
  | garbled
  /-- The document is no well-formed document of settings. -/
  | malformed
  deriving DecidableEq, Repr, Inhabited

/-- The text of an error. -/
def LoadError.message : LoadError → String
  | .missing path => "Config file not found: " ++ path
  | .isDirectory => "Failed to read config file: Is a directory (os error 21)"
  | .garbled => "Failed to read config file: stream did not contain valid UTF-8"
  | .malformed => "Failed to parse config file: malformed settings"

/-- The settings of the bytes of a document. -/
def ofBytes (bytes : List UInt8) : Except LoadError Settings :=
  match Text.decode? bytes with
  | none => .error .garbled
  | some s =>
    match parse? s with
    | none => .error .malformed
    | some settings => .ok settings

/-- The settings of the document at a path. -/
def ofFile (w : Workspace) (path : String) : Except LoadError Settings :=
  match w.find? path with
  | none => .error (.missing path)
  | some .directory => .error .isDirectory
  | some (.store _) => .error .garbled
  | some (.file bytes) | some (.program bytes _) => ofBytes bytes

/-- The file name of the document in the directory at hand. -/
def fileName : String := "strata.toml"

/-- The directory with the documents of the user. A path that starts elsewhere than at the outermost
directory does not name it. -/
def userDirectory? (env : Environment) : Option String :=
  match (env.get? "XDG_CONFIG_HOME").filter (·.startsWith "/") with
  | some dir => some dir
  | none => ((env.get? "HOME").filter (· != "")).map (· ++ "/.config")

/-- The path of the document that is kept for the user. -/
def userPath? (env : Environment) : Option String :=
  (userDirectory? env).map (· ++ "/strata/config.toml")

/-- The path of the document. A path that the environment gives is not looked at. -/
def location? (w : Workspace) (env : Environment) : Option String :=
  match env.get? "STRATA_CONFIG" with
  | some path => some path
  | none => if w.exists? fileName then some fileName else (userPath? env).filter w.exists?

/-- The settings of the document, with the values that the environment gives. -/
def load (w : Workspace) (env : Environment) : Except LoadError Settings :=
  match location? w env with
  | none => .ok (({} : Settings).withEnvironment env)
  | some path => (ofFile w path).map (·.withEnvironment env)

end Settings

end LedgerQuery
