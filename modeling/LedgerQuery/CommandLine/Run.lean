import LedgerQuery.Backend.Embedded
import LedgerQuery.CommandLine.Command
import LedgerQuery.Selection
import LedgerQuery.Settings.Location
import LedgerQuery.Settings.Variables

/-!
# Running a command

What the program prints for given arguments, files and variables, and the code that it ends with.
Showing a statement needs no settings. All other commands do; most of them also need a connection,
which is closed again when the command is done.

* `CommandLine.run`: what the program answers.
-/

namespace LedgerQuery

/-- What the program leaves behind. -/
structure Outcome where
  /-- Zero for success, one for a failure, two for wrong arguments. -/
  code : Nat := 0
  output : String := ""
  /-- What it tells the user besides. -/
  remarks : List String := []
  deriving DecidableEq, Inhabited

/-- Runs something on a backend that is connected for it. -/
def Backend.inSession {σ α : Type} (b : Backend σ) (act : StateM σ (Except String α)) :
    StateM σ (Except String α) := do
  match ← b.openSession with
  | .error e => return .error e.message
  | .ok () =>
    let result ← act
    b.disconnect
    return result

namespace CommandLine

/-- The text of a fault in a document that was given as an argument. -/
def faultText : Json.Fault → String
  | .malformed => "malformed document"
  | .ended => "document ends too early"
  | .mismatch => "document is no descriptor"

/-- The descriptor that is asked about. -/
def descriptor : Wanted → Except String Descriptor
  | .written json => (Descriptor.parse json).mapError faultText
  | .built d => .ok d

/-- The text that shows a statement. -/
def showStatement (s : Statement) (inline : Bool) : String :=
  if inline then s.inlineSql
  else (Json.object [("dialect", .text s.dialect.name), ("sql", .text s.sql),
    ("params", .list (s.params.map Sql.Literal.toJson))]).pretty

/-- What a connected backend answers to a command. -/
def ask {σ : Type} (b : Backend σ) (elapsed : Elapsed) (command : Command) :
    StateM σ (Except String Json) := do
  match command with
  | .query wanted =>
    match descriptor wanted with
    | .error m => return .error m
    | .ok d => return .ok (← b.structured d elapsed).toJson
  | .exec sql =>
    return ((← b.execute sql []).map fun r => RowSet.recordsJson r.records).mapError (·.message)
  | .schema table => return ((← b.tableSchema table).map (·.toJson)).mapError (·.message)
  | .tables => return ((← b.tables).map fun ts => .list (ts.map .text)).mapError (·.message)
  | .info => return .ok (← b.info).toJson
  | .sql _ _ _ | .providers => return .ok .null

/-- What the selected backend answers to a command. -/
def askSelected (s : Selection) (driver : Option String) (w : Workspace) (elapsed : Elapsed)
    (command : Command) : Except String Json :=
  match s.source with
  | .embedded path =>
    let b := Embedded.backend path
    ((b.inSession (ask b elapsed command)) { world := Embedded.prepare path w }).1
  | .warehouse c =>
    let b := Warehouse.backend (Connector.ofDriver driver) c
    ((b.inSession (ask b elapsed command)) { world := { workspace := w } }).1

/-- What the program leaves behind after an error. -/
def fail (message : String) : Outcome := { code := 1, remarks := ["Error: " ++ message] }

/-- What the program leaves behind after an answer. -/
def succeed (text : String) : Outcome := { output := text ++ "\n" }

/-- What the program leaves behind after a result. -/
def conclude : Except String Json → Outcome
  | .ok j => succeed j.pretty
  | .error m => fail m

/-- The settings for an invocation. -/
def settings (w : Workspace) (env : Environment) (i : Invocation) :
    Except Settings.LoadError Settings :=
  match i.config with
  | some path => (Settings.ofFile w path).map (·.withEnvironment env)
  | none => Settings.load w env

/-- Carries a command out that needs settings. -/
def carryOut (w : Workspace) (env : Environment) (elapsed : Elapsed) (i : Invocation)
    (s : Settings) : Outcome :=
  let driver := w.driverPath? (s.expandedDriverPath env)
  match i.command with
  | .providers => conclude (.ok (.list
      ((s.availableProviders env driver.isSome).map Provider.toJson)))
  | command =>
    let selection := s.select env driver.isSome i.provider
    let outcome := conclude (askSelected selection driver w elapsed command)
    { outcome with remarks := selection.note?.toList ++ outcome.remarks }

/-- Carries an invocation out. -/
def carry (w : Workspace) (env : Environment) (elapsed : Elapsed) (i : Invocation) : Outcome :=
  match i.command with
  | .sql wanted dialect inline =>
    match descriptor wanted with
    | .error m => fail m
    | .ok d => succeed (showStatement (d.compile dialect) inline)
  | _ =>
    match settings w env i with
    | .error e => fail e.message
    | .ok s => carryOut w env elapsed i s

/-- How the program is used. -/
def usage : String :=
  "Usage: strata [OPTIONS] <COMMAND>\n\n" ++
  "Commands: " ++ String.intercalate ", " (CommandForm.all.map (·.name)) ++ "\n"

/-- The name of the program with its version. -/
def version : String := "strata 0.1.0"

/-- The variables that are set for the program: those of the environment, and those of the file of
variables in the directory at hand. -/
def environment (w : Workspace) (env : Environment) : Environment :=
  match w.find? ".env" with
  | some (.file bytes) | some (.program bytes _) =>
    match Text.decode? bytes with
    | some s => env.extend (Variables.read env s)
    | none => env
  | _ => env

/-- What the program answers. -/
def run (w : Workspace) (env : Environment) (elapsed : Elapsed) (args : List String) : Outcome :=
  match Invocation.ofArguments args with
  | .error .help => { output := usage }
  | .error .version => succeed version
  | .error .misuse => { code := 2, remarks := ["error: wrong arguments", usage] }
  | .ok i => carry w (environment w env) elapsed i

end CommandLine

end LedgerQuery
