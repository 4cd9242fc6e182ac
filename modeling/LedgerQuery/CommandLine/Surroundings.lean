import LedgerQuery.CommandLine.Run

/-!
# What a command looks at

The variables and paths that can bear on what the program answers. Everything else may be left out of
the environment and the workspace that the program is given.

* `CommandLine.documentPaths`: where settings and variables may be kept.
* `CommandLine.sourcePaths`: the database file, and the places of the driver.
-/

namespace LedgerQuery

/-- The names that a text refers to. -/
def Expansion.names (s : String) : List String :=
  (segments s.toList).filterMap Segment.name?

/-- The paths along a path, from the outside to the path itself. -/
def pathsAlong (path : String) : List String :=
  let steps := pathSteps path
  let start := if path.startsWith "/" then "/" else ""
  (List.range steps.length).map fun n => start ++ String.intercalate "/" (steps.take (n + 1))

namespace CommandLine

/-- The variables that the program asks for by name. -/
def variableNames : List String :=
  ["STRATA_CONFIG", "XDG_CONFIG_HOME", "HOME", "PATH", "DATA_PROVIDER", "LOCAL_DB_PATH",
    "SNOWFLAKE_DRIVER_PATH"] ++ CredentialKey.all.map (·.name)

/-- Where settings and variables may be kept. -/
def documentPaths (env : Environment) (args : List String) : List String :=
  let asked := match Invocation.ofArguments args with
    | .ok i => i.config.toList
    | .error _ => []
  [".env", Settings.fileName] ++ asked ++ (env.get? "STRATA_CONFIG").toList ++
    (Settings.userPath? env).toList

/-- The names that the texts refer to in which a setting may stand. -/
def referencedNames (w : Workspace) (env : Environment) (paths : List String) : List String :=
  let documents := paths.filterMap fun path => match w.find? path with
    | some (.file bytes) => Text.decode? bytes
    | _ => none
  (env.map Prod.snd ++ documents).flatMap Expansion.names

/-- The database file, and the places of the driver. -/
def sourcePaths (w : Workspace) (env : Environment) (args : List String) : List String :=
  let env := environment w env
  match Invocation.ofArguments args with
  | .error _ => []
  | .ok i =>
    match settings w env i with
    | .error _ => []
    | .ok s =>
      ((s.expandedDatabasePath env).toOption).getD s.databasePath ::
        (s.expandedDriverPath env).toList ++ Driver.usualPaths ++
        w.searchPath.map (· ++ "/" ++ Driver.fileName)

end CommandLine

end LedgerQuery
