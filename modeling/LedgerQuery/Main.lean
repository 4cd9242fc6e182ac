import LedgerQuery.CommandLine.Surroundings

/-!
# The program

Collects the variables and files that bear on the arguments, asks the library, and prints what it
answers.
-/

namespace LedgerQuery.Program

/-- The variables of some names that are set. -/
def environmentOf (names : List String) : IO Environment :=
  names.eraseDups.filterMapM fun name => do
    return (← IO.getEnv name).map fun value => (name, value)

/-- The workspace with what is at a path and on the way there. -/
def addPath (w : Workspace) (path : String) : IO Workspace := do
  let here ← IO.currentDir
  (pathsAlong path).foldlM (fun w (step : String) => do
    let place := here / step
    if w.exists? step then return w
    else if ← place.isDir then return w.add step .directory
    else if ← place.pathExists then
      return w.add step (.file (← IO.FS.readBinFile place).toList)
    else return w) w

end LedgerQuery.Program

open LedgerQuery LedgerQuery.Program in
/-- Answers the arguments. -/
def main (args : List String) : IO UInt32 := do
  let start ← IO.monoNanosNow
  let here := (← IO.currentDir).toString
  let asked ← environmentOf CommandLine.variableNames
  let documents := CommandLine.documentPaths asked args
  let empty : Workspace := {
    root := ""
    here := pathSteps here
    searchPath := (((asked.get? "PATH").getD "").splitOn ":").filter (· != "") }
  let w ← documents.foldlM addPath (empty.add here .directory)
  let referenced ← environmentOf (CommandLine.referencedNames w asked documents)
  let env := asked ++ referenced
  let w ← (CommandLine.sourcePaths w env args).foldlM addPath w
  let elapsed : Elapsed := ⟨0, (← IO.monoNanosNow) - start⟩
  let outcome := CommandLine.run w env elapsed args
  IO.print outcome.output
  outcome.remarks.forM IO.eprintln
  return UInt32.ofNat outcome.code
