import LedgerQuery.Driver.Process
import LedgerQuery.Store.Execute
import LedgerQuery.Text.Split

/-!
# The files around the program

The outermost directory that the program may look at, with everything in it: files of bytes,
drivers, databases and directories. A relative path leads on from the directory in which the program
runs. A path that leads elsewhere leads to nothing.

* `Workspace.locate?`: the place that a path leads to.
* `Workspace.makeDirectories`: makes the directories on the way to a place.
-/

namespace LedgerQuery

/-- What is at a place. -/
inductive Entry where
  | file (bytes : List UInt8)
  /-- A file that can be started. -/
  | program (bytes : List UInt8) (p : Driver.Program)
  /-- A file that holds a database. -/
  | store (d : Store.Database)
  | directory
  deriving Inhabited

/-- The names on the way from the outermost directory. -/
abbrev Place := List String

/-- The directories around the program, and what is in them. -/
structure Workspace where
  /-- The path of the outermost directory. -/
  root : String := "/work"
  /-- The directory in which the program runs. -/
  here : Place := []
  /-- The directories in which programs are searched. -/
  searchPath : List String := []
  entries : List (Place × Entry) := []
  deriving Inhabited

/-- The parts of a path between its slashes. -/
def pathParts (path : String) : List String :=
  (Text.splitAt '/' path.toList).map String.ofList

/-- The parts of a path that lead anywhere. -/
def pathSteps (path : String) : List String :=
  (pathParts path).filter fun p => p != "" && p != "."

/-- The path of the directory that a path leads into last; none if it has one part. -/
def parentPath? (path : String) : Option String :=
  let parts := pathParts path
  let steps := match parts with
    | "." :: _ => "." :: pathSteps path
    | _ => pathSteps path
  let parent := String.intercalate "/" steps.dropLast
  if path.startsWith "/" then (if steps.isEmpty then none else some ("/" ++ parent))
  else if parent = "" then none
  else some parent

namespace Workspace

/-- What is at a place. -/
def entry? (w : Workspace) (place : Place) : Option Entry :=
  if place.isEmpty then some .directory else w.entries.lookup place

/-- There is a directory at a place. -/
def isDirectory (w : Workspace) (place : Place) : Bool :=
  match w.entry? place with
  | some .directory => true
  | _ => false

/-- The place one part further. -/
def step? (w : Workspace) (place : Place) (part : String) : Option Place :=
  if !w.isDirectory place then none
  else if part = "" ∨ part = "." then some place
  else if part = ".." then (if place.isEmpty then none else some place.dropLast)
  else if (w.entry? (place ++ [part])).isSome then some (place ++ [part])
  else none

/-- Where a path starts, and its parts from there on. -/
def start? (w : Workspace) (path : String) : Option (Place × List String) :=
  if path.contains '\x00' then none
  else if path.startsWith "/" then
    if path = w.root then some ([], [])
    else if path.startsWith (w.root ++ "/") then
      some ([], pathParts ((path.drop (w.root.length + 1)).toString))
    else none
  else if path = "" then none
  else some (w.here, pathParts path)

/-- The place that a path leads to, if there is anything. -/
def locate? (w : Workspace) (path : String) : Option Place := do
  let (origin, parts) ← w.start? path
  parts.foldlM w.step? origin

/-- What a path leads to. -/
def find? (w : Workspace) (path : String) : Option Entry := do
  w.entry? (← w.locate? path)

/-- There is something where a path leads. -/
def exists? (w : Workspace) (path : String) : Bool := (w.locate? path).isSome

/-- Puts something at a place. -/
def put (w : Workspace) (place : Place) (e : Entry) : Workspace :=
  { w with entries := (w.entries.filter fun f => f.1 != place) ++ [(place, e)] }

/-- Makes the directories along a path as far as nothing else is in the way. -/
def makeAlong (w : Workspace) (place : Place) : List String → Workspace
  | [] => w
  | part :: parts =>
    match w.step? place part with
    | some next => w.makeAlong next parts
    | none =>
      if w.isDirectory place && part != ".." && (w.entry? (place ++ [part])).isNone then
        (w.put (place ++ [part]) .directory).makeAlong (place ++ [part]) parts
      else w

/-- Makes the directories along a path. -/
def makeDirectories (w : Workspace) (path : String) : Workspace :=
  match w.start? path with
  | some (origin, parts) => w.makeAlong origin parts
  | none => w

/-- The place of a path, whether anything is there or not. A part that leads up takes away the part
before it, whatever that part is. -/
def place? (w : Workspace) (path : String) : Option Place := do
  let (origin, parts) ← w.start? path
  return parts.foldl (fun place part =>
    if part = "" ∨ part = "." then place
    else if part = ".." then place.dropLast
    else place ++ [part]) origin

/-- Puts something at the place of a path, with the directories on the way. -/
def add (w : Workspace) (path : String) (e : Entry) : Workspace :=
  match w.place? path with
  | some place => (w.makeAlong [] place.dropLast).put place e
  | none => w

/-- What a driver is that can be started by a path: a path without slashes is searched. -/
def program? (w : Workspace) (path : String) : Except Driver.StartFault Driver.Program :=
  if path.contains '/' then
    match w.find? path with
    | none => .error .missing
    | some (.program _ p) => .ok p
    | some _ => .error .denied
  else
    match w.searchPath.findSome? fun dir => match w.find? (dir ++ "/" ++ path) with
      | some (.program _ p) => some p
      | _ => none with
    | some p => .ok p
    | none => .error .missing

/-- The first path under which the search for programs finds one that can be started. -/
def search? (w : Workspace) (name : String) : Option String :=
  (w.searchPath.map fun dir => dir ++ "/" ++ name).find? fun path =>
    match w.find? path with
    | some (.program _ _) => true
    | _ => false

end Workspace

end LedgerQuery
