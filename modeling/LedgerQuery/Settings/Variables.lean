import LedgerQuery.Settings.Expansion
import LedgerQuery.Text.Blank
import LedgerQuery.Text.Split

/-!
# Variables in a file

A file may set variables, one to a line: a name, an equals sign and a value. A blank line and a line
that starts with a number sign say nothing. A value ends at a blank, behind which there may be a
remark. Quotes take away the meaning of blanks, single quotes that of all other characters too. A
dollar sign stands for a variable of the environment or of an earlier line.

* `Variables.read`: the variables of a file up to the first line that is not of this form.
* `Environment.get?_extend`: a variable that is set keeps its value.
-/

namespace LedgerQuery

/-- The environment with further variables; one that is set keeps its value. -/
def Environment.extend (env : Environment) (more : List (String × String)) : Environment :=
  env ++ more

namespace Variables

/-- What part of a value a character is in. -/
inductive Mode where
  | plain
  /-- Between single quotes. -/
  | single
  /-- Between double quotes. -/
  | double
  /-- Behind a backslash. -/
  | escaped (isQuoted : Bool)
  /-- In a name behind a dollar sign. -/
  | bare (isQuoted : Bool) (name : List Char)
  /-- In a name in braces. -/
  | braced (isQuoted : Bool) (name : List Char)
  /-- Behind the value. -/
  | ended

/-- The characters that a backslash may stand before, with what both stand for. -/
def escapes : List (Char × Char) :=
  [('\\', '\\'), ('\'', '\''), ('"', '"'), ('$', '$'), (' ', ' '), ('n', '\n')]

/-- The value of a variable; nothing if it is not set. -/
def lookup (env : Environment) (name : List Char) : List Char :=
  ((env.get? (String.ofList name)).getD "").toList

/-- The part of a value that a reference is in. -/
def back (isQuoted : Bool) : Mode := if isQuoted then .double else .plain

/-- Goes on in a value with a character outside of references. -/
def step (mode : Mode) (out : List Char) (c : Char) : Mode × List Char :=
  match mode, c with
  | .double, '"' => (.plain, out)
  | .double, '\\' => (.escaped true, out)
  | .double, '$' => (.bare true [], out)
  | .double, c => (.double, out ++ [c])
  | _, '"' => (.double, out)
  | _, '\'' => (.single, out)
  | _, '\\' => (.escaped false, out)
  | _, '$' => (.bare false [], out)
  | _, c => if c = ' ' ∨ c = '\t' then (.ended, out) else (.plain, out ++ [c])

/-- The value of a line. -/
def value? (env : Environment) : Mode → List Char → List Char → Option (List Char)
  | .plain, out, [] | .ended, out, [] | .escaped false, out, [] => some out
  | .bare false name, out, [] => some (out ++ lookup env name)
  | _, _, [] => none
  | .single, out, c :: r =>
    if c = '\'' then value? env .plain out r else value? env .single (out ++ [c]) r
  | .escaped q, out, c :: r =>
    match escapes.lookup c with
    | some d => value? env (back q) (out ++ [d]) r
    | none => none
  | .bare q name, out, c :: r =>
    if Text.isAlphanumeric c then value? env (.bare q (name ++ [c])) out r
    else if c = '\x7b' ∧ name = [] then value? env (.braced q []) out r
    else
      let next := step (back q) (out ++ lookup env name) c
      value? env next.1 next.2 r
  | .braced q name, out, c :: r =>
    if c = '\x7d' then value? env (back q) (out ++ lookup env name) r
    else value? env (.braced q (name ++ [c])) out r
  | .ended, out, c :: r =>
    if c = ' ' ∨ c = '\t' then value? env .ended out r
    else if c = '#' then some out
    else none
  | mode, out, c :: r =>
    let next := step mode out c
    value? env next.1 next.2 r

/-- The characters that a name may start with. -/
def startsName (c : Char) : Bool := c.isAlpha || c == '_'

/-- The characters of a name. -/
def isInName (c : Char) : Bool := c.isAlphanum || c == '_' || c == '.'

/-- A name with an equals sign, and what follows. -/
def name? (cs : List Char) : Option (List Char × List Char) :=
  let rest := (cs.dropWhile isInName).dropWhile Text.isBlank
  if !(cs.head?.any startsName) then none
  else match rest with
    | '=' :: r => some (cs.takeWhile isInName, r.dropWhile Text.isBlank)
    | _ => none

/-- The variable of a line without the blanks that it starts with. A word may come before it that
says that the variable is meant for other programs too. -/
def assignment? (cs : List Char) : Option (List Char × List Char) :=
  let exporting := "export".toList
  if cs.takeWhile isInName = exporting then
    (name? cs) <|> name? ((cs.drop exporting.length).dropWhile Text.isBlank)
  else name? cs

/-- The variables of lines, up to the first line that is not well-formed. -/
def readLines (env : Environment) : List (List Char) → List (String × String)
  | [] => []
  | line :: lines =>
    let cs := line.dropWhile Text.isBlank
    if cs.isEmpty || cs.head? == some '#' then readLines env lines
    else match assignment? cs with
      | none => []
      | some (name, rest) =>
        let value := if rest.head? == some '#' then some [] else value? env .plain [] rest
        match value with
        | none => []
        | some value =>
          let pair := (String.ofList name, String.ofList value)
          pair :: readLines (env.extend [pair]) lines

/-- A line without the return that may end it. -/
def withoutReturn (line : List Char) : List Char :=
  if line.getLast? = some '\r' then line.dropLast else line

/-- The variables that a text sets. -/
def read (env : Environment) (s : String) : List (String × String) :=
  readLines env ((Text.splitAt '\n' s.toList).map withoutReturn)

end Variables

theorem Environment.lookup_append (env more : List (String × String)) (name : String) :
    (env ++ more).lookup name = (env.lookup name).or (more.lookup name) := by
  induction env with
  | nil => simp
  | cons e env ih =>
    obtain ⟨k, v⟩ := e
    simp only [List.cons_append, List.lookup_cons]
    cases name == k <;> simp [ih]

/-- A variable that is set keeps its value. -/
theorem Environment.get?_extend {env : Environment} {name value : String}
    (h : env.get? name = some value) (more : List (String × String)) :
    (env.extend more).get? name = some value := by
  unfold Environment.get? at *
  by_cases hn : name = ""
  · simp [hn] at h
  · simp only [if_neg hn] at h ⊢
    rw [extend, lookup_append, h]
    rfl

end LedgerQuery
