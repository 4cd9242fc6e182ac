/-!
# Arguments

Arguments are words and options. An option has a name behind two dashes, and most have a letter
behind one dash; letters may be joined. The value of an option stands in the same argument or is the
next one, which then must not look like an option.

* `Options.take`: reads an argument that looks like an option.
* `Options.takeValue`: reads the argument behind an option that still needs its value.
-/

namespace LedgerQuery.Arguments

/-- What an option says. -/
inductive Kind where
  /-- It is given or not. -/
  | flag
  /-- It has a value and is given once. -/
  | single
  /-- It has a value and is given any number of times. -/
  | repeated
  /-- It asks how the program is used. -/
  | help
  /-- It asks which version of the program this is. -/
  | version
  deriving DecidableEq, Repr

/-- An option. -/
structure Spec where
  name : String
  letter : Option Char := none
  kind : Kind := .single
  /-- The values that it may have. -/
  accepts : String → Bool := fun _ => true

/-- An option that is given, with its value; flags have the empty one. -/
structure Given where
  name : String
  value : String := ""
  deriving DecidableEq, Repr

/-- Why arguments are not read to their end. -/
inductive Halt where
  /-- An argument is out of place, or one is missing. -/
  | misuse
  | help
  | version
  deriving DecidableEq, Repr, Inhabited

/-- The options that may be given and those that are. -/
structure Options where
  specs : List Spec
  given : List Given := []
  /-- The option that has the next argument as its value. -/
  pending : Option Spec := none

/-- The option has a value. -/
def Spec.isValued (s : Spec) : Bool := s.kind == .single || s.kind == .repeated

namespace Options

/-- The values of an option, in the order in which they are given. -/
def values (o : Options) (name : String) : List String :=
  (o.given.filter (·.name == name)).map (·.value)

/-- The value of an option that is given at most once. -/
def value? (o : Options) (name : String) : Option String :=
  (o.values name).head?

/-- The option is given. -/
def has (o : Options) (name : String) : Bool :=
  o.given.any (·.name == name)

/-- Adds an option that is given. -/
def add (o : Options) (spec : Spec) (value : String) : Except Halt Options :=
  match spec.kind with
  | .help => .error .help
  | .version => .error .version
  | kind =>
    if (kind == .repeated || !o.has spec.name) && spec.accepts value then
      .ok { o with given := o.given ++ [⟨spec.name, value⟩], pending := none }
    else .error .misuse

/-- Reads joined letters. A letter of an option with a value ends them: what follows is the value. -/
def takeLetters (o : Options) : List Char → Except Halt Options
  | [] => .ok o
  | c :: cs =>
    match o.specs.find? (·.letter == some c) with
    | none => .error .misuse
    | some spec =>
      if spec.isValued then
        match cs with
        | [] => .ok { o with pending := some spec }
        | '=' :: value => o.add spec (String.ofList value)
        | value => o.add spec (String.ofList value)
      else
        match o.add spec "" with
        | .error h => .error h
        | .ok o => takeLetters o cs

/-- Reads a name, with a value if there is an equals sign. -/
def takeName (o : Options) (cs : List Char) : Except Halt Options :=
  match o.specs.find? (·.name == String.ofList (cs.takeWhile (· ≠ '='))) with
  | none => .error .misuse
  | some spec =>
    match cs.dropWhile (· ≠ '='), spec.isValued with
    | [], true => .ok { o with pending := some spec }
    | [], false => o.add spec ""
    | _ :: value, true => o.add spec (String.ofList value)
    | _ :: _, false => .error .misuse

/-- Reads an argument that looks like an option. -/
def take (o : Options) (arg : String) : Except Halt Options :=
  match arg.toList with
  | '-' :: '-' :: name => o.takeName name
  | '-' :: letters => o.takeLetters letters
  | _ => .error .misuse

end Options

/-- The argument looks like an option. -/
def isOption (arg : String) : Bool :=
  match arg.toList with
  | '-' :: _ :: _ => true
  | _ => false

/-- Reads the argument behind an option that still needs its value. -/
def Options.takeValue (o : Options) (spec : Spec) (arg : String) : Except Halt Options :=
  if isOption arg then .error .misuse else o.add spec arg

end LedgerQuery.Arguments
