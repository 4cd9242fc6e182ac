import LedgerQuery.CommandLine.Argument
import LedgerQuery.CommandLine.Filter
import LedgerQuery.Sql.Dialect

/-!
# Commands

What the program can be asked to do, and how arguments ask for it. Options of the program itself may
stand before the command and behind it; behind it they count.

* `Invocation.ofArguments`: what arguments ask for.
-/

namespace LedgerQuery

open Arguments (Spec Options Halt)

/-- A descriptor that is asked about. -/
inductive Wanted where
  /-- In JSON. -/
  | written (json : String)
  | built (d : Descriptor)
  deriving Inhabited

/-- What the program is asked to do. -/
inductive Command where
  /-- Report on a descriptor. -/
  | query (wanted : Wanted)
  /-- Show the statement of a descriptor. -/
  | sql (wanted : Wanted) (dialect : Sql.Dialect) (inline : Bool)
  /-- Execute a statement. -/
  | exec (sql : String)
  /-- Show the columns of a table. -/
  | schema (table : String)
  | tables
  | info
  | providers
  deriving Inhabited

/-- A command and the options of the program itself. -/
structure Invocation where
  provider : Option String := none
  config : Option String := none
  verbose : Bool := false
  command : Command
  deriving Inhabited

/-- How a command is asked for. -/
structure CommandForm where
  name : String
  options : List Spec := []
  /-- The number of words that it needs. -/
  words : Nat := 0
  /-- The command of its options and words. -/
  build : Options → List String → Except Halt Command

namespace CommandForm

/-- The options of the program itself, which may stand behind the command too. -/
def globalOptions : List Spec :=
  [{ name := "provider", letter := some 'p' },
    { name := "config", letter := some 'c', accepts := fun v => v != "" },
    { name := "verbose", letter := some 'v', kind := .flag },
    { name := "help", letter := some 'h', kind := .help }]

/-- The options that stand before the command. -/
def programOptions : List Spec :=
  globalOptions ++ [{ name := "version", letter := some 'V', kind := .version }]

/-- The options that give a descriptor. -/
def descriptorOptions : List Spec :=
  [{ name := "json" },
    { name := "entity", letter := some 'e' },
    { name := "metric", letter := some 'm', kind := .repeated },
    { name := "filter", letter := some 'f', kind := .repeated,
      accepts := fun v => (Filter.parse v).isOk },
    { name := "aggregation", letter := some 'a', kind := .repeated },
    { name := "label" },
    { name := "quarter" },
    { name := "year" },
    { name := "start" },
    { name := "end" }]

/-- The period that options give. Its first and last day are texts, whatever they look like. -/
def period (o : Options) : Period :=
  { label := o.value? "label"
    quarter := (o.value? "quarter").map Scalar.ofText
    year := (o.value? "year").map Scalar.ofText
    start := (o.value? "start").map .text
    finish := (o.value? "end").map .text }

/-- The descriptor that options build up. -/
def descriptor (o : Options) (entity : String) : Descriptor :=
  let d : Descriptor := { entity }
  let d := (o.values "metric").foldl (fun d m => d.withMetric (.ofName m)) d
  let d := ((o.values "filter").filterMap fun f => (Filter.parse f).toOption).foldl
    (fun d f => d.withFilter f.1 f.2) d
  let d := (o.values "aggregation").foldl (fun d a => d.withAggregation (.ofName a)) d
  let isTimed := ["label", "quarter", "year", "start", "end"].any o.has
  if isTimed then d.withPeriod (period o) else d

/-- The descriptor that options give. It is either in JSON or about an entity, and a period has both
of its days or neither. -/
def wanted (o : Options) : Except Halt Wanted :=
  if o.has "start" != o.has "end" then .error .misuse
  else match o.value? "json", o.value? "entity" with
    | some json, none => .ok (.written json)
    | none, some entity => .ok (.built (descriptor o entity))
    | _, _ => .error .misuse

/-- The names of dialects in arguments. -/
def dialects : List (String × Sql.Dialect) := [("sqlite", .sqlite), ("snowflake", .snowflake)]

/-- All commands. -/
def all : List CommandForm :=
  let plain (c : Command) : Options → List String → Except Halt Command := fun _ _ => .ok c
  let worded (f : String → Command) : Options → List String → Except Halt Command
    | _, [word] => .ok (f word)
    | _, _ => .error .misuse
  [{ name := "query", options := descriptorOptions
     build := fun o _ => (wanted o).map .query },
    { name := "sql"
      options := descriptorOptions ++
        [{ name := "dialect", letter := some 'd', accepts := fun v => (dialects.lookup v).isSome },
          { name := "inline", kind := .flag }]
      build := fun o _ => (wanted o).map fun w =>
        .sql w (((o.value? "dialect").bind fun v => dialects.lookup v).getD .sqlite) (o.has "inline") },
    { name := "exec", words := 1, build := worded .exec },
    { name := "schema", words := 1, build := worded .schema },
    { name := "tables", build := plain .tables },
    { name := "info", build := plain .info },
    { name := "providers", build := plain .providers },
    { name := "help", words := 1, build := fun _ _ => .error .help }]

/-- The command of a name. -/
def find? (name : String) : Option CommandForm := all.find? (·.name == name)

end CommandForm

namespace Invocation

/-- What has been read of the arguments. -/
structure Progress where
  /-- The options before the command. -/
  outer : Options := { specs := CommandForm.programOptions }
  /-- The command with the options behind it. -/
  form : Option (CommandForm × Options) := none
  words : List String := []
  /-- Only words follow. -/
  isClosed : Bool := false

namespace Progress

/-- The options that are being read. -/
def options (p : Progress) : Options :=
  match p.form with
  | none => p.outer
  | some (_, o) => o

/-- Keeps what has been read of the options. -/
def keep (p : Progress) (o : Options) : Progress :=
  match p.form with
  | none => { p with outer := o }
  | some (form, _) => { p with form := some (form, o) }

/-- Reads a word: the command, or one of the words that the command needs. -/
def takeWord (p : Progress) (word : String) : Except Halt Progress :=
  match p.form with
  | some (form, _) =>
    if form.name == "help" && (CommandForm.find? word).isNone then .error .misuse
    else if p.words.length < form.words then .ok { p with words := p.words ++ [word] }
    else .error .misuse
  | none =>
    if p.isClosed then .error .misuse
    else match CommandForm.find? word with
      | none => .error .misuse
      | some form =>
        let specs := CommandForm.globalOptions ++ form.options
        .ok { p with form := some (form, { specs }), isClosed := form.name == "help" }

/-- Reads an argument. -/
def take (p : Progress) (arg : String) : Except Halt Progress :=
  match p.options.pending with
  | some spec => (p.options.takeValue spec arg).map p.keep
  | none =>
    if p.isClosed then p.takeWord arg
    else if arg = "--" then .ok { p with isClosed := true }
    else if Arguments.isOption arg then (p.options.take arg).map p.keep
    else p.takeWord arg

/-- What the arguments ask for that have been read. -/
def finish (p : Progress) : Except Halt Invocation :=
  if p.options.pending.isSome then .error .misuse
  else match p.form with
    | none => .error .misuse
    | some (form, o) =>
      (form.build o p.words).map fun command =>
        { provider := o.value? "provider" <|> p.outer.value? "provider"
          config := o.value? "config" <|> p.outer.value? "config"
          verbose := o.has "verbose" || p.outer.has "verbose"
          command }

end Progress

/-- What arguments ask for. -/
def ofArguments (args : List String) : Except Halt Invocation :=
  match args.foldlM Progress.take {} with
  | .error h => .error h
  | .ok p => p.finish

end Invocation

end LedgerQuery
