import LedgerQuery.Store.Lexeme
import LedgerQuery.Store.Statement

/-!
# Reading statements

The command that the text of a statement gives. A malformed text is refused at the first lexeme that
cannot stand where it stands.

* `Command.read`: the command of a text.
-/

namespace LedgerQuery.Store

/-- Words that are never names, in small letters. -/
def keywords : List String :=
  ["add", "all", "alter", "and", "as", "autoincrement", "between", "case", "cast", "check",
    "collate", "commit", "constraint", "create", "default", "deferrable", "delete", "distinct",
    "drop", "else", "escape", "except", "exists", "foreign", "from", "group", "having", "in",
    "index", "insert", "intersect", "into", "is", "isnull", "join", "limit", "not", "nothing",
    "notnull", "null", "on", "or", "order", "primary", "raise", "references", "returning",
    "select", "set", "table", "then", "to", "transaction", "union", "unique", "update", "using",
    "values", "when", "where"]

/-- Where a reader of statements stands. -/
structure ReaderState where
  /-- The whole text. -/
  source : List Char
  rest : List Lexeme
  /-- The number of parameters so far. -/
  params : Nat := 0
  /-- The end of the last lexeme that was read. -/
  place : Nat := 0

/-- A reader of a part of a statement. -/
abbrev Reader (α : Type) := StateT ReaderState (Except Fault) α

namespace Reader

/-- Refuses the text at the next lexeme. -/
def refuse {α : Type} : Reader α := fun s =>
  match s.rest with
  | [] => .error .incomplete
  | l :: _ =>
    if l.kind == .broken then .error (.unrecognized l.source l.start)
    else .error (.unexpected l.source l.start)

/-- The next lexeme, if there is one. -/
def peek : Reader (Option Lexeme) := do return (← get).rest.head?

/-- Goes on behind the next lexeme. -/
def skip : Reader Unit :=
  modify fun s => { s with rest := s.rest.drop 1, place := (s.rest.head?.map (·.stop)).getD s.place }

/-- The lexeme is a word, in any case. -/
def isWord (w : String) (l : Lexeme) : Bool :=
  l.kind == .word && Text.foldAscii l.source == w

/-- The lexeme is an operator or a separator. -/
def isMark (m : String) (l : Lexeme) : Bool :=
  l.kind == .symbol && l.source == m

/-- Goes on behind the next lexeme if it passes a test. -/
def accept (test : Lexeme → Bool) : Reader Bool := do
  match ← peek with
  | some l => if test l then do skip; return true else return false
  | none => return false

/-- Goes on behind the next lexeme, which has to pass a test. -/
def expect (test : Lexeme → Bool) : Reader Unit := do
  if ← accept test then return () else refuse

/-- The text between two places. -/
def written (start stop : Nat) : Reader String := do
  return String.ofList (sourceBetween start stop (← get).source)

/-- The place where the next lexeme begins. -/
def here : Reader Nat := do
  let s ← get
  return (s.rest.head?.map (·.start)).getD s.place

/-- The word of a lexeme that is a name without quotes. -/
def bareName? (l : Lexeme) : Option String :=
  if l.kind == .word && !keywords.contains (Text.foldAscii l.source) then some l.source else none

/-- The name that a lexeme stands for; strings are names where only a name can stand. -/
def nameOf? (l : Lexeme) : Option String :=
  match l.kind with
  | .name text _ | .string text => some text
  | _ => bareName? l

/-- A name. -/
def name : Reader String := do
  match (← peek).bind nameOf? with
  | some n => skip; return n
  | none => refuse

/-- One part or more, with commas between them. The number bounds the parts. -/
def parts {α : Type} (part : Reader α) : Nat → Reader (List α)
  | 0 => refuse
  | fuel + 1 => do
    let a ← part
    if ← accept (isMark ",") then return a :: (← parts part fuel)
    else return [a]

/-- The number of lexemes that are left, and one more. -/
def bound : Reader Nat := do return (← get).rest.length + 1

/-! ### Declared types -/

/-- The words of a declared type. The number bounds the words. -/
def typeWords : Nat → Reader Unit
  | 0 => return ()
  | fuel + 1 => do
    match (← peek).bind nameOf? with
    | some _ => skip; typeWords fuel
    | none => return ()

/-- A number with its sign. -/
def signedNumber : Reader Unit := do
  let _ ← accept fun l => isMark "-" l || isMark "+" l
  expect fun l => match l.kind with
    | .number _ => true
    | _ => false

/-- The types whose names are written in capital letters. -/
def standardTypes : List String := ["any", "blob", "int", "integer", "real", "text"]

/-- A declared type, perhaps with numbers in parentheses, as it is written. -/
def declaredType : Reader String := do
  let start ← here
  match (← peek).bind nameOf? with
  | none => return ""
  | some _ =>
    typeWords (← bound)
    if ← accept (isMark "(") then
      let _ ← parts signedNumber (← bound)
      expect (isMark ")")
    let declared ← written start (← get).place
    if standardTypes.contains (Text.foldAscii declared) then
      return String.ofList (declared.toList.map Text.raiseChar)
    else return declared

/-! ### Terms -/

/-- The operator of a lexeme and how tightly it binds. -/
def operator? (l : Lexeme) : Option (Operator × Nat) :=
  if l.kind == .word then
    match Text.foldAscii l.source with
    | "or" => some (.disj, 1)
    | "and" => some (.conj, 2)
    | _ => none
  else if l.kind == .symbol then
    match l.source with
    | "=" | "==" => some (.equal, 4)
    | "<>" | "!=" => some (.differ, 4)
    | "<" => some (.less, 5)
    | "<=" => some (.atMost, 5)
    | ">" => some (.greater, 5)
    | ">=" => some (.atLeast, 5)
    | "+" => some (.plus, 6)
    | "-" => some (.minus, 6)
    | "*" => some (.times, 7)
    | "/" => some (.over, 7)
    | "%" => some (.modulo, 7)
    | "||" => some (.concat, 8)
    | _ => none
  else none

/-- The rank of `NOT`. -/
def invertRank : Nat := 3

/-- The rank of the tests for nothing. -/
def testRank : Nat := 4

/-- The index of a parameter. -/
def paramIndex (number : Option Nat) : Reader Nat := do
  let s ← get
  let index := match number with
    | some n => n - 1
    | none => s.params
  set { s with params := max s.params (index + 1) }
  return index

/-- What a call means. -/
def callOf (function : String) (place : Nat) (args : List (Term Name)) : Term Name :=
  match Text.foldAscii function, args with
  | "count", [] => .countRows function place
  | "count", [t] => .aggregate .count function place t
  | "sum", [t] => .aggregate .sum function place t
  | "avg", [t] => .aggregate .average function place t
  | _, _ => .unknown function place

mutual

/-- A term whose operators bind at least as tightly as `rank`. -/
def term : Nat → Nat → Reader (Term Name)
  | 0, _ => refuse
  | fuel + 1, rank => do
    let t ← operand fuel
    climb fuel rank t

/-- The term that goes on with operators behind its first operand. -/
def climb : Nat → Nat → Term Name → Reader (Term Name)
  | 0, _, _ => refuse
  | fuel + 1, rank, t => do
    match ← peek with
    | none => return t
    | some l =>
      match operator? l with
      | some (op, r) =>
        if r < rank then return t
        else
          skip
          let u ← term fuel (r + 1)
          climb fuel rank (.binary op t u)
      | none =>
        if rank ≤ testRank && isWord "is" l then
          skip
          let negated ← accept (isWord "not")
          expect (isWord "null")
          climb fuel rank (.isNull (!negated) t)
        else return t

/-- A term that is no operator between two others. -/
def operand : Nat → Reader (Term Name)
  | 0 => refuse
  | fuel + 1 => do
    match ← peek with
    | none => refuse
    | some l =>
      match l.kind with
      | .string s => skip; return .value (.text s)
      | .number v => skip; return .value v
      | .blob bytes => skip; return .value (.blob bytes)
      | .param number => skip; return .param (← paramIndex number)
      | .name text isDouble => skip; nameOrCall fuel ⟨none, text, isDouble, false, l.start⟩
      | .symbol =>
        if l.source = "(" then
          skip
          let t ← term fuel 0
          expect (isMark ")")
          return t
        else if l.source = "-" then
          skip
          match ← operand fuel with
          | .value (.float x) => return .value (.float (-x))
          | t => return .negate t
        else if l.source = "+" then skip; operand fuel
        else refuse
      | .word => do
        match Text.foldAscii l.source with
        | "null" => skip; return .value .null
        | "not" => skip; return .invert (← term fuel invertRank)
        | "case" => skip; choice fuel
        | "cast" =>
          skip
          expect (isMark "(")
          let t ← term fuel 0
          expect (isWord "as")
          let declared ← declaredType
          expect (isMark ")")
          return .cast (if declared = "" then .numeric else .ofDeclared declared) t
        | _ =>
          match bareName? l with
          | some text => skip; nameOrCall fuel ⟨none, text, false, true, l.start⟩
          | none => refuse
      | .broken => refuse

/-- A name, the name of a column with its table in front, or a call. -/
def nameOrCall : Nat → Name → Reader (Term Name)
  | 0, _ => refuse
  | fuel + 1, n => do
    if ← accept (isMark ".") then
      let column ← name
      return .name { n with qualifier := some n.text, text := column, isDouble := false, isBare := false }
    else if n.isBare then
      if ← accept (isMark "(") then
        if ← accept (isMark "*") then
          expect (isMark ")")
          return callOf n.text n.place []
        else if ← accept (isMark ")") then return callOf n.text n.place []
        else
          let args ← arguments fuel
          expect (isMark ")")
          return callOf n.text n.place args
      else return .name n
    else return .name n

/-- The arguments of a call. -/
def arguments : Nat → Reader (List (Term Name))
  | 0 => refuse
  | fuel + 1 => do
    let t ← term fuel 0
    if ← accept (isMark ",") then return t :: (← arguments fuel)
    else return [t]

/-- A choice behind its first word. -/
def choice : Nat → Reader (Term Name)
  | 0 => refuse
  | fuel + 1 => do
    match ← peek with
    | some l =>
      if isWord "when" l then branches fuel none
      else
        let base ← term fuel 0
        branches fuel (some base)
    | none => refuse

/-- The branches of a choice. -/
def branches : Nat → Option (Term Name) → Reader (Term Name)
  | 0, _ => refuse
  | fuel + 1, base => do
    expect (isWord "when")
    let test ← term fuel 0
    expect (isWord "then")
    let yes ← term fuel 0
    let test := match base with
      | some b => .binary .equal b test
      | none => test
    match ← peek with
    | some l =>
      if isWord "when" l then return .cond test yes (← branches fuel base)
      else if isWord "else" l then
        skip
        let no ← term fuel 0
        expect (isWord "end")
        return .cond test yes no
      else
        expect (isWord "end")
        return .cond test yes (.value .null)
    | none => refuse

end

/-- A term. Each lexeme is read by few readers inside each other, which bounds the steps. -/
def wholeTerm : Reader (Term Name) := do
  term (8 * (← bound)) 0

/-! ### Questions -/

/-- A column of the answer. -/
def item : Reader Item := do
  if ← accept (isMark "*") then return .all
  else
    let start ← here
    let t ← wholeTerm
    let text ← written start (← get).place
    if ← accept (isWord "as") then return .term t text (some (← name))
    else match (← peek).bind nameOf? with
      | some n => skip; return .term t text (some n)
      | none => return .term t text none

/-- Where the rows come from. -/
def source : Reader Source := do
  let first ← name
  if ← accept (isMark ".") then return .table (some first) (← name)
  else if Text.foldAscii first = "pragma_table_info" then
    if ← accept (isMark "(") then
      let t ← wholeTerm
      expect (isMark ")")
      return .columnsOf t
    else return .table none first
  else return .table none first

/-- A clause behind its words, if they come next. -/
def clause {α : Type} (words : List String) (body : Reader α) : Reader (Option α) := do
  match words with
  | [] => return none
  | w :: ws =>
    if ← accept (isWord w) then
      ws.forM fun w => expect (isWord w)
      return some (← body)
    else return none

/-- A term to sort by. -/
def orderTerm : Reader (Term Name × Bool) := do
  let t ← wholeTerm
  if ← accept (isWord "desc") then return (t, true)
  else
    let _ ← accept (isWord "asc")
    return (t, false)

/-- A question behind its first word. -/
def question : Reader Question := do
  let _ ← accept (isWord "all")
  let items ← parts item (← bound)
  let source ← clause ["from"] source
  let condition ← clause ["where"] wholeTerm
  let groups ← clause ["group", "by"] (do parts wholeTerm (← bound))
  let groupCondition ← clause ["having"] wholeTerm
  let order ← clause ["order", "by"] (do parts orderTerm (← bound))
  let limit ← clause ["limit"] wholeTerm
  return ⟨items, source, condition, groups.getD [], groupCondition, order.getD [], limit⟩

/-! ### Tables -/

/-- The value of a term without names. -/
def constantOf : Term Name → Value
  | .value v => v
  | .name n => .text n.text
  | .negate (.value (.int n)) => .int (-n)
  | .negate (.value (.float x)) => .float (-x)
  | _ => .null

/-- The default of a column, as it is written and what it is. -/
def defaultValue : Reader (String × Value) := do
  let start ← here
  if ← accept (isMark "(") then
    let start ← here
    let t ← wholeTerm
    let text ← written start (← get).place
    expect (isMark ")")
    return (text, constantOf t)
  else
    let t ← operand (8 * (← bound))
    return (← written start (← get).place, constantOf t)

/-- The constraints of a column. The number bounds the constraints. -/
def constraints : Nat → ColumnDeclaration → Reader ColumnDeclaration
  | 0, c => return c
  | fuel + 1, c => do
    if ← accept (isWord "primary") then
      expect (isWord "key")
      let _ ← accept fun l => isWord "asc" l || isWord "desc" l
      let countsUp ← accept (isWord "autoincrement")
      constraints fuel { c with keyPlace := 1, countsUp := countsUp }
    else if ← accept (isWord "not") then
      expect (isWord "null")
      constraints fuel { c with isRequired := true }
    else if ← accept (isWord "null") then constraints fuel c
    else if ← accept (isWord "unique") then constraints fuel { c with isUnique := true }
    else if ← accept (isWord "default") then
      let (text, value) ← defaultValue
      constraints fuel { c with default? := some text, defaultValue := value }
    else return c

/-- The declaration of a column. -/
def columnDeclaration : Reader ColumnDeclaration := do
  let name ← name
  let declared ← declaredType
  constraints (← bound) { name, declared }

/-- A name with the schema it is in, if one is given, and the place of the name. -/
def schemaName : Reader (Option String × String × Nat × String) := do
  let start ← here
  let first ← name
  let stop := (← get).place
  if ← accept (isMark ".") then
    let start ← here
    let second ← name
    return (some first, second, start, ← written start (← get).place)
  else return (none, first, start, ← written start stop)

/-- The creation of a table behind its first word. -/
def creation : Reader Command := do
  expect (isWord "table")
  let (schema, table, place, text) ← schemaName
  expect (isMark "(")
  let columns ← parts columnDeclaration (← bound)
  expect (isMark ")")
  return .createTable schema table place text columns

/-- A row of terms in parentheses. -/
def row : Reader (List (Term Name)) := do
  expect (isMark "(")
  let ts ← parts wholeTerm (← bound)
  expect (isMark ")")
  return ts

/-- New rows behind the first word. -/
def insertion : Reader Command := do
  expect (isWord "into")
  let (schema, table, _, _) ← schemaName
  expect (isWord "values")
  return .insert schema table (← parts row (← bound))

/-- A whole statement, perhaps with a semicolon behind it. -/
def command : Reader Command := do
  let c ← if ← accept (isWord "select") then Command.question <$> question
    else if ← accept (isWord "create") then creation
    else if ← accept (isWord "insert") then insertion
    else refuse
  match ← peek with
  | none => return c
  | some l => if isMark ";" l then return c else refuse

end Reader

/-- The command of a text, and the number of its parameters. Semicolons before it do not count. -/
def Command.read (sql : String) : Except Fault (Command × Nat) := do
  let rest := (lexemes sql).dropWhile (Reader.isMark ";")
  if rest.isEmpty then return (.nothing, 0)
  let (c, s) ← Reader.command.run { source := sql.toList, rest }
  return (c, s.params)

end LedgerQuery.Store
