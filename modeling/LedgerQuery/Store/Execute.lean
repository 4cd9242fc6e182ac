import LedgerQuery.Result.Basic
import LedgerQuery.Store.Database
import LedgerQuery.Store.Evaluate
import LedgerQuery.Store.Reader

/-!
# Running statements

A statement is first understood, with every name replaced by the column it means, and then run with
its parameters. Whatever can be refused without looking at rows is refused first.

* `Scope.resolve`: what a name means.
* `Plan.run`: the answer to a question.
* `Database.run`: the answer to a statement and the database behind it.
-/

namespace LedgerQuery.Store

/-- The rows that a question is about: the names and affinities of their columns, and whether they
have numbers. The number of a row stands behind its cells. -/
structure Scope where
  title : String := ""
  columns : List (String × Affinity) := []
  hasNumbers : Bool := false
  deriving Inhabited

namespace Scope

/-- The names of the number of a row. -/
def numberNames : List String := ["rowid", "oid", "_rowid_"]

/-- What a name means: a column of the table; else the number of the row; else a column of the
answer; else, if it stands in double quotes, the string; else a word for a truth value. -/
def resolve (s : Scope) (titled : List (String × Term Column)) (n : Name) :
    Except Fault (Term Column) :=
  let missing : Fault := .noColumn (match n.qualifier with
    | some q => q ++ "." ++ n.text
    | none => n.text) n.place
  if n.qualifier.any fun q => !Text.sameFolded q s.title then .error missing
  else match s.columns.findIdx? fun c => Text.sameFolded c.1 n.text with
    | some i => .ok (.name ⟨i, (s.columns.getD i default).2⟩)
    | none =>
      let small := Text.foldAscii n.text
      if s.hasNumbers && numberNames.contains small then .ok (.name ⟨s.columns.length, .integer⟩)
      else if n.qualifier.isSome then .error missing
      else match titled.find? fun t => Text.sameFolded t.1 n.text with
        | some t => .ok t.2
        | none =>
          if n.isDouble then .ok (.value (.text n.text))
          else if n.isBare && small == "true" then .ok (.value (.int 1))
          else if n.isBare && small == "false" then .ok (.value (.int 0))
          else .error missing

end Scope

/-! ### Questions -/

/-- A question that is understood. -/
structure Plan where
  scope : Scope
  /-- The rows of the table, given the parameters. -/
  rows : List Value → Except Fault (List (List Value))
  /-- The columns of the answer with their names. -/
  items : List (String × Term Column)
  condition : Option (Term Column)
  isGrouped : Bool
  groups : List (Term Column)
  groupCondition : Option (Term Column)
  order : List (Term Column × Bool)
  limit : Option (Term Column)

/-- The row of a column in the answer about the columns of a table. -/
def columnRow (p : ColumnDeclaration × Nat) : List Value :=
  [.int p.2, .text p.1.name, .text p.1.declared, .int (if p.1.isRequired then 1 else 0),
    (p.1.default?.map Value.text).getD .null, .int p.1.keyPlace]

/-- The names of the columns of the answer about the columns of a table. -/
def columnTitles : List String := ["cid", "name", "type", "notnull", "dflt_value", "pk"]

/-- The rows of a source and what names mean in them. -/
def Database.source (d : Database) :
    Option Source → Except Fault (Scope × (List Value → Except Fault (List (List Value))))
  | none => .ok ({}, fun _ => .ok [[]])
  | some (.table schema name) => do
    let t ← d.find schema name
    return (⟨t.name, t.columns.map fun c => (c.name, .ofDeclared c.declared), true⟩,
      fun _ => .ok (t.rows.map fun r => r.cells ++ [.int r.number]))
  | some (.columnsOf t) => do
    let t ← t.bind (Scope.resolve {} [])
    return (⟨"pragma_table_info", columnTitles.map (·, .blob), false⟩, fun params => do
      match ← t.eval params [] [] with
      | .null => return []
      | v => return ((d.table? v.toText).map fun t => t.columns.zipIdx.map columnRow).getD [])

/-- The columns of the answer that an item gives. -/
def Scope.items (s : Scope) : Item → Except Fault (List (String × Term Column × Bool))
  | .all => .ok (s.columns.zipIdx.map fun c => (c.1.1, .name ⟨c.2, c.1.2⟩, false))
  | .term t written title => do
    let u ← t.bind (s.resolve [])
    return [match title, u with
      | some title, u => (title, u, true)
      | none, .name c => ((s.columns[c.index]?.map Prod.fst).getD "rowid", u, false)
      | none, u => (written, u, false)]

/-- A term to sort or to group by: a name or a number can mean a column of the answer. -/
def Scope.key (s : Scope) (items : List (String × Term Column × Bool)) (t : Term Name) :
    Except Fault (Term Column) :=
  let titled := (items.filter fun i => i.2.2).map fun i => (i.1, i.2.1)
  let other : Except Fault (Term Column) := t.bind (s.resolve titled)
  match t with
  | .name n =>
    if n.qualifier.isNone then
      match titled.find? fun i => Text.sameFolded i.1 n.text with
      | some i => .ok i.2
      | none => other
    else other
  | .value (.int k) => match items[k.toNat - 1]? with
    | some i => if 0 < k then .ok i.2.1 else other
    | none => other
  | _ => other

/-- A question understood, or the first thing wrong with it. -/
def Question.plan (q : Question) (d : Database) : Except Fault Plan := do
  let (scope, rows) ← d.source q.source
  let items := (← q.items.mapM scope.items).flatten
  let titled := (items.filter fun i => i.2.2).map fun i => (i.1, i.2.1)
  let isGrouped := !q.groups.isEmpty || items.any fun i => !i.2.1.aggregates.isEmpty
  if q.groupCondition.isSome && !isGrouped then throw .noGroups
  let groupCondition ← q.groupCondition.mapM (Term.bind (scope.resolve titled))
  let condition ← q.condition.mapM (Term.bind (scope.resolve titled))
  let order ← q.order.mapM fun o => do return (← scope.key items o.1, o.2)
  let groups ← q.groups.mapM (scope.key items)
  let limit ← q.limit.mapM (Term.bind (Scope.resolve {} []))
  match condition.bind fun c => c.aggregates.getLast? with
  | some a => throw (.misplacedAggregate a.1 a.2)
  | none => return ⟨scope, rows, items.map fun i => (i.1, i.2.1), condition, isGrouped, groups,
      groupCondition, order, limit⟩

/-- The order of rows by their keys, some of them reversed. -/
def compareKeys : List (Value × Value × Bool) → Ordering
  | [] => .eq
  | (v, w, isReversed) :: r =>
    match v.compare w with
    | .eq => compareKeys r
    | o => if isReversed then o.swap else o

/-- Rows sorted by keys; rows with the same keys keep their order. -/
def sortByKeys {α : Type} (reversed : List Bool) (rows : List (List Value × α)) :
    List (List Value × α) :=
  rows.mergeSort fun a b => compareKeys (a.1.zip (b.1.zip reversed)) != .gt

/-- Rows with the same keys that stand behind each other, put together. -/
def gather : List (List Value × List Value) → List (List (List Value))
  | [] => []
  | [r] => [[r.2]]
  | r :: s :: rest =>
    if compareKeys (r.1.zip (s.1.map (·, false))) == .eq then
      match gather (s :: rest) with
      | g :: gs => (r.2 :: g) :: gs
      | [] => [[r.2]]
    else [r.2] :: gather (s :: rest)

namespace Plan

/-- The rows that fulfil the condition. -/
def kept (p : Plan) (params : List Value) : Except Fault (List (List Value)) := do
  let rows ← p.rows params
  match p.condition with
  | none => return rows
  | some c => rows.filterM fun row => c.holds params [] row

/-- The groups of rows. Without terms to group by all rows are one group, even if there is none. -/
def grouped (p : Plan) (params : List Value) (rows : List (List Value)) :
    Except Fault (List (List (List Value))) := do
  if p.groups.isEmpty then return [rows]
  else
    let keyed ← rows.mapM fun row => do
      return (← p.groups.mapM fun g => g.eval params [] row, row)
    return gather (sortByKeys (p.groups.map fun _ => false) keyed)

/-- The groups that fulfil the condition on groups, each with its first row; without groups each row
stands for itself. -/
def units (p : Plan) (params : List Value) (rows : List (List Value)) :
    Except Fault (List (List (List Value) × List Value)) := do
  if p.isGrouped then
    let groups := (← p.grouped params rows).map fun g => (g, g.headD [])
    match p.groupCondition with
    | none => return groups
    | some c => groups.filterM fun g => c.holds params g.1 g.2
  else return rows.map fun row => ([], row)

/-- The number of rows that are wanted. -/
def wanted (p : Plan) (params : List Value) : Except Fault (Option Nat) := do
  match p.limit with
  | none => return none
  | some t =>
    match (← t.eval params [] []).toNumeric.floatToWhole with
    | .int n => return if n < 0 then none else some n.toNat
    | _ => throw .mismatch

/-- The answer to the question. -/
def run (p : Plan) (params : List Value) : Except Fault RowSet := do
  let rows ← p.kept params
  let units ← p.units params rows
  let answers ← units.mapM fun u => do
    let keys ← p.order.mapM fun o => o.1.eval params u.1 u.2
    return (keys, ← p.items.mapM fun i => i.2.eval params u.1 u.2)
  let sorted := if p.order.isEmpty then answers else sortByKeys (p.order.map Prod.snd) answers
  let cut := match ← p.wanted params with
    | none => sorted
    | some n => sorted.take n
  return ⟨p.items.map Prod.fst, cut.map fun r => r.2.map Value.toJson⟩

end Plan

/-! ### Statements -/

/-- A file of the store: a database, or bytes that are none. -/
inductive Contents where
  | database (d : Database)
  | foreign
  deriving Inhabited

/-- The database of a file. -/
def Contents.open : Contents → Except Fault Database
  | .database d => .ok d
  | .foreign => .error .notDatabase

/-- A statement that is understood: what it does with its parameters. -/
abbrev Prepared := List Value → Except Fault (RowSet × Contents)

/-- A command understood. A question without a table does not look into the file. -/
def Command.prepare (sql : String) (file : Contents) : Command → Except Fault Prepared
  | .nothing => return fun _ => .error .empty
  | .question q => do
    let d ← if q.source.isNone then pure {} else file.open
    let plan ← q.plan d
    return fun params => do return (← plan.run params, file)
  | .createTable schema name place written columns => do
    let d ← file.open
    if schema.any fun s => !Text.sameFolded "main" s then throw (.noTable name)
    match d.table? name with
    | some _ => throw (.tableExists written place)
    | none =>
      return fun _ => .ok ({}, .database (d.create { name, definition := sql, columns }))
  | .insert schema name rows => do
    let d ← file.open
    let t ← d.find schema name
    let rows ← rows.mapM fun row => row.mapM (Term.bind (Scope.resolve {} []))
    match rows.find? fun row => row.length != t.columns.length with
    | some row => throw (.wrongCount t.name t.columns.length row.length)
    | none =>
      return fun params => do
        let d ← rows.foldlM (fun d row => do
          let values ← row.mapM fun term => term.eval params [] []
          let t ← d.find schema name
          d.insert t values) d
        return ({}, .database d)

/-- The answer to a statement and the file behind it, or the message about its first fault. The
parameters are counted when the statement is understood; of too many only one is told. -/
def Contents.run (file : Contents) (sql : String) (params : List Value) :
    Except String (RowSet × Contents) :=
  let answer : Except Fault (RowSet × Contents) := do
    let (command, needed) ← Command.read sql
    let prepared ← command.prepare sql file
    if params.length ≠ needed then throw (.wrongParams (min params.length (needed + 1)) needed)
    prepared params
  answer.mapError (·.message sql)

end LedgerQuery.Store
