import LedgerQuery.Proofs.Backend.Structured
import LedgerQuery.Proofs.Compile.Query
import LedgerQuery.Proofs.Sql.Dialects
import LedgerQuery.Proofs.Sql.TableNames

/-!
# Which table is asked about

A statement names its table part by part. The last part is the table, the part in front of it the
schema, and without such a part the schema is that of the connection. The question about the columns
of a table does not take the name apart: it asks for the whole name as one table in the schema of
the connection. So both are about one table exactly if there is no dot in the name.

* `Text.splitAt_concat`: the last part of a text behind a cut.
* `Sql.Dialect.address`: the table and the schema that a name stands for.
* `Sql.Dialect.upper_eq_address_iff`: which names stand for themselves as a whole.
* `Warehouse.tableSchema_traced`: the question about the columns of a table, and what it comes to.
* `Warehouse.tableSchema_asks_address_iff`: when it is about the table that statements are about.
-/

namespace LedgerQuery

/-! ### The last part of a name -/

namespace Text

variable {mark : Char}

theorem splitAt_of_not_mem {cs : List Char} (h : mark ∉ cs) : splitAt mark cs = [cs] := by
  induction cs with
  | nil => rfl
  | cons c r ih =>
    obtain ⟨hc, hr⟩ := not_or.mp (mt List.mem_cons.mpr h)
    rw [splitAt, if_neg (Ne.symm hc), ih hr]

/-- Behind its last occurrence, the character cuts off one part. -/
theorem splitAt_concat {last : List Char} (h : mark ∉ last) (front : List Char) :
    splitAt mark (front ++ mark :: last) = splitAt mark front ++ [last] := by
  induction front with
  | nil =>
    have hmark := splitAt_append_mark (List.not_mem_nil (a := mark)) last
    rw [hmark, splitAt_of_not_mem h]
    rfl
  | cons c r ih =>
    rw [List.cons_append, splitAt, splitAt, ih]
    by_cases hc : c = mark
    · rw [if_pos hc, if_pos hc, List.cons_append]
    · rw [if_neg hc, if_neg hc]
      cases hr : splitAt mark r with
      | nil => exact absurd hr (splitAt_ne_nil mark r)
      | cons p ps => rfl

theorem exists_last_cut {cs : List Char} (h : mark ∈ cs) :
    ∃ front last, cs = front ++ mark :: last ∧ mark ∉ last := by
  obtain ⟨last, front, hcs, hlast⟩ := List.eq_append_cons_of_mem (List.mem_reverse.mpr h)
  refine ⟨front.reverse, last.reverse, ?_, by simpa using hlast⟩
  rw [← List.reverse_reverse cs, hcs]
  simp

end Text

namespace Sql.Dialect

/-- The table that a name stands for and its schema: the last part, and the part in front of it or
else the given schema. -/
def address (d : Dialect) (schema name : String) : String × String :=
  ((d.tableParts name).getLastD "", (d.tableParts name).dropLast.getLastD schema)

theorem address_of_not_mem (d : Dialect) (schema : String) {name : String}
    (h : '.' ∉ name.toList) : d.address schema name = (d.tableCase name, schema) := by
  have hparts : d.tableParts name = [d.tableCase name] := by
    rw [tableParts, nameParts, Text.splitAt_of_not_mem h, List.map_singleton, List.map_singleton,
      String.ofList_toList]
  rw [address, hparts]
  rfl

theorem address_fst_of_eq (d : Dialect) (schema : String) {name : String} {front last : List Char}
    (h : name.toList = front ++ '.' :: last) (hlast : '.' ∉ last) :
    (d.address schema name).1 = d.tableCase (String.ofList last) := by
  rw [address, tableParts, nameParts, h, Text.splitAt_concat hlast, List.map_append,
    List.map_append, List.map_singleton, List.map_singleton, List.getLastD_concat]

/-- A name as a whole is the table that it stands for exactly if there is no dot in it: whatever
stands in front of a dot makes it longer than its last part. -/
theorem upper_eq_address_iff (schema name : String) :
    Text.upper name = (address .snowflake schema name).1 ↔ '.' ∉ name.toList := by
  constructor
  · intro h hdot
    obtain ⟨front, last, hname, hlast⟩ := Text.exists_last_cut hdot
    rw [address_fst_of_eq .snowflake schema hname hlast, tableCase_snowflake, Text.upper,
      Text.upper, String.ofList_inj, hname, String.toList_ofList, List.flatMap_append,
      List.flatMap_cons] at h
    have hlength := congrArg List.length h
    have hmark : (Text.upperChar '.').length = 1 := by decide
    simp only [List.length_append, hmark] at hlength
    omega
  · intro h
    rw [address_of_not_mem .snowflake schema h, tableCase_snowflake]

end Sql.Dialect

/-! ### The question about the columns of a table -/

namespace Warehouse

open Sql (Dialect)
open Sql.Identifier (Spells)

variable {σ κ : Type} (k : Connector σ κ) (c : Driver.Credentials)

/-- The text of the question, which is the same for all tables. -/
def columnsSql : String := ((Catalog.warehouse "").columns "").sql

/-- The question about the columns of a table in a schema, over a connection. -/
def columnsCall (n : Nat) (address : String × String) : Call :=
  .executed n columnsSql [.text address.1, .text address.2]

/-- The question asks for the whole name in capital letters, in the schema of the connection. It is
the only call, and each row of its answer gives a column. -/
theorem tableSchema_traced (l : Numbered κ) (t : Traced σ) (name : String) :
    (backend k.traced c).tableSchema name ⟨some l, t⟩ =
      match k.execute l.link columnsSql [.text (Text.upper name), .text c.schema] t.world with
      | (.ok answer, world) =>
        (.ok ⟨name, (Catalog.warehouse c.schema).columnsOf answer.lowerColumns⟩,
          ⟨some l, ⟨world, t.calls ++ [columnsCall l.number (Text.upper name, c.schema)]⟩⟩)
      | (.error e, world) =>
        (.error (.statement (.driver e)),
          ⟨some l, ⟨world, t.calls ++ [columnsCall l.number (Text.upper name, c.schema)]⟩⟩) := by
  show ((fun p : Except Backend.Error RowSet × Held (Numbered κ) (Traced σ) =>
      (p.1.map fun answer => (⟨name, (Catalog.warehouse c.schema).columnsOf answer⟩ : TableSchema),
        p.2))
    ((backend k.traced c).execute columnsSql [.text (Text.upper name), .text c.schema]
      ⟨some l, t⟩)) = _
  rw [execute_traced]
  simp only [List.map_cons, List.map_nil, Sql.Literal.toJson]
  rcases k.execute l.link columnsSql [.text (Text.upper name), .text c.schema] t.world with
    ⟨_ | answer, world⟩ <;> rfl

/-- The statement of a descriptor for a table that is none of the known ones names that table part by
part, in capital letters. The question about the columns of this table is about the whole name. It
is about the table that the name stands for exactly if there is no dot in the name; with a dot it is
about a table of another name, whatever the schema of the connection is. -/
theorem tableSchema_asks_address_iff (l : Numbered κ) (t : Traced σ) (name : String) :
    (∀ d : Descriptor, d.table = .other name →
        (d.compile .snowflake).sql =
          Sql.write .snowflake .bound d.query.frontTokens ++
            ("\nFROM " ++ Dialect.tableText .snowflake name) ++
            Sql.write .snowflake .bound d.query.behindTokens) ∧
      List.Forall₂ Spells (Dialect.tableParts .snowflake name)
        (Text.cutUnquoted '.' '"' false (Dialect.tableText .snowflake name).toList) ∧
      ((backend k.traced c).tableSchema name ⟨some l, t⟩).2.world.calls =
        t.calls ++ [columnsCall l.number (Text.upper name, c.schema)] ∧
      ((Text.upper name, c.schema) = Dialect.address .snowflake c.schema name ↔
        '.' ∉ name.toList) ∧
      (Text.upper name = (Dialect.address .snowflake c.schema name).1 ↔ '.' ∉ name.toList) := by
  have htable := Dialect.upper_eq_address_iff c.schema name
  refine ⟨?_, Dialect.spells_tableParts .snowflake name, ?_, ?_, htable⟩
  · intro d hd
    have hsource : d.query.sourceText .snowflake =
        "\nFROM " ++ Dialect.tableText .snowflake name := by
      rw [Sql.Query.sourceText, d.query_eq, hd]
      rfl
    rw [← hsource]
    exact d.query.sql_eq_write .snowflake
  · rw [tableSchema_traced]
    split <;> rfl
  · constructor
    · intro h
      exact htable.mp (congrArg Prod.fst h)
    · intro h
      rw [Dialect.address_of_not_mem .snowflake c.schema h, Dialect.tableCase_snowflake]

/-- Whatever a connector knows of the columns of tables: of a table whose name has no dot, the
schema tells what it knows of the table that statements read. -/
theorem tableSchema_of_no_dot (l : Numbered κ) (t : Traced σ) {name : String}
    (h : '.' ∉ name.toList) {answer : RowSet} {world : σ}
    (hk : k.execute l.link columnsSql
      [.text (Dialect.address .snowflake c.schema name).1,
        .text (Dialect.address .snowflake c.schema name).2] t.world = (.ok answer, world)) :
    ((backend k.traced c).tableSchema name ⟨some l, t⟩).1 =
      .ok ⟨name, (Catalog.warehouse c.schema).columnsOf answer.lowerColumns⟩ := by
  rw [Dialect.address_of_not_mem .snowflake c.schema h, Dialect.tableCase_snowflake] at hk
  rw [tableSchema_traced, hk]

/-- What a service with one table, `TRANSACTIONS` in the schema `MAIN`, knows of the columns of
tables. -/
def oneTableColumns : List Json → List (List Json)
  | [.text table, .text schema] =>
    if table = "TRANSACTIONS" ∧ schema = "MAIN" then [[.text "ID"]] else []
  | _ => []

/-- The answers of this service. Its table has one row. -/
def oneTableAnswer (sql : String) (args : List Json) : Except Driver.Error RowSet :=
  if sql = columnsSql then .ok ⟨["COLUMN_NAME"], oneTableColumns args⟩
  else if sql = "SELECT *\nFROM MAIN.TRANSACTIONS" ∨
      sql = "SELECT *\nFROM MAIN.TRANSACTIONS\nLIMIT 10" then .ok ⟨["ID"], [[.int 1]]⟩
  else .error .exited

/-- The connector to this service. -/
def oneTable : Connector Unit Unit where
  isAvailable := pure true
  connect _ := pure (.ok ())
  execute _ sql args := pure (oneTableAnswer sql args)
  close _ := pure (.ok ())

theorem oneTable_execute (link : Unit) (sql : String) (args : List Json) :
    oneTable.execute link sql args = fun _ => (oneTableAnswer sql args, ()) := rfl

/-- A name without a dot stands for itself, and its schema has the column of its table. -/
theorem columns_of_plain_name :
    let c : Driver.Credentials := { (default : Driver.Credentials) with schema := "MAIN" }
    let s : Held (Numbered Unit) (Traced Unit) := ⟨some ⟨0, ()⟩, ⟨(), []⟩⟩
    Descriptor.table { entity := "transactions" } = .other "transactions" ∧
      (Text.upper "transactions", "MAIN") = Dialect.address .snowflake "MAIN" "transactions" ∧
      ((backend oneTable.traced c).tableSchema "transactions" s).1 = .ok ⟨"transactions",
        [{ name := "ID", dataType := "", nullable := false, primaryKey := none,
           default := none }]⟩ := by
  intro c s
  have hdot : '.' ∉ "transactions".toList := by decide
  have haddress : (Text.upper "transactions", "MAIN") =
      Dialect.address .snowflake "MAIN" "transactions" :=
    (tableSchema_asks_address_iff oneTable c ⟨0, ()⟩ ⟨(), []⟩ "transactions").2.2.2.1.mpr hdot
  have hanswer : oneTable.execute () columnsSql
      [.text (Dialect.address .snowflake c.schema "transactions").1,
        .text (Dialect.address .snowflake c.schema "transactions").2] () =
      (.ok ⟨["COLUMN_NAME"], [[.text "ID"]]⟩, ()) := by
    have hschema : c.schema = "MAIN" := rfl
    have hupper : Text.upper "transactions" = "TRANSACTIONS" := by decide +kernel
    rw [hschema, ← haddress, hupper, oneTable_execute, oneTableAnswer, if_pos rfl, oneTableColumns,
      if_pos (by decide)]
  exact ⟨by decide +kernel, haddress,
    tableSchema_of_no_dot oneTable c ⟨0, ()⟩ ⟨(), []⟩ hdot hanswer⟩

/-- Statements read the table, but the question about its columns is about another one, and its
schema comes back without columns. -/
theorem columns_of_dotted_name :
    let d : Descriptor := { entity := "main.transactions", metrics := some [] }
    let c : Driver.Credentials := { (default : Driver.Credentials) with schema := "PUBLIC" }
    let s : Held (Numbered Unit) (Traced Unit) := ⟨some ⟨0, ()⟩, ⟨(), []⟩⟩
    let asked := ((backend oneTable.traced c).tableSchema "main.transactions" s)
    (∃ r, ((backend oneTable.traced c).structured d ⟨0, 5⟩ s).1 = .report r ∧ r.rowCount = 1) ∧
      asked.1 = .ok ⟨"main.transactions", []⟩ ∧
      asked.2.world.calls = [columnsCall 0 ("MAIN.TRANSACTIONS", "PUBLIC")] ∧
      Dialect.address .snowflake "PUBLIC" "main.transactions" = ("TRANSACTIONS", "MAIN") := by
  intro d c s asked
  have hupper : Text.upper "main.transactions" = "MAIN.TRANSACTIONS" := by decide +kernel
  have hcolumns : oneTableAnswer columnsSql [.text "MAIN.TRANSACTIONS", .text "PUBLIC"] =
      .ok ⟨["COLUMN_NAME"], []⟩ := by
    rw [oneTableAnswer, if_pos rfl, oneTableColumns, if_neg (by decide)]
  have hasked : asked = (.ok ⟨"main.transactions", []⟩,
      ⟨some ⟨0, ()⟩, ⟨(), [columnsCall 0 ("MAIN.TRANSACTIONS", "PUBLIC")]⟩⟩) := by
    have htraced := tableSchema_traced oneTable c ⟨0, ()⟩ ⟨(), []⟩ "main.transactions"
    have hschema : c.schema = "PUBLIC" := rfl
    simp only [hupper, hschema, oneTable_execute, hcolumns] at htraced
    exact htraced
  have hmetrics : (d.compile .snowflake).sql = "SELECT *\nFROM MAIN.TRANSACTIONS" := by
    decide +kernel
  have hsample : (d.sample .snowflake 10).sql = "SELECT *\nFROM MAIN.TRANSACTIONS\nLIMIT 10" := by
    decide +kernel
  have hrow : ∀ args, oneTableAnswer "SELECT *\nFROM MAIN.TRANSACTIONS" args =
      .ok ⟨["ID"], [[.int 1]]⟩ := by
    intro args
    rw [oneTableAnswer, if_neg (by decide +kernel), if_pos (.inl rfl)]
  have hrows : oneTableAnswer "SELECT *\nFROM MAIN.TRANSACTIONS\nLIMIT 10" [] =
      .ok ⟨["ID"], [[.int 1]]⟩ := by
    rw [oneTableAnswer, if_neg (by decide +kernel), if_pos (.inr rfl)]
  have hstructured := structured_of_some oneTable c d ⟨0, 5⟩ ⟨0, ()⟩ ⟨(), []⟩
  simp only [oneTable_execute, hmetrics, hsample, hrow, hrows] at hstructured
  refine ⟨⟨_, congrArg Prod.fst hstructured, rfl⟩, congrArg Prod.fst hasked,
    congrArg (fun a => a.2.world.calls) hasked, by decide +kernel⟩

end Warehouse

end LedgerQuery
