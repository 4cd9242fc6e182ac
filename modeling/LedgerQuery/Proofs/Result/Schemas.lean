import LedgerQuery.Backend.Introspection
import LedgerQuery.Proofs.Descriptor.Echo
import LedgerQuery.Proofs.Json.Stored
import LedgerQuery.Proofs.Result.Records
import LedgerQuery.Result.Connection

/-!
# Schemas and connections read back

A column is written without its missing parts, and a `null` in the place of its default is read as a
missing one. So a schema is read back as it is exactly if no default in it is `null`. Introspection
makes one column of each row, in order, and takes a `null` cell for a missing default; so whatever
schema it finds is read back. A connection is read back whatever its target is.

* `ColumnSchema.settled`: the column without a default that is `null`.
* `TableSchema.ofDraft_toDraft`, `TableSchema.depth_le_of_ofDraft`: what is read of a written schema,
  and how deep it may be nested.
* `TableSchema.readsBack_iff`: which schemas are read back.
* `ConnectionInfo.readsBack`: all connections are.
* `Catalog.columns_readBack`: the columns of an answer, and that they are read back.
-/

namespace LedgerQuery

open Json (Draft Source)
open Json.Draft (written readPart)

/-! ### Columns -/

namespace ColumnSchema

/-- The column without a default that is `null`. -/
def settled (c : ColumnSchema) : ColumnSchema :=
  { c with default := cellDefault c.default }

theorem settled_eq_self_iff (c : ColumnSchema) : c.settled = c ↔ c.default ≠ some .null := by
  obtain ⟨name, dataType, nullable, primaryKey, default⟩ := c
  constructor
  · intro h hnull
    rw [← h] at hnull
    exact cellDefault_ne_null default hnull
  · intro h
    have hdefault : cellDefault default = default := by
      cases default with
      | none => rfl
      | some j => cases j <;> first | rfl | exact absurd rfl h
    rw [settled, hdefault]

/-- The parts of a column, in the order in which they are written. -/
def parts (c : ColumnSchema) : List (String × Option Json) :=
  [("name", some (.text c.name)), ("type", some (.text c.dataType)),
    ("nullable", some (.bool c.nullable)), ("primary_key", c.primaryKey.map .bool),
    ("default", c.default)]

theorem toJson_eq (c : ColumnSchema) : c.toJson = .object (written c.parts) := by
  have hdefault : Period.memberOf "default" id c.default =
      Period.memberOf "default" id c.default ++ written [] := (List.append_nil _).symm
  rw [toJson, hdefault, List.append_assoc, Period.memberOf_append, Period.memberOf_append,
    Option.map_id]
  rfl

theorem mem_toJson {c : ColumnSchema} {j : Json} (h : c.default = some j) :
    ("default", j) ∈ written c.parts :=
  List.mem_filterMap.mpr ⟨("default", some j), by simp [parts, h], rfl⟩

/-- What texts, truth values and the default of a column have is had by all its parts. -/
theorem forall_parts {P : Json → Prop} (htext : ∀ s, P (.text s)) (hbool : ∀ b, P (.bool b))
    {c : ColumnSchema} (hdefault : ∀ j ∈ c.default, P j) : ∀ p ∈ c.parts, ∀ j ∈ p.2, P j := by
  intro p hp j hj
  simp only [parts, List.mem_cons, List.not_mem_nil, or_false] at hp
  rcases hp with rfl | rfl | rfl | rfl | rfl
  · obtain rfl := Option.mem_some.mp hj
    exact htext _
  · obtain rfl := Option.mem_some.mp hj
    exact htext _
  · obtain rfl := Option.mem_some.mp hj
    exact hbool _
  · obtain ⟨b, -, rfl⟩ := Option.map_eq_some_iff.mp hj
    exact hbool b
  · exact hdefault j hj

theorem depth_toJson_le {c : ColumnSchema} {n : Nat} (h : ∀ j ∈ c.default, j.depth ≤ n) :
    c.toJson.depth ≤ n + 1 := by
  have hparts := forall_parts (fun s => Nat.zero_le n) (fun b => Nat.zero_le n) h
  rw [toJson_eq]
  refine Json.depth_object_le fun m hm => ?_
  obtain ⟨p, hp, hpart⟩ := List.mem_filterMap.mp hm
  obtain ⟨j, hj, rfl⟩ := Option.map_eq_some_iff.mp hpart
  exact hparts p hp j hj

theorem storable_toJson {c : ColumnSchema} (h : ∀ j ∈ c.default, j.Storable) :
    c.toJson.Storable := by
  rw [toJson_eq]
  exact Json.storable_written fields rfl (by decide)
    (forall_parts Json.storable_text Json.storable_bool h)

/-- A default is read as it is, unless it is `null`. -/
theorem option_value_toDraft {o : Option Json} {j : Json} (ho : o = some j) (hj : j.Distinct)
    {room : Nat} (hroom : j.depth ≤ room) :
    j.toDraft.option (·.value room) = .ok (cellDefault o) := by
  have hvalue := Json.value_toDraft hj hroom
  subst ho
  cases j with
  | null => rfl
  | _ => exact congrArg (Except.map some) hvalue

/-- A column is read back without a default that is `null`. -/
theorem ofDraft_toDraft (source : Source) {c : ColumnSchema} (h : ∀ j ∈ c.default, j.Distinct)
    {room : Nat} (hroom : c.toJson.depth ≤ room) :
    ofDraft source room c.toJson.toDraft = .ok c.settled := by
  have hkey : ∀ state : Parts, state.primaryKey = none →
      readPart (readField (room - 1)) state ("primary_key", c.primaryKey.map .bool) =
        .ok { state with primaryKey := c.primaryKey } := by
    intro state hstate
    cases c.primaryKey with
    | none =>
      cases state
      cases hstate
      rfl
    | some b => rfl
  have hdefault : ∀ state : Parts, state.default = none →
      readPart (readField (room - 1)) state ("default", c.default) =
        .ok { state with default := cellDefault c.default } := by
    intro state hstate
    cases hd : c.default with
    | none =>
      cases state
      cases hstate
      rfl
    | some j =>
      rw [toJson_eq] at hroom
      have hdepth : j.depth < (Json.object (written c.parts)).depth :=
        Json.depth_lt_of_mem_object (mem_toJson hd)
      exact congrArg (Except.map _) (option_value_toDraft rfl (h j hd) (by omega))
  have hread : c.toJson.toDraft.record source fields (readField (room - 1)) {} =
      .ok ⟨some c.name, some c.dataType, some c.nullable, c.primaryKey,
        cellDefault c.default⟩ := by
    have hname : readPart (readField (room - 1)) {} ("name", some (.text c.name)) =
        .ok { name := some c.name } := rfl
    have htype : ∀ state : Parts,
        readPart (readField (room - 1)) state ("type", some (.text c.dataType)) =
          .ok { state with dataType := some c.dataType } := fun state => rfl
    have hnullable : ∀ state : Parts,
        readPart (readField (room - 1)) state ("nullable", some (.bool c.nullable)) =
          .ok { state with nullable := some c.nullable } := fun state => rfl
    rw [toJson_eq, Draft.record_written source rfl (by decide)]
    simp only [parts, List.foldlM_cons, List.foldlM_nil, bind, Except.bind, hname, htype,
      hnullable, hkey, hdefault]
    rfl
  rw [ofDraft, hread]
  rfl

/-- A column is read only if its default may be nested so deep. -/
theorem depth_le_of_ofDraft {source : Source} {c k : ColumnSchema} {room : Nat}
    (h : ofDraft source room c.toJson.toDraft = .ok k) : ∀ j ∈ c.default, j.depth ≤ room - 1 := by
  intro j hj
  obtain ⟨p, hrecord, -⟩ := Json.exists_of_bind_eq_ok h
  have hmem : (some "default", j.toDraft) ∈ Json.toMemberDrafts (written c.parts) := by
    rw [Json.toMemberDrafts_eq_map]
    exact List.mem_map_of_mem (mem_toJson hj)
  rw [toJson_eq] at hrecord
  obtain ⟨before, after, hstep⟩ := Draft.exists_step_of_eachField hrecord hmem (by decide)
  obtain ⟨o, ho, -⟩ := Json.exists_of_map_eq_ok hstep
  cases j with
  | list _ | object _ =>
    obtain ⟨v, hv, -⟩ := Json.exists_of_map_eq_ok ho
    exact Json.depth_le_of_value hv
  | _ => exact Nat.zero_le _

end ColumnSchema

/-! ### Schemas -/

namespace TableSchema

/-- The schema whose columns have no default that is `null`. -/
def settled (t : TableSchema) : TableSchema :=
  ⟨t.table, t.columns.map ColumnSchema.settled⟩

theorem settled_eq_self_iff (t : TableSchema) :
    t.settled = t ↔ ∀ column ∈ t.columns, column.default ≠ some .null := by
  obtain ⟨table, columns⟩ := t
  simp only [settled, TableSchema.mk.injEq, true_and]
  conv_lhs => rhs; rw [← List.map_id columns]
  rw [List.map_inj_left]
  simp only [id_eq, ColumnSchema.settled_eq_self_iff]

/-- The parts of a schema, all of which are always there. -/
def parts (t : TableSchema) : List (String × Option Json) :=
  [("table_name", some (.text t.table)),
    ("columns", some (.list (t.columns.map ColumnSchema.toJson)))]

theorem toJson_eq (t : TableSchema) : t.toJson = .object (written t.parts) := rfl

theorem depth_columns_lt (t : TableSchema) :
    (Json.list (t.columns.map ColumnSchema.toJson)).depth < t.toJson.depth :=
  Json.depth_lt_of_mem_object (m := ("columns", .list (t.columns.map ColumnSchema.toJson)))
    (by simp)

theorem depth_toJson_le {t : TableSchema} {n : Nat}
    (h : ∀ column ∈ t.columns, ∀ j ∈ column.default, j.depth ≤ n) : t.toJson.depth ≤ n + 3 := by
  refine Json.depth_object_le fun m hm => ?_
  simp only [List.mem_cons, List.not_mem_nil, or_false] at hm
  rcases hm with rfl | rfl
  · exact Nat.zero_le _
  · refine Json.depth_list_le fun j hj => ?_
    obtain ⟨column, hcolumn, rfl⟩ := List.mem_map.mp hj
    exact ColumnSchema.depth_toJson_le (h column hcolumn)

theorem storable_toJson {t : TableSchema}
    (h : ∀ column ∈ t.columns, ∀ j ∈ column.default, j.Storable) : t.toJson.Storable := by
  have hkeys : (["table_name", "columns"] : List String).Nodup := by decide
  refine Json.storable_object hkeys fun m hm => ?_
  simp only [List.mem_cons, List.not_mem_nil, or_false] at hm
  rcases hm with rfl | rfl
  · exact Json.storable_text _
  · refine Json.storable_list fun j hj => ?_
    obtain ⟨column, hcolumn, rfl⟩ := List.mem_map.mp hj
    exact ColumnSchema.storable_toJson (h column hcolumn)

/-- A schema is read back without defaults that are `null`. -/
theorem ofDraft_toDraft (source : Source) {t : TableSchema}
    (h : ∀ column ∈ t.columns, ∀ j ∈ column.default, j.Distinct) {room : Nat}
    (hroom : t.toJson.depth ≤ room) : ofDraft source room t.toJson.toDraft = .ok t.settled := by
  have hlist := t.depth_columns_lt
  have hcolumn : ∀ column ∈ t.columns,
      ColumnSchema.ofDraft source (room - 1 - 1) column.toJson.toDraft = .ok column.settled := by
    intro column hc
    have hdepth := Json.depth_lt_of_mem_list (List.mem_map_of_mem (f := ColumnSchema.toJson) hc)
    exact ColumnSchema.ofDraft_toDraft source (h column hc) (by omega)
  have hcolumns : ∀ state, readPart (readField source (room - 1)) state
      ("columns", some (.list (t.columns.map ColumnSchema.toJson))) =
        .ok (state.1, some (t.columns.map ColumnSchema.settled)) := by
    intro state
    exact congrArg (Except.map _) (Draft.elements_toDraft hcolumn)
  have htable : ∀ state, readPart (readField source (room - 1)) state
      ("table_name", some (.text t.table)) = .ok (some t.table, state.2) := fun state => rfl
  have hread : t.toJson.toDraft.record source fields (readField source (room - 1)) (none, none) =
      .ok (some t.table, some (t.columns.map ColumnSchema.settled)) := by
    rw [toJson_eq, Draft.record_written source rfl (by decide)]
    simp only [parts, List.foldlM_cons, List.foldlM_nil, bind, Except.bind, htable, hcolumns]
    rfl
  rw [ofDraft, hread]
  rfl

/-- A schema is read only if its defaults may be nested so deep. -/
theorem depth_le_of_ofDraft {source : Source} {t k : TableSchema} {room : Nat}
    (h : ofDraft source room t.toJson.toDraft = .ok k) :
    ∀ column ∈ t.columns, ∀ j ∈ column.default, j.depth ≤ room - 3 := by
  intro column hcolumn
  obtain ⟨p, hrecord, -⟩ := Json.exists_of_bind_eq_ok h
  have hmem : (some "columns", (Json.list (t.columns.map ColumnSchema.toJson)).toDraft) ∈
      Json.toMemberDrafts (written t.parts) := by
    rw [Json.toMemberDrafts_eq_map]
    simp [written, parts]
  obtain ⟨before, after, hstep⟩ := Draft.exists_step_of_eachField hrecord hmem (by decide)
  obtain ⟨columns, hcolumns, -⟩ := Json.exists_of_map_eq_ok hstep
  have hitem : column.toJson.toDraft ∈ Json.toDrafts (t.columns.map ColumnSchema.toJson) := by
    rw [Json.toDrafts_eq_map, List.map_map]
    exact List.mem_map_of_mem hcolumn
  obtain ⟨k, hk⟩ := Draft.exists_read_of_eachItem hcolumns hitem
  exact ColumnSchema.depth_le_of_ofDraft hk

/-- The schema is read back from its JSON as it is: from a value that is held, and from a text unless
it is nested too deep for any text. That a text gives back the floats of its defaults rests on a
reader that rounds correctly. -/
def ReadsBack (t : TableSchema) : Prop :=
  (∀ room, t.toJson.depth ≤ room → ofDraft .memory room t.toJson.stored.toDraft = .ok t) ∧
    ((Json.document t.toJson.render).finish (ofDraft .stream Json.maxDepth) = .ok t ↔
      t.toJson.depth ≤ Json.maxDepth)

/-- A schema with defaults that can be held is read back exactly if none of them is `null`. -/
theorem readsBack_iff {t : TableSchema}
    (h : ∀ column ∈ t.columns, ∀ j ∈ column.default, j.Storable) :
    t.ReadsBack ↔ ∀ column ∈ t.columns, column.default ≠ some .null := by
  have hwritable := (storable_toJson h).writable
  have hdistinct := fun column hc j hj => (h column hc j hj).distinct
  rw [← settled_eq_self_iff]
  constructor
  · intro hback
    have hread := hback.1 t.toJson.depth (Nat.le_refl _)
    rw [Json.stored_of_writable hwritable, ofDraft_toDraft .memory hdistinct (Nat.le_refl _)] at hread
    exact Except.ok.inj hread
  · intro hsettled
    refine ⟨fun room hroom => ?_, ?_⟩
    · rw [Json.stored_of_writable hwritable, ofDraft_toDraft .memory hdistinct hroom, hsettled]
    · rw [Json.document_render hwritable]
      constructor
      · intro hread
        have hdeep := depth_toJson_le (depth_le_of_ofDraft (Json.Document.read_of_finish hread))
        exact hdeep
      · intro hdepth
        rw [Json.Document.finish]
        dsimp only
        rw [ofDraft_toDraft .stream hdistinct hdepth, hsettled]
        rfl

end TableSchema

/-! ### Connections -/

namespace ConnectionInfo

/-- The members of a connection, in the order in which they are written. -/
def members (c : ConnectionInfo) : List (String × Json) :=
  c.target.members ++ [("connected", .bool c.connected), ("tables", .list (c.tables.map .text))]

theorem nodup_members (c : ConnectionInfo) : (c.members.map Prod.fst).Nodup := by
  obtain ⟨target, connected, tables⟩ := c
  have hfile : ["type", "database", "connected", "tables"].Nodup := by decide
  have hservice :
      ["type", "account", "database", "schema", "warehouse", "connected", "tables"].Nodup := by
    decide
  cases target with
  | file database => exact hfile
  | service account database schema warehouse => exact hservice

theorem storable_members (c : ConnectionInfo) : ∀ m ∈ c.members, m.2.StorableWithin 1 := by
  have htarget : ∀ m ∈ c.target.members, m.2.StorableWithin 1 := by
    cases c.target <;> simp [Target.members, Json.storableWithin_text]
  have htables : (Json.list (c.tables.map Json.text)).StorableWithin 1 := by
    refine Json.storableWithin_list fun j hj => ?_
    obtain ⟨s, -, rfl⟩ := List.mem_map.mp hj
    exact Json.storableWithin_text 0 s
  intro m hm
  rcases List.mem_append.mp hm with hm | hm
  · exact htarget m hm
  · simp only [List.mem_cons, List.not_mem_nil, or_false] at hm
    rcases hm with rfl | rfl
    · exact ⟨Json.storable_bool _, Nat.zero_le 1⟩
    · exact htables

theorem storable_toJson (c : ConnectionInfo) : c.toJson.StorableWithin 2 :=
  Json.storableWithin_object c.nodup_members c.storable_members

theorem toDraft_toJson (c : ConnectionInfo) :
    c.toJson.toDraft = .object (Json.toMemberDrafts c.target.members ++
      [(some "connected", .bool c.connected),
        (some "tables", (Json.list (c.tables.map .text)).toDraft)]) none := by
  show Draft.object (Json.toMemberDrafts (c.target.members ++ _)) none = _
  rw [Json.toMemberDrafts_eq_map, Json.toMemberDrafts_eq_map, List.map_append]
  rfl

/-- The members of a target are set aside. -/
theorem eachMember_target (t : Target) (room : Nat) (rest : List (Option String × Draft)) :
    eachMember room none (Json.toMemberDrafts t.members ++ rest) {} =
      eachMember room none rest { others := Json.toMemberDrafts t.members } := by
  cases t <;> rfl

/-- The target is told from its members. -/
theorem ofMembers_target (t : Target) :
    Target.ofMembers (Json.toMemberDrafts t.members) = .ok t := by
  cases t <;> rfl

/-- A connection is read back: the members of its target are set aside, and the target is told from
them. -/
theorem ofDraft_toDraft (room : Nat) (c : ConnectionInfo) :
    ofDraft room c.toJson.toDraft = .ok c := by
  have htables : (Json.list (c.tables.map Json.text)).toDraft.elements (·.string) =
      .ok c.tables := by
    have hread := Descriptor.elements_names id c.tables
    rwa [List.map_id] at hread
  have hread : eachMember (room - 1) none [(some "connected", .bool c.connected),
        (some "tables", (Json.list (c.tables.map .text)).toDraft)]
        { others := Json.toMemberDrafts c.target.members } =
      .ok ⟨some c.connected, some c.tables, Json.toMemberDrafts c.target.members⟩ := by
    simp [eachMember, Draft.boolean, htables, Draft.close, Except.map]
  rw [toDraft_toJson, ofDraft, eachMember_target, hread]
  simp only [bind, Except.bind, Draft.required, ofMembers_target]
  rfl

/-- The connection is read back from its JSON, from a value that is held as from a text. -/
def ReadsBack (c : ConnectionInfo) : Prop :=
  (∀ room, ofDraft room c.toJson.stored.toDraft = .ok c) ∧
    (Json.document c.toJson.render).finish (ofDraft Json.maxDepth) = .ok c

theorem readsBack (c : ConnectionInfo) : c.ReadsBack := by
  have hwritable := c.storable_toJson.storable.writable
  constructor
  · intro room
    rw [Json.stored_of_writable hwritable, ofDraft_toDraft]
  · rw [Json.document_render hwritable, Json.Document.finish]
    dsimp only
    rw [ofDraft_toDraft]
    rfl

end ConnectionInfo

/-! ### Answers that were read from a text -/

namespace RowSet

/-- The cells can be held, and are nested no deeper than this. -/
def CellsWithin (n : Nat) (r : RowSet) : Prop :=
  ∀ row ∈ r.rows, ∀ cell ∈ row, cell.StorableWithin n

theorem cellsWithin_of_ofDraft {source : Source} {room : Nat} {d : Draft} (hd : d.InRange)
    {r : RowSet} (h : ofDraft source room d = .ok r) : r.CellsWithin (room - 3) := by
  obtain ⟨s, hrecord, h⟩ := Json.exists_of_bind_eq_ok h
  have hrow : ∀ {d : Draft} {row : List Json}, d.InRange →
      d.elements (·.value (room - 1 - 2)) = .ok row →
      ∀ cell ∈ row, cell.StorableWithin (room - 3) := by
    intro d row hd h
    exact Draft.elements_invariant (fun hd h => Json.storable_value hd h) hd h
  -- what is read of the rows, if anything is, consists of such cells
  have hrows : ∀ rows ∈ s.2, ∀ row ∈ rows, ∀ cell ∈ row, cell.StorableWithin (room - 3) := by
    refine Draft.record_invariant
      (P := fun s => ∀ rows ∈ s.2, ∀ row ∈ rows, ∀ cell ∈ row, cell.StorableWithin (room - 3))
      ?_ hd (fun rows hrows => absurd hrows (Option.not_mem_none rows)) hrecord
    intro state name d state' hd hstate hstep
    unfold readField at hstep
    split at hstep
    · obtain ⟨columns, -, rfl⟩ := Json.exists_of_map_eq_ok hstep
      exact hstate
    · obtain ⟨rows, hrows, rfl⟩ := Json.exists_of_map_eq_ok hstep
      intro rows' hrows'
      obtain rfl := Option.mem_some.mp hrows'
      exact Draft.elements_invariant hrow hd hrows
  obtain ⟨columns, rows⟩ := s
  obtain ⟨columns, -, h⟩ := Json.exists_of_bind_eq_ok h
  obtain ⟨rows', hrequired, h⟩ := Json.exists_of_bind_eq_ok h
  obtain rfl := Except.ok.inj h
  cases rows with
  | none => exact absurd hrequired (by simp [Draft.required])
  | some rows =>
    obtain rfl := Except.ok.inj hrequired
    exact hrows rows rfl

theorem cellsWithin_of_parse {s : String} {r : RowSet} (h : parse s = .ok r) :
    r.CellsWithin 124 :=
  cellsWithin_of_ofDraft (Json.inRange_document s) (Json.Document.read_of_finish h)

end RowSet

/-! ### Introspection -/

namespace Catalog

open RowSet (LastAt CellsWithin)

/-- The catalogs, each with the name under which its answers hold the default of a column. -/
inductive Known : Catalog → String → Prop where
  | embedded : Known embedded "dflt_value"
  | warehouse (schema : String) : Known (warehouse schema) "column_default"

theorem cellDefault_eq_some_iff (o : Option Json) (j : Json) :
    cellDefault o = some j ↔ j ≠ .null ∧ o = some j := by
  rw [cellDefault, Option.filter_eq_some_iff, and_comm]
  refine and_congr ?_ Iff.rfl
  cases j <;> simp [Json.isNull]

variable {c : Catalog} {name : String}

theorem Known.default_eq (h : c.Known name) (rec : Record) :
    (c.column rec).default = cellDefault (rec.lookup name) := by
  cases h <;> rfl

theorem Known.default_eq_some_iff (h : c.Known name) (answer : RowSet) (row : List Json) (j : Json) :
    (c.column (answer.record row)).default = some j ↔ j ≠ .null ∧
      ∃ i, LastAt answer.columns (min answer.columns.length row.length) name i ∧
        row[i]? = some j := by
  rw [h.default_eq, cellDefault_eq_some_iff, (answer.tells_record row).value]

/-- What all cells of the answer have is had by every default, which is one of them. -/
theorem Known.default_of_cells (h : c.Known name) {answer : RowSet} {P : Json → Prop}
    (hcells : ∀ row ∈ answer.rows, ∀ cell ∈ row, P cell) :
    ∀ column ∈ c.columnsOf answer, ∀ j ∈ column.default, P j := by
  intro column hcolumn j hj
  rw [columnsOf, RowSet.records, List.map_map] at hcolumn
  obtain ⟨row, hrow, rfl⟩ := List.mem_map.mp hcolumn
  obtain ⟨-, i, -, hcell⟩ := (h.default_eq_some_iff answer row j).mp hj
  exact hcells row hrow j (List.mem_of_getElem? hcell)

theorem Known.default_ne_null (h : c.Known name) (answer : RowSet) :
    ∀ column ∈ c.columnsOf answer, column.default ≠ some .null := by
  intro column hcolumn
  obtain ⟨rec, -, rfl⟩ := List.mem_map.mp hcolumn
  rw [h.default_eq]
  exact cellDefault_ne_null _

theorem Known.readsBack (h : c.Known name) {answer : RowSet}
    (hcells : ∀ row ∈ answer.rows, ∀ cell ∈ row, cell.Storable) (table : String) :
    (TableSchema.mk table (c.columnsOf answer)).ReadsBack :=
  (TableSchema.readsBack_iff (h.default_of_cells hcells)).mpr (h.default_ne_null answer)

/-- The text of a schema is read back if the rows it comes from were read from a text themselves:
the defaults are nested no deeper in the schema than they were as cells in the rows. -/
theorem Known.readsBack_of_parse (h : c.Known name) {s : String} {r answer : RowSet}
    (hr : RowSet.parse s = .ok r) (hrows : r.rows = answer.rows) (table : String) :
    (Json.document (TableSchema.mk table (c.columnsOf answer)).toJson.render).finish
      (TableSchema.ofDraft .stream Json.maxDepth) = .ok ⟨table, c.columnsOf answer⟩ := by
  have hcells : ∀ row ∈ answer.rows, ∀ cell ∈ row, cell.StorableWithin 124 := by
    rw [← hrows]
    exact RowSet.cellsWithin_of_parse hr
  have hback := h.readsBack (fun row hrow cell hcell => (hcells row hrow cell hcell).storable) table
  refine hback.2.mpr (TableSchema.depth_toJson_le (n := 124) ?_)
  exact h.default_of_cells fun row hrow cell hcell => (hcells row hrow cell hcell).depth_le

/-- Each row of an answer gives one column, in order. The default of a column is the cell of its row
under the catalog's name for it, and missing if that is `null` or if there is no such cell; no
column has the default `null`. So the schema of any table that has these columns is read back from
its JSON, from its text unless the cells are nested too deep for a text; the cells of rows that were
read from a text are not. Whatever a backend is connected to, the connection is read back. -/
theorem columns_readBack :
    (∀ (c : Catalog) (name : String), c.Known name → ∀ answer : RowSet,
      List.Forall₂ (fun row column => column = c.column (answer.record row) ∧
          ∀ j, column.default = some j ↔ j ≠ .null ∧
            ∃ i, LastAt answer.columns (min answer.columns.length row.length) name i ∧
              row[i]? = some j) answer.rows (c.columnsOf answer) ∧
        (∀ column ∈ c.columnsOf answer, column.default ≠ some .null) ∧
        ((∀ row ∈ answer.rows, ∀ cell ∈ row, cell.Storable) →
          ∀ table, (TableSchema.mk table (c.columnsOf answer)).ReadsBack) ∧
        ((∃ s r, RowSet.parse s = .ok r ∧ r.rows = answer.rows) →
          ∀ table, (Json.document (TableSchema.mk table (c.columnsOf answer)).toJson.render).finish
            (TableSchema.ofDraft .stream Json.maxDepth) = .ok ⟨table, c.columnsOf answer⟩)) ∧
      ∀ info : ConnectionInfo, info.ReadsBack := by
  refine ⟨fun c name h answer => ⟨?_, h.default_ne_null answer, h.readsBack, ?_⟩,
    ConnectionInfo.readsBack⟩
  · rw [columnsOf, RowSet.records, List.map_map, List.forall₂_map_right_iff, List.forall₂_same]
    intro row _
    exact ⟨rfl, h.default_eq_some_iff answer row⟩
  · rintro ⟨s, r, hr, hrows⟩
    exact h.readsBack_of_parse hr hrows

/-- Three columns: a `null` cell and a missing one give no default, a nested cell gives one. -/
theorem columns_readBack_nested :
    let answer : RowSet := ⟨["COLUMN_NAME", "COLUMN_DEFAULT"].map Text.lower,
      [[.text "ID", .null], [.text "NOTE", .object [("tags", .list [.null, .int 1])]], [.text "X"]]⟩
    let columns := (warehouse "PUBLIC").columnsOf answer
    (TableSchema.mk "loans" columns).ReadsBack ∧
      columns.map ColumnSchema.name = ["ID", "NOTE", "X"] ∧
      columns.map (fun c => c.default.isSome) = [false, true, false] := by
  intro answer columns
  have hnested : (Json.object [("tags", .list [.null, .int 1])]).Storable := by
    have hone : (Json.int 1).Storable := Json.storable_int (by decide) (by decide)
    refine Json.storable_object (by decide) ?_
    simp [Json.storable_list, Json.storable_null, hone]
  have hcells : ∀ row ∈ answer.rows, ∀ cell ∈ row, cell.Storable := by
    simp [answer, hnested, Json.storable_null, Json.storable_text]
  obtain ⟨-, -, hback, -⟩ := columns_readBack.1 _ _ (.warehouse "PUBLIC") answer
  exact ⟨hback hcells "loans", by decide +kernel, by decide +kernel⟩

end Catalog

end LedgerQuery
