import LedgerQuery.Envelope.Shape
import LedgerQuery.Proofs.Descriptor.Echo
import LedgerQuery.Proofs.Envelope.Figures
import LedgerQuery.Proofs.Json.Stored

/-!
# Envelopes read back

An envelope is read back from its JSON as it is, from the value as well as from its text. In JSON
nothing marks it as a report or a failure: a report is tried first, and a failure is none because
its data is empty.
-/

namespace LedgerQuery

open Json (Draft Source)
open Json.Draft (written readPart)

/-! ### The echo of the descriptor -/

theorem Scalar.distinct_toJson (s : Scalar) : s.toJson.Distinct := by
  cases s <;> trivial

theorem Period.distinct_toJson (p : Period) : p.toJson.Distinct := by
  rw [toJson_eq]
  refine Json.distinct_written fields rfl (by decide) ?_
  intro part hpart j hj
  simp only [parts, List.mem_cons, List.not_mem_nil, or_false] at hpart
  rcases hpart with rfl | rfl | rfl | rfl | rfl <;>
    obtain ⟨s, -, rfl⟩ := Option.map_eq_some_iff.mp hj
  · trivial
  all_goals exact s.distinct_toJson

theorem Descriptor.distinct_toJson {d : Descriptor} (h : d.Writable) : d.toJson.Distinct := by
  have hnames : ∀ {α : Type} (name : α → String) (as : List α),
      (Json.list (as.map fun a => .text (name a))).Distinct := by
    intro α name as
    refine Json.distinct_list ?_
    intro j hj
    obtain ⟨a, -, rfl⟩ := List.mem_map.mp hj
    trivial
  rw [toJson_eq]
  refine Json.distinct_written fields rfl (by decide) ?_
  intro part hpart j hj
  simp only [parts, List.mem_cons, List.not_mem_nil, or_false] at hpart
  rcases hpart with rfl | rfl | rfl | rfl | rfl
  · obtain rfl := Option.mem_some.mp hj
    trivial
  · obtain ⟨fs, hfs, rfl⟩ := Option.map_eq_some_iff.mp hj
    obtain rfl := mem_of_mem_nonEmpty hfs
    refine Json.distinct_object ?_ ?_
    · rw [List.map_map]
      exact h.columns
    intro m hm
    obtain ⟨f, -, rfl⟩ := List.mem_map.mp hm
    exact f.2.distinct_toJson
  · obtain ⟨ms, -, rfl⟩ := Option.map_eq_some_iff.mp hj
    exact hnames Metric.name ms
  · obtain ⟨as, -, rfl⟩ := Option.map_eq_some_iff.mp hj
    exact hnames Aggregation.name as
  · obtain ⟨p, -, rfl⟩ := Option.map_eq_some_iff.mp hj
    exact p.distinct_toJson

theorem Descriptor.storable_toJson {d : Descriptor} (h : d.Writable) : d.toJson.Storable :=
  ⟨writable_toJson h, distinct_toJson h⟩

/-! ### Records -/

/-- The records can be held, each as an object. -/
def AllStorable (rs : List Record) : Prop :=
  ∀ rec ∈ rs, (Json.object rec).Storable

theorem storable_recordsJson {rs : List Record} (h : AllStorable rs) :
    (RowSet.recordsJson rs).Storable := by
  refine Json.storable_list ?_
  intro j hj
  obtain ⟨rec, hrec, rfl⟩ := List.mem_map.mp hj
  exact h rec hrec

/-- A record is read back with its columns in order and its cells as they are. -/
theorem dictionary_record {room : Nat} {rec : Record} (h : (Json.object rec).Distinct)
    (hroom : (Json.object rec).depth ≤ room) :
    (Json.object rec).toDraft.dictionary (·.value room) = .ok rec := by
  have hcell : ∀ m ∈ rec, m.2.toDraft.value room = .ok m.2 := by
    intro m hm
    have hdepth := Json.depth_lt_of_mem_object hm
    exact Json.value_toDraft (Json.distinct_of_mem h hm) (by omega)
  have hread := Draft.dictionary_toDraft (f := id) hcell (Json.nodup_of_distinct h)
  simpa using hread

theorem recordsOfDraft_recordsJson {room : Nat} {rs : List Record} (h : AllStorable rs)
    (hroom : (RowSet.recordsJson rs).depth ≤ room) :
    Report.recordsOfDraft room (RowSet.recordsJson rs).toDraft = .ok rs := by
  have hrecord : ∀ rec ∈ rs, (Json.object rec).toDraft.dictionary (·.value room) = .ok rec := by
    intro rec hrec
    have hdepth := Json.depth_lt_of_mem_list (List.mem_map_of_mem (f := Json.object) hrec)
    rw [RowSet.recordsJson] at hroom
    exact dictionary_record (h rec hrec).distinct (by omega)
  have hread := Draft.elements_toDraft (f := Json.object) (g := id) hrecord
  rwa [List.map_id] at hread

/-! ### Reports -/

namespace Report

/-- What a report needs to be read back. -/
structure Writable (r : Report) : Prop where
  query : r.query.Writable
  rowCount : (r.rowCount : Int) ≤ Json.maxUnsigned
  ordered : r.stats.Ordered
  finite : ∀ f ∈ r.stats, Decimal.isFinite f.2 = true
  samples : AllStorable r.samples
  breakdowns : ∀ rs ∈ r.breakdowns, AllStorable rs

/-- The parts of a report's data, in the order in which they are written. -/
def dataParts (r : Report) : List (String × Option Json) :=
  [("summary_stats", some r.stats.toJson), ("data_points", some (RowSet.recordsJson r.samples)),
    ("period_label", some (.text r.periodTitle)),
    ("breakdowns", r.breakdowns.map RowSet.recordsJson)]

theorem dataJson_eq (r : Report) : r.dataJson = .object (written r.dataParts) := by
  rw [dataJson, dataParts]
  cases r.breakdowns <;> rfl

theorem storable_stats {s : Stats} (hs : s.Ordered)
    (hfinite : ∀ f ∈ s, Decimal.isFinite f.2 = true) : s.toJson.Storable := by
  refine Json.storable_object ?_ ?_
  · rw [List.map_map]
    exact hs.nodup
  · intro m hm
    obtain ⟨f, hf, rfl⟩ := List.mem_map.mp hm
    exact ⟨hfinite f hf, trivial⟩

theorem storable_dataJson {r : Report} (h : r.Writable) : r.dataJson.Storable := by
  rw [dataJson_eq]
  refine Json.storable_written dataFields rfl (by decide) ?_
  intro p hp j hj
  simp only [dataParts, List.mem_cons, List.not_mem_nil, or_false] at hp
  rcases hp with rfl | rfl | rfl | rfl
  · obtain rfl := Option.mem_some.mp hj
    exact storable_stats h.ordered h.finite
  · obtain rfl := Option.mem_some.mp hj
    exact storable_recordsJson h.samples
  · obtain rfl := Option.mem_some.mp hj
    exact Json.storable_text _
  · obtain ⟨rs, hrs, rfl⟩ := Option.map_eq_some_iff.mp hj
    exact storable_recordsJson (h.breakdowns rs hrs)

theorem storable_toJson {r : Report} (h : r.Writable) : r.toJson.Storable := by
  have hkeys : (fields.map Json.Field.name).Nodup := by decide
  refine Json.storable_object hkeys ?_
  intro m hm
  simp only [List.mem_cons, List.not_mem_nil, or_false] at hm
  rcases hm with rfl | rfl | rfl | rfl
  · exact Descriptor.storable_toJson h.query
  · exact Json.storable_count h.rowCount
  · exact Json.storable_text _
  · exact storable_dataJson h

/-- The figures are read back, since they are in order. -/
theorem dictionary_stats {s : Stats} (hs : s.Ordered) :
    s.toJson.toDraft.dictionary (·.float) = .ok s := by
  have hfloat : ∀ f ∈ s, (Json.float f.2).toDraft.float = .ok f.2 := fun f _ => rfl
  exact Draft.dictionary_toDraft (f := Json.float) hfloat hs.nodup

/-- The parts of a report's data as they are when all of it is read. -/
def readData (r : Report) : DataParts :=
  ⟨some r.stats, some r.samples, some r.periodTitle, r.breakdowns⟩

theorem record_dataJson {room : Nat} {r : Report} (h : r.Writable) (hroom : r.dataJson.depth ≤ room) :
    r.dataJson.toDraft.record .memory dataFields (readDataField room) {} = .ok r.readData := by
  rw [dataJson_eq] at hroom ⊢
  -- no part is deeper than the data, so there is room for the records in it
  have hpart : ∀ (j : Json) (key : String), (key, some j) ∈ r.dataParts → j.depth ≤ room := by
    intro j key hpart
    have hmem : (key, j) ∈ written r.dataParts := List.mem_filterMap.mpr ⟨_, hpart, rfl⟩
    have hlt : j.depth < (Json.object (written r.dataParts)).depth :=
      Json.depth_lt_of_mem_object hmem
    omega
  have hstats : readPart (readDataField room) {} ("summary_stats", some r.stats.toJson) =
      .ok { stats := some (Stats.ofList r.stats) } :=
    congrArg (Except.map _) (dictionary_stats h.ordered)
  rw [Stats.ofList_of_ordered h.ordered] at hstats
  have hsamples : readPart (readDataField room) { stats := some r.stats }
      ("data_points", some (RowSet.recordsJson r.samples)) =
        .ok { stats := some r.stats, samples := some r.samples } :=
    congrArg (Except.map _) (recordsOfDraft_recordsJson h.samples
      (hpart _ "data_points" (by simp [dataParts])))
  have hbreakdowns : ∀ state : DataParts, state.breakdowns = none →
      readPart (readDataField room) state ("breakdowns", r.breakdowns.map RowSet.recordsJson) =
        .ok { state with breakdowns := r.breakdowns } := by
    intro state hstate
    cases hb : r.breakdowns with
    | none =>
      cases state
      cases hstate
      rfl
    | some rs =>
      have hrs := recordsOfDraft_recordsJson (h.breakdowns rs hb)
        (hpart _ "breakdowns" (by simp [dataParts, hb]))
      exact congrArg (Except.map _) (congrArg (Except.map some) hrs)
  rw [Draft.record_written .memory rfl (by decide)]
  have htitle : ∀ state : DataParts,
      readPart (readDataField room) state ("period_label", some (.text r.periodTitle)) =
        .ok { state with periodTitle := some r.periodTitle } := fun state => rfl
  simp only [dataParts, List.foldlM_cons, List.foldlM_nil, bind, Except.bind, hstats, hsamples,
    htitle, hbreakdowns]
  rfl

/-- The parts of a report, all of which are always there. -/
def parts (r : Report) : List (String × Option Json) :=
  [("query_executed", some r.query.toJson), ("row_count", some (.int r.rowCount)),
    ("execution_time", some (.text r.elapsed)), ("data", some r.dataJson)]

theorem readPart_rowCount (room : Nat) (state : Parts) {n : Nat} (h : (n : Int) ≤ Json.maxUnsigned) :
    readPart (readField room) state ("row_count", some (.int n)) =
      .ok { state with rowCount := some n } := by
  have hcount : (Json.int n).toDraft.count = .ok n := by
    show (Except.map Int.toNat (if 0 ≤ (n : Int) ∧ _ then _ else _)) = _
    rw [if_pos ⟨Int.natCast_nonneg n, h⟩]
    rfl
  exact congrArg (Except.map _) hcount

theorem readPart_data {room : Nat} {r : Report} (h : r.Writable) (hroom : r.dataJson.depth ≤ room)
    (state : Parts) :
    readPart (readField room) state ("data", some r.dataJson) =
      .ok { state with data := some r.readData } := by
  have hread := record_dataJson h hroom
  show (r.dataJson.toDraft.record .memory dataFields (readDataField room) {} >>= _) = _
  rw [hread]
  rfl

/-- A report is read back. -/
theorem ofDraft_toDraft {room : Nat} {r : Report} (h : r.Writable) (hroom : r.toJson.depth ≤ room) :
    ofDraft room r.toJson.toDraft = .ok r := by
  have hdata : ("data", r.dataJson) ∈ written r.parts := by simp [written, parts]
  have hdepth : r.dataJson.depth < r.toJson.depth := Json.depth_lt_of_mem_object hdata
  have hquery : ∀ state : Parts,
      readPart (readField room) state ("query_executed", some r.query.toJson) =
        .ok { state with query := some r.query } := by
    intro state
    exact congrArg (Except.map _) (Descriptor.ofDraft_toDraft .memory room h.query)
  have helapsed : ∀ state : Parts,
      readPart (readField room) state ("execution_time", some (.text r.elapsed)) =
        .ok { state with elapsed := some r.elapsed } := fun state => rfl
  have hread : r.toJson.toDraft.record .memory fields (readField room) {} =
      .ok ⟨some r.query, some r.rowCount, some r.elapsed, some r.readData⟩ := by
    have hwritten : r.toJson = .object (written r.parts) := rfl
    rw [hwritten, Draft.record_written .memory rfl (by decide)]
    simp only [parts, List.foldlM_cons, List.foldlM_nil, bind, Except.bind, hquery,
      readPart_rowCount room _ h.rowCount, helapsed, readPart_data h (by omega : _ ≤ room)]
    rfl
  rw [ofDraft, hread]
  rfl

end Report

/-! ### Failures -/

namespace Failure

theorem storable_toJson {f : Failure} (h : f.query.Writable) : f.toJson.Storable := by
  have hkeys : (["query_executed", "error", "data"] : List String).Nodup := by decide
  refine Json.storable_object hkeys ?_
  intro m hm
  simp only [List.mem_cons, List.not_mem_nil, or_false] at hm
  rcases hm with rfl | rfl | rfl
  · exact Descriptor.storable_toJson h
  · exact Json.storable_text _
  · exact Json.storable_object List.nodup_nil fun m hm => absurd hm List.not_mem_nil

/-- A failure is no report: its data has none of the fields that a report's data has. -/
theorem not_report (room : Nat) {f : Failure} (h : f.query.Writable) :
    Report.ofDraft room f.toJson.toDraft = .error .mismatch := by
  have hquery := Descriptor.ofDraft_toDraft .memory room h
  have hdraft : f.toJson.toDraft = .object [(some "query_executed", f.query.toJson.toDraft),
    (some "error", .text (some f.error)), (some "data", .object [] none)] none := rfl
  have hread : Report.readField room {} "query_executed" f.query.toJson.toDraft =
      .ok { query := some f.query } := congrArg (Except.map _) hquery
  have hdata : ∀ state, Report.readField room state "data" (.object [] none) = .error .mismatch :=
    fun state => rfl
  rw [Report.ofDraft, hdraft]
  simp [Draft.record, Draft.eachField, Report.fields, hread, hdata, Draft.skip, bind, Except.bind]

/-- A failure is read back. -/
theorem ofDraft_toDraft (room : Nat) {f : Failure} (h : f.query.Writable) :
    ofDraft room f.toJson.toDraft = .ok f := by
  have hquery : ∀ state : Parts,
      readPart (readField room) state ("query_executed", some f.query.toJson) =
        .ok { state with query := some f.query } := by
    intro state
    exact congrArg (Except.map _) (Descriptor.ofDraft_toDraft .memory room h)
  have herror : ∀ state : Parts, readPart (readField room) state ("error", some (.text f.error)) =
      .ok { state with error := some f.error } := fun state => rfl
  have hdata : ∀ state : Parts, readPart (readField room) state ("data", some (.object [])) =
      .ok { state with data := some () } := fun state => rfl
  have hwritten : f.toJson = .object (written [("query_executed", some f.query.toJson),
    ("error", some (.text f.error)), ("data", some (.object []))]) := rfl
  rw [ofDraft, hwritten, Draft.record_written .memory rfl (by decide)]
  simp only [List.foldlM_cons, List.foldlM_nil, bind, Except.bind, hquery, herror, hdata]
  rfl

end Failure

/-! ### Envelopes -/

namespace Envelope

/-- What an envelope needs to be read back. -/
def Writable : Envelope → Prop
  | .report r => r.Writable
  | .failure f => f.query.Writable

theorem storable_toJson {e : Envelope} (h : e.Writable) : e.toJson.Storable := by
  cases e with
  | report r => exact Report.storable_toJson h
  | failure f => exact Failure.storable_toJson h

/-- An envelope is read back from a value as deep as it is. -/
theorem ofDraft_toDraft {room : Nat} {e : Envelope} (h : e.Writable) (hroom : e.toJson.depth ≤ room) :
    ofDraft room e.toJson.toDraft = .ok e := by
  have hvalue := Json.value_toDraft (storable_toJson h).distinct hroom
  rw [ofDraft, hvalue]
  dsimp only
  cases e with
  | report r =>
    have hread : Report.ofDraft room (report r).toJson.toDraft = .ok r :=
      Report.ofDraft_toDraft h hroom
    rw [hread]
  | failure f =>
    have hreport : Report.ofDraft room (failure f).toJson.toDraft = .error .mismatch :=
      Failure.not_report room h
    have hread : Failure.ofDraft room (failure f).toJson.toDraft = .ok f :=
      Failure.ofDraft_toDraft room h
    rw [hreport]
    dsimp only
    rw [hread]

/-- The envelope is read back from its JSON, both as a value that is held and, unless it is nested
too deep for a text, as a text. That a text gives back its floats rests on a reader that rounds
correctly. -/
def ReadsBack (e : Envelope) : Prop :=
  (∀ room, e.toJson.depth ≤ room → ofDraft room e.toJson.stored.toDraft = .ok e) ∧
    (e.toJson.depth ≤ Json.maxDepth → parse e.toJson.render = .ok e)

theorem readsBack {e : Envelope} (h : e.Writable) : e.ReadsBack := by
  have hwritable := (storable_toJson h).writable
  constructor
  · intro room hroom
    rw [Json.stored_of_writable hwritable]
    exact ofDraft_toDraft h hroom
  · intro hdepth
    rw [parse, Json.document_render hwritable, Json.Document.finish]
    dsimp only
    rw [ofDraft_toDraft h hdepth]
    rfl

end Envelope

/-! ### What is shaped -/

/-- The rows are values that can be held, and no more of them than 64 bits can count. -/
structure RowSet.Storable (r : RowSet) : Prop where
  size : (r.size : Int) ≤ Json.maxUnsigned
  cells : ∀ row ∈ r.rows, ∀ cell ∈ row, cell.Storable

theorem RowSet.storable_recordOf {cells : List (String × Json)} (h : ∀ c ∈ cells, c.2.Storable) :
    (Json.object (recordOf cells)).Storable := by
  -- each cell is put under its name, which is there once at most
  have hfold : ∀ (cells : List (String × Json)) (rec : Record), (∀ c ∈ cells, c.2.Storable) →
      (rec.map Prod.fst).Nodup → (∀ c ∈ rec, c.2.Storable) →
        let result := cells.foldl (fun rec cell => Json.insert cell.1 cell.2 rec) rec
        (result.map Prod.fst).Nodup ∧ ∀ c ∈ result, c.2.Storable := by
    intro cells
    induction cells with
    | nil => exact fun rec _ hkeys hrec => ⟨hkeys, hrec⟩
    | cons c cells ih =>
      intro rec hcells hkeys hrec
      refine ih _ (fun c hc => hcells c (List.mem_cons_of_mem _ hc))
        (Json.nodup_insert c.1 c.2 hkeys) ?_
      intro m hm
      rcases Json.mem_insert hm with rfl | hm
      · exact hcells c List.mem_cons_self
      · exact hrec m hm
  obtain ⟨hkeys, hcells⟩ := hfold cells [] h List.nodup_nil (fun c hc => absurd hc List.not_mem_nil)
  exact Json.storable_object hkeys hcells

theorem RowSet.allStorable_records {r : RowSet} (h : r.Storable) : AllStorable r.records := by
  intro rec hrec
  obtain ⟨row, hrow, rfl⟩ := List.mem_map.mp hrec
  refine storable_recordOf ?_
  intro c hc
  exact h.cells row hrow c.2 (List.of_mem_zip hc).2

/-- A report on results that can be held is read back with any figures that can be. -/
theorem writable_withStats {d : Descriptor} (hd : d.Writable) {result sample : RowSet}
    (hresult : result.Storable) (hsample : sample.Storable) {stats : Stats} (hordered : stats.Ordered)
    (hfinite : ∀ f ∈ stats, Decimal.isFinite f.2 = true) (elapsed title : String) :
    Report.Writable {
      query := d
      rowCount := result.size
      elapsed := elapsed
      stats := stats
      samples := sample.records.take Descriptor.sampleLimit.toNat
      periodTitle := title
      breakdowns := if d.hasAggregations then some result.records else none } where
  query := hd
  rowCount := hresult.size
  ordered := hordered
  finite := hfinite
  samples := fun rec hrec => RowSet.allStorable_records hsample rec (List.mem_of_mem_take hrec)
  breakdowns := by
    intro rs hrs
    obtain ⟨-, hrs⟩ := Option.ite_none_right_eq_some.mp hrs
    obtain rfl := Option.some.inj hrs
    exact RowSet.allStorable_records hresult

theorem writable_shape {d : Descriptor} (hd : d.Writable) {result sample : RowSet}
    (hresult : result.Storable) (hsample : sample.Storable)
    (hfinite : ∀ f ∈ summaryStats result d, Decimal.isFinite f.2 = true) (elapsed : Elapsed) :
    (shape d result sample elapsed).Writable :=
  writable_withStats hd hresult hsample (ordered_summaryStats result d) hfinite _ _

/-- What is answered to a descriptor that was read from a text is read back, be it a report on any
results with finite figures or a refusal with any message. -/
theorem Envelope.readsBack_answer (d : Descriptor) (hd : ∃ s, Descriptor.parse s = .ok d) :
    (∀ (result sample : RowSet) (elapsed : Elapsed), result.Storable → sample.Storable →
      (∀ f ∈ summaryStats result d, Decimal.isFinite f.2 = true) →
        (shape d result sample elapsed).ReadsBack) ∧
    ∀ message, (refuse d message).ReadsBack := by
  obtain ⟨s, hs⟩ := hd
  have hwritable := Descriptor.writable_of_parse hs
  constructor
  · intro result sample elapsed hresult hsample hfinite
    exact readsBack (writable_shape hwritable hresult hsample hfinite elapsed)
  · intro message
    exact readsBack (e := refuse d message) hwritable

/-- Loans by category, one of them without a category, a sample whose column is there twice, and a
refusal: with breakdowns and nested cells, all of it is read back. -/
theorem Envelope.readsBack_answer_breakdowns :
    let d : Descriptor := { entity := "loans", aggregations := [.byCategory] }
    let result : RowSet := ⟨["loan_type", "total_count"], [[.null, .int 2], [.text "auto", .int 1]]⟩
    let sample : RowSet := ⟨["id", "note", "id"],
      [[.int 1, .object [("tags", .list [.null, .text "\""])], .bool true]]⟩
    (shape d result sample ⟨0, 4000000⟩).ReadsBack ∧ (refuse d "no such table: loans").ReadsBack := by
  intro d result sample
  have hd : ∃ s, Descriptor.parse s = .ok d :=
    ⟨"\x7b\"entity\": \"loans\", \"aggregations\": [\"by_category\"]\x7d",
      Json.eq_ok_of_toOption (by decide +kernel)⟩
  have hone : (Json.int 1).Storable := Json.storable_int (by decide) (by decide)
  have htwo : (Json.int 2).Storable := Json.storable_int (by decide) (by decide)
  have hnote : (Json.object [("tags", .list [.null, .text "\""])]).Storable :=
    Json.storable_object (by decide) (by
      simp [Json.storable_list, Json.storable_null, Json.storable_text])
  have hresult : result.Storable :=
    ⟨by decide, by simp [result, hone, htwo, Json.storable_null, Json.storable_text]⟩
  have hsample : sample.Storable :=
    ⟨by decide, by simp [sample, hone, hnote, Json.storable_bool]⟩
  have hstats : summaryStats result d = [("total_loans", Decimal.ofInt 2), ("total_value", 0)] := by
    decide +kernel
  have hfinite : ∀ f ∈ summaryStats result d, Decimal.isFinite f.2 = true := by
    rw [hstats]
    decide +kernel
  obtain ⟨hreport, hrefusal⟩ := readsBack_answer d hd
  exact ⟨hreport result sample _ hresult hsample hfinite, hrefusal _⟩

end LedgerQuery
