import LedgerQuery.Proofs.Decimal.Overflow
import LedgerQuery.Proofs.Envelope.RoundTrip

/-!
# Figures that are not finite

A number of a result is finite, and so is the zero that stands for a missing total. The number that
the text of a cell spells need not be: the text may name infinity or NaN, or be a decimal out of
range. JSON has no number for the figure of such a cell. It is written `null`, and `null` is not
read where a figure is wanted: to a reader the answer is then neither a report nor a failure.

* `forall_summaryStats`: what holds of all figures.
* `exists_lookup_summaryStats`: no figure of the first row is lost.
* `finite_summaryStats_iff`: the cells that make figures that are not finite.
* `Report.ofDraft_stored_ne_ok`: a report with a figure that is not finite is not read.
* `summaryStats_finite_iff`: whether what is answered is read back, by the cells of the first row.
-/

namespace LedgerQuery

open Json (Draft)

namespace Stats

/-! ### Figures under their names -/

theorem Ordered.lookup_of_mem {s : Stats} (h : s.Ordered) {f : String × Float} (hf : f ∈ s) :
    s.lookup f.1 = some f.2 := by
  induction s with
  | nil => exact absurd hf List.not_mem_nil
  | cons g s ih =>
    obtain ⟨hg, hs⟩ := List.pairwise_cons.mp h
    rw [lookup_cons]
    rcases List.mem_cons.mp hf with rfl | hf
    · exact if_pos rfl
    · rw [if_neg (ne_of_gt (hg f hf)), ih hs hf]

theorem mem_of_lookup {s : Stats} {n : String} {v : Float} (h : s.lookup n = some v) :
    (n, v) ∈ s := by
  obtain ⟨before, behind, rfl, -⟩ := List.lookup_eq_some_iff.mp h
  simp

/-! ### What holds of all figures -/

section Forall

variable {P : Float → Prop} {s : Stats}

theorem forall_put (hs : ∀ f ∈ s, P f.2) (name : String) {v : Float} (hv : P v) :
    ∀ f ∈ s.put name v, P f.2 := by
  intro f hf
  rcases mem_put hf with rfl | hf
  · exact hv
  · exact hs f hf

theorem forall_move (hs : ∀ f ∈ s, P f.2) (old new : String) : ∀ f ∈ s.move old new, P f.2 := by
  rw [move]
  split
  · exact hs
  · next v hv =>
    refine forall_put ?_ new (hs _ (mem_of_lookup hv))
    exact fun f hf => hs f (List.mem_of_mem_filter hf)

theorem forall_ofList {fs : List (String × Float)} (h : ∀ f ∈ fs, P f.2) :
    ∀ f ∈ ofList fs, P f.2 := by
  induction fs using List.reverseRecOn with
  | nil => exact fun f hf => absurd hf List.not_mem_nil
  | append_singleton fs f ih =>
    rw [ofList, List.foldl_append]
    refine forall_put (ih ?_) f.1 (h f (by simp))
    exact fun g hg => h g (List.mem_append_left _ hg)

/-- Under the names of an entity there is no figure but those that were there and zero. -/
theorem forall_apply (hs : ∀ f ∈ s, P f.2) (hzero : P 0) (names : FigureNames) :
    ∀ f ∈ names.apply s, P f.2 := by
  have hcount := forall_move hs "total_count" names.count
  have htotal : ∀ counted, ∀ f ∈ names.applyTotal counted (s.move "total_count" names.count),
      P f.2 := by
    intro counted
    rw [FigureNames.applyTotal]
    split
    · exact hcount
    · split
      · exact forall_put hcount _ hzero
      · exact forall_move hcount _ _
  rw [FigureNames.apply_eq, FigureNames.applyAverage]
  split
  · exact htotal _
  · exact forall_move (htotal _) _ _

end Forall

end Stats

/-- What holds of zero and of the figures of the first row holds of all figures of a result. -/
theorem forall_summaryStats {P : Float → Prop} (hzero : P 0) {r : RowSet}
    (h : ∀ m ∈ metricColumns, ∀ v, r.firstFigure? m = some v → P v) (d : Descriptor) :
    ∀ f ∈ summaryStats r d, P f.2 := by
  have hcolumns : ∀ f ∈ metricFigures r, P f.2 := by
    rw [metricFigures]
    refine Stats.forall_ofList ?_
    intro f hf
    obtain ⟨m, hm, hfigure⟩ := List.mem_filterMap.mp hf
    obtain ⟨v, hv, rfl⟩ := Option.map_eq_some_iff.mp hfigure
    exact h m hm v hv
  rw [summaryStats]
  split
  · exact hcolumns
  · exact Stats.forall_apply hcolumns hzero _

/-- Each figure of the first row is there under some name, whatever the entity. -/
theorem exists_lookup_summaryStats {r : RowSet} {m : String} (hm : m ∈ metricColumns) {v : Float}
    (hv : r.firstFigure? m = some v) (d : Descriptor) :
    ∃ n, (summaryStats r d).lookup n = some v := by
  have hcolumn : (metricFigures r).lookup m = some v := by
    rw [lookup_metricFigures, if_pos hm, hv]
  rw [summaryStats]
  split
  · exact ⟨m, hcolumn⟩
  · next names h =>
    refine ⟨_, FigureNames.lookup_apply_ofColumn (Table.fresh_figureNames h) ?_ hm hcolumn⟩
    intro n hn
    rw [lookup_metricFigures, if_neg hn]

/-! ### Finite figures -/

/-- All figures are finite. -/
def Stats.Finite (s : Stats) : Prop :=
  ∀ f ∈ s, Decimal.isFinite f.2 = true

theorem RowSet.Storable.firstCell? {r : RowSet} (h : r.Storable) {m : String} {cell : Json}
    (hcell : r.firstCell? m = some cell) : cell.Storable := by
  obtain ⟨row, hrow, hcell⟩ := Option.bind_eq_some_iff.mp hcell
  obtain ⟨i, -, hcell⟩ := Option.bind_eq_some_iff.mp hcell
  exact h.cells row (List.mem_of_mem_head? hrow) cell (List.mem_of_getElem? hcell)

/-- Of the cells that can be held, only texts make figures that are not finite. -/
theorem isFinite_figure {cell : Json} (h : cell.Storable) {v : Float} (hv : figure? cell = some v) :
    Decimal.isFinite v = true ∨ ∃ s, cell = .text s ∧ Decimal.parse? (Text.trim s) = some v := by
  cases cell with
  | int n =>
    obtain rfl := Option.some.inj hv
    obtain ⟨hleast, hgreatest⟩ := h.writable
    rw [Json.minSigned] at hleast
    rw [Json.maxUnsigned] at hgreatest
    have hbits : n.natAbs < 2 ^ 64 := by omega
    exact .inl (Decimal.isFinite_ofInt (by norm_num) hbits)
  | float x =>
    obtain rfl := Option.some.inj hv
    exact .inl h.writable
  | text s => exact .inr ⟨s, rfl, hv⟩
  | _ => exact absurd hv (by simp [figure?])

/-- The figures are finite unless a cell of the first row, under the name of a metric, is the text
of a number that is not. -/
theorem finite_summaryStats_iff {r : RowSet} (hr : r.Storable) (d : Descriptor) :
    (summaryStats r d).Finite ↔ ∀ m ∈ metricColumns, ∀ s, r.firstCell? m = some (.text s) →
      ¬ Decimal.Unbounded (Text.trim s) := by
  constructor
  · intro hfinite m hm s hcell hunbounded
    obtain ⟨v, hv, hinfinite⟩ := (Decimal.parse?_unbounded_iff _).mpr hunbounded
    have hfigure : r.firstFigure? m = some v := by
      rw [RowSet.firstFigure?, hcell, Option.bind_some, figure?, hv]
    obtain ⟨n, hn⟩ := exists_lookup_summaryStats hm hfigure d
    have hvfinite : Decimal.isFinite v = true := hfinite _ (Stats.mem_of_lookup hn)
    rw [hinfinite] at hvfinite
    exact Bool.false_ne_true hvfinite
  · intro hcells
    refine forall_summaryStats (P := fun v => Decimal.isFinite v = true) (by decide +kernel) ?_ d
    intro m hm v hv
    obtain ⟨cell, hcell, hv⟩ := Option.bind_eq_some_iff.mp hv
    rcases isFinite_figure (hr.firstCell? hcell) hv with hfinite | ⟨s, rfl, hread⟩
    · exact hfinite
    · by_contra hinfinite
      refine hcells m hm s hcell ((Decimal.parse?_unbounded_iff _).mp ⟨v, hread, ?_⟩)
      exact Bool.eq_false_iff.mpr hinfinite

/-! ### Figures in JSON -/

theorem Stats.stored_toJson (s : Stats) :
    s.toJson.stored = .object (s.map fun f => (f.1, (Json.float f.2).stored)) := by
  rw [toJson, Json.stored, Json.storedMembers_eq_map, List.map_map]
  rfl

/-- A figure that is not finite is written `null`, and no other figure is. -/
theorem Stats.finite_iff_no_null {s : Stats} (h : s.Ordered) :
    s.Finite ↔ ∀ name, s.toJson.stored.get? name ≠ some .null := by
  have hmember : ∀ name, s.toJson.stored.get? name =
      (s.lookup name).map fun x => (Json.float x).stored := by
    intro name
    rw [stored_toJson, Json.get?]
    clear h
    induction s with
    | nil => rfl
    | cons f s ih =>
      rw [lookup_cons, List.map_cons, List.lookup_cons]
      by_cases hn : name = f.1
      · simp [hn]
      · simpa [hn, beq_false_of_ne hn] using ih
  constructor
  · intro hfinite name hnull
    rw [hmember] at hnull
    obtain ⟨x, hx, hstored⟩ := Option.map_eq_some_iff.mp hnull
    rw [Json.stored, if_pos (hfinite _ (mem_of_lookup hx))] at hstored
    exact Json.noConfusion hstored
  · intro hnull f hf
    by_contra hinfinite
    refine hnull f.1 ?_
    rw [hmember, h.lookup_of_mem hf, Option.map_some, Json.stored, if_neg hinfinite]

/-! ### Reports with such figures -/

/-- A figure that is not finite is `null`, and `null` is not read as a figure. -/
theorem Stats.dictionary_stored_ne_ok {s : Stats} (h : ¬ s.Finite) (s' : Stats) :
    s.toJson.stored.toDraft.dictionary (·.float) ≠ .ok s' := by
  intro hread
  obtain ⟨f, hf, hinfinite⟩ : ∃ f ∈ s, ¬ Decimal.isFinite f.2 = true := by
    simpa [Finite] using h
  have hnull : (some f.1, Draft.null) ∈
      Json.toMemberDrafts (s.map fun f => (f.1, (Json.float f.2).stored)) := by
    rw [Json.toMemberDrafts_eq_map, List.map_map]
    refine List.mem_map.mpr ⟨f, hf, ?_⟩
    rw [Function.comp_apply, Json.stored, if_neg hinfinite]
    rfl
  rw [stored_toJson, Json.toDraft, Draft.dictionary] at hread
  obtain ⟨x, hx⟩ := Draft.exists_read_of_eachMember hread hnull
  exact absurd hx (by simp [Draft.float])

namespace Report

theorem toDraft_stored (r : Report) : r.toJson.stored.toDraft = .object [
    (some "query_executed", r.query.toJson.stored.toDraft),
    (some "row_count", .number (.whole r.rowCount)), (some "execution_time", .text (some r.elapsed)),
    (some "data", r.dataJson.stored.toDraft)] none := rfl

section NotFinite

variable {r : Report} (h : ¬ r.stats.Finite) (room : Nat)
include h

theorem readDataField_stats_ne_ok (before after : DataParts) :
    readDataField room before "summary_stats" r.stats.toJson.stored.toDraft ≠ .ok after := by
  intro hread
  obtain ⟨s, hs, -⟩ := Json.exists_of_map_eq_ok hread
  exact Stats.dictionary_stored_ne_ok h s hs

theorem readField_data_ne_ok (before after : Parts) :
    readField room before "data" r.dataJson.stored.toDraft ≠ .ok after := by
  intro hread
  obtain ⟨members, hdraft, hstats⟩ : ∃ members, r.dataJson.stored.toDraft = .object members none ∧
      (some "summary_stats", r.stats.toJson.stored.toDraft) ∈ members := ⟨_, rfl, List.mem_cons_self⟩
  obtain ⟨data, hdata, -⟩ := Json.exists_of_bind_eq_ok hread
  rw [hdraft] at hdata
  obtain ⟨before, after, hstep⟩ := Draft.exists_step_of_eachField hdata hstats (by decide)
  exact readDataField_stats_ne_ok h room before after hstep

/-- A report with a figure that is not finite is not read. -/
theorem ofDraft_stored_ne_ok (r' : Report) : ofDraft room r.toJson.stored.toDraft ≠ .ok r' := by
  intro hread
  obtain ⟨parts, hparts, -⟩ := Json.exists_of_bind_eq_ok hread
  rw [toDraft_stored] at hparts
  obtain ⟨before, after, hstep⟩ := Draft.exists_step_of_eachField hparts
    (List.mem_of_getElem? (i := 3) rfl) (by decide)
  exact readField_data_ne_ok h room before after hstep

end NotFinite

end Report

namespace Failure

/-- The message is read from no other field. -/
theorem error_of_readField {room : Nat} {p p' : Parts} {name : String} {d : Draft}
    (hname : name ≠ "error") (h : readField room p name d = .ok p') : p'.error = p.error := by
  rw [readField] at h
  by_cases hquery : name = "query_executed"
  · rw [if_pos hquery] at h
    obtain ⟨v, -, rfl⟩ := Json.exists_of_map_eq_ok h
    rfl
  · rw [if_neg hquery, if_neg hname] at h
    obtain ⟨v, -, rfl⟩ := Json.exists_of_map_eq_ok h
    rfl

/-- A report is read as no failure, since it has no message. -/
theorem ofDraft_report_ne_ok (room : Nat) (r : Report) (f : Failure) :
    ofDraft room r.toJson.stored.toDraft ≠ .ok f := by
  intro hread
  obtain ⟨parts, hparts, hread⟩ := Json.exists_of_bind_eq_ok hread
  rw [Report.toDraft_stored] at hparts
  -- the names of a report's fields are known, and none of them is that of the message
  have herror : parts.error = none := by
    refine Draft.eachField_invariant (P := fun p : Parts => p.error = none) ?_ rfl hparts
    intro before name d after hm hbefore hstep
    have hname : name ∈ ["query_executed", "row_count", "execution_time", "data"] := by
      simp only [List.mem_cons, Prod.mk.injEq, Option.some.injEq, List.not_mem_nil, or_false] at hm ⊢
      tauto
    have hne : name ≠ "error" := ne_of_mem_of_not_mem hname (by decide)
    rw [error_of_readField hne hstep, hbefore]
  obtain ⟨data, -, hread⟩ := Json.exists_of_bind_eq_ok hread
  obtain ⟨query, -, hread⟩ := Json.exists_of_bind_eq_ok hread
  obtain ⟨message, hmessage, -⟩ := Json.exists_of_bind_eq_ok hread
  rw [herror] at hmessage
  exact absurd hmessage (by simp [Draft.required])

end Failure

/-! ### Envelopes with such figures -/

theorem Stats.writable_stored (s : Stats) : s.toJson.stored.Writable := by
  refine Json.writable_stored_object ?_
  intro m hm
  obtain ⟨f, -, rfl⟩ := List.mem_map.mp hm
  exact Json.writable_stored_float f.2

section Writable

variable {r : Report} (h : ({ r with stats := [] } : Report).Writable)
include h

theorem Report.writable_stored_dataJson : r.dataJson.stored.Writable := by
  have hrecords : ∀ {rs : List Record}, AllStorable rs → (RowSet.recordsJson rs).stored.Writable :=
    fun hrs => Json.writable_stored (storable_recordsJson hrs).writable
  rw [dataJson_eq]
  refine Json.writable_stored_object ?_
  intro m hm
  obtain ⟨p, hp, hpart⟩ := List.mem_filterMap.mp hm
  obtain ⟨j, hj, rfl⟩ := Option.map_eq_some_iff.mp hpart
  simp only [dataParts, List.mem_cons, List.not_mem_nil, or_false] at hp
  rcases hp with rfl | rfl | rfl | rfl
  · obtain rfl := Option.some.inj hj
    exact r.stats.writable_stored
  · obtain rfl := Option.some.inj hj
    exact hrecords h.samples
  · obtain rfl := Option.some.inj hj
    trivial
  · obtain ⟨rs, hrs, rfl⟩ := Option.map_eq_some_iff.mp hj
    exact hrecords (h.breakdowns rs hrs)

/-- A report whose other parts can be written is held as JSON that can be, whatever its figures. -/
theorem Report.writable_stored : r.toJson.stored.Writable := by
  refine Json.writable_stored_object ?_
  intro m hm
  simp only [List.mem_cons, List.not_mem_nil, or_false] at hm
  rcases hm with rfl | rfl | rfl | rfl
  · exact Json.writable_stored (Descriptor.storable_toJson h.query).writable
  · exact Json.writable_stored (Json.storable_count h.rowCount).writable
  · trivial
  · exact writable_stored_dataJson h

end Writable

namespace Envelope

/-- The envelope is read back neither from its JSON as it is held, however deep that may be nested,
nor from its text. -/
def Unreadable (e : Envelope) : Prop :=
  (∀ room e', ofDraft room e.toJson.stored.toDraft ≠ .ok e') ∧ ∀ e', parse e.toJson.render ≠ .ok e'

theorem ofDraft_stored_ne_ok {r : Report} (h : ¬ r.stats.Finite) (room : Nat) (e' : Envelope) :
    ofDraft room (report r).toJson.stored.toDraft ≠ .ok e' := by
  intro hread
  rw [ofDraft] at hread
  split at hread
  · exact absurd hread (by simp)
  split at hread
  · next r' hreport => exact Report.ofDraft_stored_ne_ok h room r' hreport
  split at hread
  · next f hfailure => exact Failure.ofDraft_report_ne_ok room r f hfailure
  · exact absurd hread (by simp)

theorem unreadable_report {r : Report} (hr : ({ r with stats := [] } : Report).Writable)
    (h : ¬ r.stats.Finite) : (report r).Unreadable := by
  refine ⟨ofDraft_stored_ne_ok h, ?_⟩
  intro e' hread
  have hwritable : (report r).toJson.stored.Writable := Report.writable_stored hr
  have hdraft := Json.Document.read_of_finish hread
  rw [← Json.render_stored, Json.document_render hwritable] at hdraft
  exact ofDraft_stored_ne_ok h _ e' hdraft

end Envelope

/-! ### Answers -/

/-- The figures of a result whose cells can be held are finite exactly if no cell of the first row
under the name of a metric is the text of a number that is not, and exactly then none of them is
`null` in JSON. What is answered to a descriptor that can be written is read back if they are
finite, and by nobody if they are not. -/
theorem summaryStats_finite_iff (d : Descriptor) {result sample : RowSet}
    (hresult : result.Storable) (hsample : sample.Storable) (elapsed : Elapsed) :
    let stats := summaryStats result d
    (stats.Finite ↔ ∀ m ∈ metricColumns, ∀ s, result.firstCell? m = some (.text s) →
      ¬ Decimal.Unbounded (Text.trim s)) ∧
    (stats.Finite ↔ ∀ name, stats.toJson.stored.get? name ≠ some .null) ∧
    (d.Writable → (stats.Finite → (shape d result sample elapsed).ReadsBack) ∧
      (¬ stats.Finite → (shape d result sample elapsed).Unreadable)) := by
  intro stats
  refine ⟨finite_summaryStats_iff hresult d, ?_, ?_⟩
  · exact Stats.finite_iff_no_null (ordered_summaryStats result d)
  intro hd
  constructor
  · intro hfinite
    exact Envelope.readsBack (writable_shape hd hresult hsample hfinite elapsed)
  · intro hinfinite
    refine Envelope.unreadable_report ?_ hinfinite
    exact writable_withStats hd hresult hsample List.Pairwise.nil
      (fun f hf => absurd hf List.not_mem_nil) _ _

/-- Loans with a total that is infinite by name and loans with one that is a number, both given as
texts: the first answer is not read back, the second is. -/
theorem summaryStats_finite_iff_named :
    let d : Descriptor := { entity := "loans" }
    let infinite : RowSet := ⟨["total_count", "TOTAL_AMOUNT"], [[.int 2, .text " -Infinity"]]⟩
    let number : RowSet := ⟨["total_count", "TOTAL_AMOUNT"], [[.int 2, .text " -7.5"]]⟩
    ¬ (summaryStats infinite d).Finite ∧
      (∃ name, (summaryStats infinite d).toJson.stored.get? name = some .null) ∧
      (shape d infinite ⟨[], []⟩ ⟨0, 4000000⟩).Unreadable ∧
      (summaryStats number d).Finite ∧ (shape d number ⟨[], []⟩ ⟨0, 4000000⟩).ReadsBack := by
  intro d infinite number
  have hd : d.Writable := by
    refine Descriptor.writable_of_parse (s := "\x7b\"entity\": \"loans\"\x7d") ?_
    exact Json.eq_ok_of_toOption (by decide +kernel)
  have htwo : (Json.int 2).Storable := Json.storable_int (by decide) (by decide)
  have hinfinite : infinite.Storable :=
    ⟨by decide, by simp [infinite, htwo, Json.storable_text]⟩
  have hnumber : number.Storable :=
    ⟨by decide, by simp [number, htwo, Json.storable_text]⟩
  have hsample : RowSet.Storable ⟨[], []⟩ := ⟨by decide, by simp⟩
  have hname : Decimal.Unbounded (Text.trim " -Infinity") := .inl (by decide +kernel)
  have hstats : (summaryStats number d).Finite := by
    have heq : (summaryStats number d).all (fun f => Decimal.isFinite f.2) = true := by
      decide +kernel
    exact fun f hf => List.all_eq_true.mp heq f hf
  obtain ⟨hcells, hnull, hanswer⟩ := summaryStats_finite_iff d hinfinite hsample ⟨0, 4000000⟩
  have hnot : ¬ (summaryStats infinite d).Finite := by
    intro hfinite
    exact hcells.mp hfinite "total_amount" (by decide) " -Infinity" rfl hname
  have hexists : ∃ name, (summaryStats infinite d).toJson.stored.get? name = some .null := by
    by_contra hnone
    exact hnot (hnull.mpr fun name hname => hnone ⟨name, hname⟩)
  obtain ⟨-, -, hback⟩ := summaryStats_finite_iff d hnumber hsample ⟨0, 4000000⟩
  exact ⟨hnot, hexists, (hanswer hd).2 hnot, hstats, (hback hd).1 hstats⟩

/-- From a total that is given as `nan` loans have a figure that is not finite. It is `null` in JSON,
and what is answered with it is not read back. -/
theorem summaryStats_of_nan :
    let d : Descriptor := { entity := "loans" }
    let result : RowSet := ⟨["total_amount"], [[.text "nan"]]⟩
    (∃ x, summaryStats result d = [("total_value", x)] ∧ Decimal.isFinite x = false) ∧
      (summaryStats result d).toJson.stored.get? "total_value" = some .null ∧
      ∀ room e, Envelope.ofDraft room (shape d result ⟨[], []⟩ ⟨0, 0⟩).toJson.stored.toDraft ≠
        .ok e := by
  intro d result
  have hstats : summaryStats result d =
      [("total_value", Decimal.signed false (Decimal.infinityBits + Nat.pow 2 51))] := by
    decide +kernel
  have hnan := Decimal.isFinite_signed_nan false
  refine ⟨⟨_, hstats, hnan⟩, ?_, ?_⟩
  · rw [hstats, Stats.stored_toJson, List.map_cons, Json.stored, hnan]
    rfl
  · refine Envelope.ofDraft_stored_ne_ok ?_
    intro hfinite
    have htotal := hfinite _ (hstats ▸ List.mem_singleton_self _)
    rw [hnan] at htotal
    exact Bool.false_ne_true htotal

end LedgerQuery
