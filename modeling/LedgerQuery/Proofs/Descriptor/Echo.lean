import LedgerQuery.Descriptor.Basic
import LedgerQuery.Proofs.Json.Records

/-!
# Descriptors are echoed

A descriptor that was read, or that was built from names, scalars and periods, is written as a text
that reads back as the same descriptor: the same filters in the same order with the same kinds of
scalars, the same metrics or none at all, and every part of the period.

* `Descriptor.Writable`: what reading and building have in common.
* `Descriptor.parse_render`: such a descriptor is read back.
* `Descriptor.writable_of_parse`, `Descriptor.Built.writable`: reading and building give nothing else.
* `Descriptor.parse_echo`: whatever is read or built is echoed.
-/

namespace LedgerQuery

open Json (Draft Source)
open Json.Draft (written readPart)

/-! ### Scalars -/

/-- The whole number of the scalar has 64 bits with a sign, and its float is finite. -/
def Scalar.Writable : Scalar → Prop
  | .int n => Json.minSigned ≤ n ∧ n ≤ Json.maxSigned
  | .float x => Decimal.isFinite x = true
  | _ => True

theorem Scalar.Writable.inRange {s : Scalar} (h : s.Writable) : s.InRange := by
  cases s with
  | int n => exact h
  | _ => trivial

theorem Scalar.Writable.toJson {s : Scalar} (h : s.Writable) : s.toJson.Writable := by
  cases s with
  | int n => exact ⟨h.1, h.2.trans (by decide)⟩
  | float x => exact h
  | _ => trivial

/-- A whole number beyond the signed range is read as a float, which is finite. -/
theorem Scalar.writable_of_ofJson? {j : Json} (hj : j.Writable) {s : Scalar}
    (h : ofJson? j = some s) : s.Writable := by
  cases j with
  | int n =>
    rw [ofJson?] at h
    split at h
    · next hn =>
      obtain rfl := Option.some.inj h
      exact hn
    · obtain rfl := Option.some.inj h
      obtain ⟨hleast, hgreatest⟩ := hj
      have hbits : n.natAbs < 2 ^ 65 := by
        rw [Json.minSigned] at hleast
        rw [Json.maxUnsigned] at hgreatest
        omega
      exact Decimal.isFinite_ofInt (by decide) hbits
  | float x =>
    obtain rfl := Option.some.inj h
    exact hj
  | bool _ | text _ =>
    obtain rfl := Option.some.inj h
    trivial
  | null | list _ | object _ => exact absurd h (by simp [ofJson?])

/-- The value of a draft that is read as a scalar. -/
theorem Scalar.exists_value_of_ofDraft {room : Nat} {d : Draft} {v : Scalar}
    (h : Scalar.ofDraft room d = .ok v) :
    ∃ j, d.value room = .ok j ∧ Scalar.ofJson? j = some v := by
  rw [Scalar.ofDraft] at h
  split at h
  · cases h
  · next j hj =>
    refine ⟨j, hj, ?_⟩
    cases hs : Scalar.ofJson? j with
    | none => simp [hs, Draft.required] at h
    | some w => simpa [hs, Draft.required] using h

/-- Whatever is read as a scalar can be written. -/
theorem Scalar.writable_of_ofDraft {room : Nat} {d : Draft} {s : Scalar} (hd : d.InRange)
    (h : Scalar.ofDraft room d = .ok s) : s.Writable := by
  obtain ⟨j, hj, hs⟩ := Scalar.exists_value_of_ofDraft h
  exact Scalar.writable_of_ofJson? (Json.writable_value hd hj) hs

/-- A scalar that may be missing is read back. -/
theorem Scalar.option_toDraft (room : Nat) {s : Scalar} (h : s.Writable) :
    s.toJson.toDraft.option (Scalar.ofDraft room) = .ok (some s) := by
  have hread := Scalar.ofDraft_toDraft room h.inRange
  have hoption : s.toJson.toDraft.option (Scalar.ofDraft room) =
      (Scalar.ofDraft room s.toJson.toDraft).map some := by
    cases s <;> rfl
  rw [hoption, hread]
  rfl

/-! ### Periods -/

namespace Period

/-- The scalars of a period. -/
def scalars (p : Period) : List Scalar :=
  p.quarter.toList ++ p.year.toList ++ p.start.toList ++ p.finish.toList

/-- Every scalar of the period can be written. -/
def Writable (p : Period) : Prop :=
  ∀ s ∈ p.scalars, s.Writable

theorem writable_iff {p : Period} : p.Writable ↔ (∀ s ∈ p.quarter, s.Writable) ∧
    (∀ s ∈ p.year, s.Writable) ∧ (∀ s ∈ p.start, s.Writable) ∧ ∀ s ∈ p.finish, s.Writable := by
  simp [Writable, scalars, or_imp, forall_and]

/-- The parts of a period, in the order in which they are written. -/
def parts (p : Period) : List (String × Option Json) :=
  [("label", p.label.map .text), ("quarter", p.quarter.map Scalar.toJson),
    ("year", p.year.map Scalar.toJson), ("start", p.start.map Scalar.toJson),
    ("end", p.finish.map Scalar.toJson)]

theorem memberOf_append {α : Type} (key : String) (f : α → Json) (o : Option α)
    (parts : List (String × Option Json)) :
    memberOf key f o ++ written parts = written ((key, o.map f) :: parts) := by
  cases o <;> rfl

theorem toJson_eq (p : Period) : p.toJson = .object (written p.parts) := by
  have hlast : memberOf "end" Scalar.toJson p.finish =
    memberOf "end" Scalar.toJson p.finish ++ written [] := (List.append_nil _).symm
  rw [toJson, hlast]
  simp only [List.append_assoc, memberOf_append]
  rfl

/-- A scalar that may be missing is read into the field of its own, which is empty before. -/
theorem readPart_scalar (room : Nat) {state : Period} (key : String) (set : Option Scalar → Period)
    {o : Option Scalar} (ho : ∀ s ∈ o, s.Writable)
    (hstep : ∀ d, readField room state key d = (d.option (Scalar.ofDraft room)).map set)
    (hnone : set none = state) :
    readPart (readField room) state (key, o.map Scalar.toJson) = .ok (set o) := by
  cases o with
  | none => exact congrArg Except.ok hnone.symm
  | some s =>
    rw [Option.map_some, readPart]
    dsimp only
    rw [hstep, Scalar.option_toDraft room (ho s rfl)]
    rfl

/-- A period is read back. -/
theorem ofDraft_toDraft (source : Source) (room : Nat) {p : Period} (h : p.Writable) :
    ofDraft source room p.toJson.toDraft = .ok p := by
  obtain ⟨hquarter, hyear, hstart, hfinish⟩ := writable_iff.mp h
  obtain ⟨label, quarter, year, start, finish⟩ := p
  -- each part is read into its own field, which is still empty then
  have hlabel : readPart (readField (room - 1)) {} ("label", label.map .text) =
      .ok ({ label } : Period) := by
    cases label <;> rfl
  have hquarter := readPart_scalar (room - 1) "quarter" (fun v => { label, quarter := v })
    hquarter (fun _ => rfl) rfl
  have hyear := readPart_scalar (room - 1) "year" (fun v => { label, quarter, year := v })
    hyear (fun _ => rfl) rfl
  have hstart := readPart_scalar (room - 1) "start"
    (fun v => { label, quarter, year, start := v }) hstart (fun _ => rfl) rfl
  have hfinish := readPart_scalar (room - 1) "end"
    (fun v => { label, quarter, year, start, finish := v }) hfinish (fun _ => rfl) rfl
  rw [ofDraft, toJson_eq, Draft.record_written source rfl (by decide)]
  simp only [parts, List.foldlM_cons, List.foldlM_nil, hlabel, hquarter, hyear, hstart, hfinish,
    bind, Except.bind]
  rfl

theorem writable_toJson {p : Period} (h : p.Writable) : p.toJson.Writable := by
  obtain ⟨hquarter, hyear, hstart, hfinish⟩ := writable_iff.mp h
  have hscalar : ∀ {o : Option Scalar}, (∀ s ∈ o, s.Writable) → ∀ j ∈ o.map Scalar.toJson,
      j.Writable := by
    intro o ho j hj
    obtain ⟨s, hs, rfl⟩ := Option.map_eq_some_iff.mp hj
    exact (ho s hs).toJson
  rw [toJson_eq]
  refine Draft.writable_written fun part hpart => ?_
  simp only [parts, List.mem_cons, List.not_mem_nil, or_false] at hpart
  rcases hpart with rfl | rfl | rfl | rfl | rfl
  · intro j hj
    obtain ⟨s, -, rfl⟩ := Option.map_eq_some_iff.mp hj
    trivial
  · exact hscalar hquarter
  · exact hscalar hyear
  · exact hscalar hstart
  · exact hscalar hfinish

/-- Whatever is read as a period can be written. -/
theorem writable_of_ofDraft {source : Source} {room : Nat} {d : Draft} {p : Period} (hd : d.InRange)
    (h : ofDraft source room d = .ok p) : p.Writable := by
  have hread : ∀ {d : Draft} {o : Option Scalar}, d.InRange →
      d.option (Scalar.ofDraft (room - 1)) = .ok o → ∀ s ∈ o, s.Writable :=
    fun hd h => Draft.option_invariant Scalar.writable_of_ofDraft hd h
  have hempty : ({} : Period).Writable := fun s hs => absurd hs List.not_mem_nil
  -- every field keeps the scalars of the others and puts in one that was read
  refine Draft.record_invariant (P := Writable) (fun {state name d state'} hd hstate h => ?_) hd
    hempty h
  obtain ⟨hquarter, hyear, hstart, hfinish⟩ := writable_iff.mp hstate
  rw [readField] at h
  rw [writable_iff]
  split at h
  · obtain ⟨label, -, rfl⟩ := Json.exists_of_map_eq_ok h
    exact ⟨hquarter, hyear, hstart, hfinish⟩
  split at h
  · obtain ⟨quarter, hv, rfl⟩ := Json.exists_of_map_eq_ok h
    exact ⟨hread hd hv, hyear, hstart, hfinish⟩
  split at h
  · obtain ⟨year, hv, rfl⟩ := Json.exists_of_map_eq_ok h
    exact ⟨hquarter, hread hd hv, hstart, hfinish⟩
  split at h
  · obtain ⟨start, hv, rfl⟩ := Json.exists_of_map_eq_ok h
    exact ⟨hquarter, hyear, hread hd hv, hfinish⟩
  · obtain ⟨finish, hv, rfl⟩ := Json.exists_of_map_eq_ok h
    exact ⟨hquarter, hyear, hstart, hread hd hv⟩

end Period

/-! ### Descriptors -/

namespace Descriptor

/-- What reading and building have in common: no column has two filters, scalars can be written, and
metrics and aggregations are those of their names. -/
structure Writable (d : Descriptor) : Prop where
  columns : (d.filters.map Prod.fst).Nodup
  filters : ∀ f ∈ d.filters, f.2.Writable
  metrics : ∀ ms ∈ d.metrics, ∀ m ∈ ms, Metric.ofName m.name = m
  aggregations : ∀ a ∈ d.aggregations, Aggregation.ofName a.name = a
  period : ∀ p ∈ d.period, p.Writable

/-- A list, or nothing if it has no items. -/
def nonEmpty {α : Type} : List α → Option (List α)
  | [] => none
  | l => some l

/-- The parts of a descriptor, in the order in which they are written. -/
def parts (d : Descriptor) : List (String × Option Json) :=
  [("entity", some (.text d.entity)),
    ("filters", (nonEmpty d.filters).map fun fs => .object (fs.map fun f => (f.1, f.2.toJson))),
    ("metrics", d.metrics.map fun ms => .list (ms.map fun m => .text m.name)),
    ("aggregations", (nonEmpty d.aggregations).map fun as => .list (as.map fun a => .text a.name)),
    ("time_period", d.period.map Period.toJson)]

theorem listMember_append {α : Type} (key : String) (f : List α → Json) (l : List α)
    (parts : List (String × Option Json)) :
    listMember key f l ++ written parts = written ((key, (nonEmpty l).map f) :: parts) := by
  cases l <;> rfl

theorem toJson_eq (d : Descriptor) : d.toJson = .object (written d.parts) := by
  have hlast : Period.memberOf "time_period" Period.toJson d.period =
    Period.memberOf "time_period" Period.toJson d.period ++ written [] := (List.append_nil _).symm
  rw [toJson, hlast]
  simp only [List.append_assoc, Period.memberOf_append, listMember_append]
  rfl

theorem writable_names {α : Type} (name : α → String) (as : List α) :
    (Json.list (as.map fun a => .text (name a))).Writable := by
  refine Json.writable_list fun j hj => ?_
  obtain ⟨a, -, rfl⟩ := List.mem_map.mp hj
  trivial

theorem mem_of_mem_nonEmpty {α : Type} {l k : List α} (h : k ∈ nonEmpty l) : k = l := by
  cases l with
  | nil => exact absurd h (Option.not_mem_none k)
  | cons a r => exact (Option.mem_some.mp h).symm

theorem writable_toJson {d : Descriptor} (h : d.Writable) : d.toJson.Writable := by
  rw [toJson_eq]
  refine Draft.writable_written fun part hpart => ?_
  simp only [parts, List.mem_cons, List.not_mem_nil, or_false] at hpart
  rcases hpart with rfl | rfl | rfl | rfl | rfl <;> intro j hj <;> dsimp only at hj
  · obtain rfl := Option.mem_some.mp hj
    trivial
  · obtain ⟨fs, hfs, rfl⟩ := Option.map_eq_some_iff.mp hj
    obtain rfl := mem_of_mem_nonEmpty hfs
    refine Json.writable_object fun m hm => ?_
    obtain ⟨f, hf, rfl⟩ := List.mem_map.mp hm
    exact (h.filters f hf).toJson
  · obtain ⟨ms, -, rfl⟩ := Option.map_eq_some_iff.mp hj
    exact writable_names Metric.name ms
  · obtain ⟨as, -, rfl⟩ := Option.map_eq_some_iff.mp hj
    exact writable_names Aggregation.name as
  · obtain ⟨p, hp, rfl⟩ := Option.map_eq_some_iff.mp hj
    exact Period.writable_toJson (h.period p hp)

/-- Names are read back. -/
theorem elements_names {α : Type} (name : α → String) (as : List α) :
    (Json.list (as.map fun a => .text (name a))).toDraft.elements (·.string) =
      .ok (as.map name) :=
  Draft.elements_toDraft fun _ _ => rfl

/-- What is built of names that were read is what they were written from. -/
theorem map_ofName {α : Type} {name : α → String} {ofName : String → α} {as : List α}
    (h : ∀ a ∈ as, ofName (name a) = a) : (as.map name).map ofName = as := by
  rw [List.map_map]
  exact (List.map_congr_left h).trans (List.map_id' as)

section Parts

variable (source : Source) (room : Nat) {q : Descriptor}

theorem readPart_filters (hq : q.filters = []) {filters : List (String × Scalar)}
    (hcolumns : (filters.map Prod.fst).Nodup) (h : ∀ f ∈ filters, f.2.Writable) :
    readPart (readField source room) q ("filters",
      (nonEmpty filters).map fun fs => .object (fs.map fun f => (f.1, f.2.toJson))) =
        .ok { q with filters } := by
  cases filters with
  | nil =>
    cases q
    cases hq
    rfl
  | cons f fs =>
    have hscalar : ∀ m ∈ f :: fs, Scalar.ofDraft (room - 1) m.2.toJson.toDraft = .ok m.2 :=
      fun m hm => Scalar.ofDraft_toDraft (room - 1) (h m hm).inRange
    have hread := Draft.dictionary_toDraft hscalar hcolumns
    exact congrArg (Except.map _) hread

theorem readPart_metrics (hq : q.metrics = none) {metrics : Option (List Metric)}
    (h : ∀ ms ∈ metrics, ∀ m ∈ ms, Metric.ofName m.name = m) :
    readPart (readField source room) q ("metrics",
      metrics.map fun ms => .list (ms.map fun m => .text m.name)) = .ok { q with metrics } := by
  cases metrics with
  | none =>
    cases q
    cases hq
    rfl
  | some ms =>
    have hread := congrArg (Except.map some) (elements_names Metric.name ms)
    refine (congrArg (Except.map _) hread).trans ?_
    simp only [Except.map, Option.map_some, map_ofName (h ms rfl)]

theorem readPart_aggregations (hq : q.aggregations = []) {aggregations : List Aggregation}
    (h : ∀ a ∈ aggregations, Aggregation.ofName a.name = a) :
    readPart (readField source room) q ("aggregations",
      (nonEmpty aggregations).map fun as => .list (as.map fun a => .text a.name)) =
        .ok { q with aggregations } := by
  cases aggregations with
  | nil =>
    cases q
    cases hq
    rfl
  | cons a as =>
    refine (congrArg (Except.map _) (elements_names Aggregation.name (a :: as))).trans ?_
    simp only [Except.map, map_ofName h]

theorem readPart_period (hq : q.period = none) {period : Option Period}
    (h : ∀ p ∈ period, p.Writable) :
    readPart (readField source room) q ("time_period", period.map Period.toJson) =
      .ok { q with period } := by
  cases period with
  | none =>
    cases q
    cases hq
    rfl
  | some p =>
    have hread := Period.ofDraft_toDraft source room (h p rfl)
    exact congrArg (Except.map _) (congrArg (Except.map some) hread)

end Parts

/-- A descriptor is read back. -/
theorem ofDraft_toDraft (source : Source) (room : Nat) {d : Descriptor} (h : d.Writable) :
    ofDraft source room d.toJson.toDraft = .ok d := by
  obtain ⟨hcolumns, hfilters, hmetrics, haggregations, hperiod⟩ := h
  obtain ⟨entity, filters, metrics, aggregations, period⟩ := d
  have hentity : readPart (readField source (room - 1)) {} ("entity", some (.text entity)) =
      .ok ({ entity } : Descriptor) := rfl
  rw [ofDraft, toJson_eq, Draft.record_written source rfl (by decide)]
  simp only [parts, List.foldlM_cons, List.foldlM_nil, bind, Except.bind, hentity,
    readPart_filters source (room - 1) (q := { entity }) rfl hcolumns hfilters,
    readPart_metrics source (room - 1) (q := { entity, filters }) rfl hmetrics,
    readPart_aggregations source (room - 1) (q := { entity, filters, metrics }) rfl haggregations,
    readPart_period source (room - 1) (q := { entity, filters, metrics, aggregations }) rfl hperiod]
  rfl

/-- The text of a descriptor is read as the descriptor. -/
theorem parse_render {d : Descriptor} (h : d.Writable) : parse d.toJson.render = .ok d := by
  rw [parse, Json.document_render (writable_toJson h), Json.Document.finish]
  dsimp only
  rw [ofDraft_toDraft .stream Json.maxDepth h]
  rfl

/-- A descriptor that asks for nothing but its entity. -/
theorem writable_new (entity : String) : ({ entity } : Descriptor).Writable := by
  refine ⟨List.nodup_nil, fun f hf => absurd hf List.not_mem_nil, fun ms hms => ?_,
    fun a ha => absurd ha List.not_mem_nil, fun p hp => ?_⟩
  · exact absurd hms (Option.not_mem_none ms)
  · exact absurd hp (Option.not_mem_none p)

/-- Whatever a text is read as can be written. -/
theorem writable_of_parse {s : String} {d : Descriptor} (h : parse s = .ok d) : d.Writable := by
  have hread := Json.Document.read_of_finish h
  refine Draft.record_invariant (P := Writable) (fun {state name d state'} hd hstate h => ?_)
    (Json.inRange_document s) (writable_new "") hread
  obtain ⟨hcolumns, hfilters, hmetrics, haggregations, hperiod⟩ := hstate
  -- every field keeps what holds of the others; filters and the period are read from numbers in
  -- range, and metrics and aggregations from their names
  rw [readField] at h
  split at h
  · obtain ⟨entity, -, rfl⟩ := Json.exists_of_map_eq_ok h
    exact ⟨hcolumns, hfilters, hmetrics, haggregations, hperiod⟩
  split at h
  · obtain ⟨filters, hv, rfl⟩ := Json.exists_of_map_eq_ok h
    obtain ⟨hcolumns, hfilters⟩ := Draft.dictionary_invariant (P := Scalar.Writable)
      Scalar.writable_of_ofDraft hd hv
    exact ⟨hcolumns, hfilters, hmetrics, haggregations, hperiod⟩
  split at h
  · obtain ⟨names, -, rfl⟩ := Json.exists_of_map_eq_ok h
    refine ⟨hcolumns, hfilters, fun ms hms m hm => ?_, haggregations, hperiod⟩
    obtain ⟨l, -, rfl⟩ := Option.map_eq_some_iff.mp hms
    obtain ⟨name, -, rfl⟩ := List.mem_map.mp hm
    rw [Metric.name_ofName]
  split at h
  · obtain ⟨names, -, rfl⟩ := Json.exists_of_map_eq_ok h
    refine ⟨hcolumns, hfilters, hmetrics, fun a ha => ?_, hperiod⟩
    obtain ⟨name, -, rfl⟩ := List.mem_map.mp ha
    rw [Aggregation.name_ofName]
  · obtain ⟨period, hv, rfl⟩ := Json.exists_of_map_eq_ok h
    refine ⟨hcolumns, hfilters, hmetrics, haggregations, ?_⟩
    exact Draft.option_invariant Period.writable_of_ofDraft hd hv

/-! ### Building -/

/-- The descriptor is built of names, of scalars that can be written and of periods of such. -/
inductive Built : Descriptor → Prop
  | new (entity : String) : Built { entity }
  | filter {d : Descriptor} (hd : Built d) (column : String) {value : Scalar}
      (hvalue : value.Writable) : Built (d.withFilter column value)
  | metric {d : Descriptor} (hd : Built d) (name : String) : Built (d.withMetric (.ofName name))
  | aggregation {d : Descriptor} (hd : Built d) (name : String) :
      Built (d.withAggregation (.ofName name))
  | period {d : Descriptor} (hd : Built d) {p : Period} (hp : p.Writable) : Built (d.withPeriod p)

/-- Whatever is built can be written. -/
theorem Built.writable {d : Descriptor} (h : Built d) : d.Writable := by
  induction h with
  | new entity => exact writable_new entity
  | filter _ column hvalue ih =>
    refine { ih with columns := Json.nodup_insert column _ ih.columns, filters := fun f hf => ?_ }
    rcases Json.mem_insert hf with rfl | hf
    · exact hvalue
    · exact ih.filters f hf
  | @metric d _ name ih =>
    have hold : ∀ m ∈ d.metrics.getD [], Metric.ofName m.name = m := by
      cases hmetrics : d.metrics with
      | none => exact fun m hm => absurd hm List.not_mem_nil
      | some ms => exact ih.metrics ms hmetrics
    refine { ih with metrics := fun ms hms m hm => ?_ }
    obtain rfl := Option.mem_some.mp hms
    rcases List.mem_append.mp hm with hm | hm
    · exact hold m hm
    · obtain rfl := List.mem_singleton.mp hm
      rw [Metric.name_ofName]
  | aggregation _ name ih =>
    refine { ih with aggregations := fun a ha => ?_ }
    rcases List.mem_append.mp ha with ha | ha
    · exact ih.aggregations a ha
    · obtain rfl := List.mem_singleton.mp ha
      rw [Aggregation.name_ofName]
  | period _ hp ih =>
    refine { ih with period := fun p' hp' => ?_ }
    obtain rfl := Option.mem_some.mp hp'
    exact hp

/-- A descriptor that was read or built is echoed: its text is read as the same descriptor. -/
theorem parse_echo (d : Descriptor) (h : (∃ s, parse s = .ok d) ∨ Built d) :
    parse d.toJson.render = .ok d := by
  obtain ⟨s, hs⟩ | hbuilt := h
  · exact parse_render (writable_of_parse hs)
  · exact parse_render hbuilt.writable

/-- A whole number of 64 bits without a sign is read as a float and stays one, an empty list of
metrics stays one, and a name that means nothing is kept. -/
theorem parse_echo_unsigned :
    let read : Descriptor :=
      { entity := "deposits"
        filters := [("amount", .float (Decimal.ofInt 18446744073709551615)), ("branch_id", .int 4)]
        metrics := some []
        aggregations := [.other "by_region"] }
    let built : Descriptor := ((({ entity := "loans" } : Descriptor).withFilter "rate"
      (.float (Decimal.ofInt 1))).withMetric (.ofName "p95")).withPeriod
        (.ofQuarter (.text "Q3") (.int 2024))
    parse read.toJson.render = .ok read ∧ parse built.toJson.render = .ok built := by
  refine ⟨parse_echo _ (.inl ⟨"[\"deposits\", \x7b\"amount\": 18446744073709551615, " ++
    "\"branch_id\": 4\x7d, [], [\"by_region\"], null]", ?_⟩), parse_echo _ (.inr ?_)⟩
  · exact Json.eq_ok_of_toOption (by decide +kernel)
  · have hrate : (Scalar.float (Decimal.ofInt 1)).Writable :=
      Decimal.isFinite_ofInt (k := 1) (by decide) (by decide)
    refine .period (.metric (.filter (.new "loans") "rate" hrate) "p95") fun s hs => ?_
    rcases List.mem_cons.mp hs with rfl | hs
    · trivial
    · obtain rfl := List.mem_singleton.mp hs
      exact ⟨by decide, by decide⟩

end Descriptor

end LedgerQuery
