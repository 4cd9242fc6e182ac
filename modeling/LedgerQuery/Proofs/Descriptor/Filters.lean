import LedgerQuery.Proofs.Descriptor.Spelling
import LedgerQuery.Proofs.Json.Repeated

/-!
# Filters given one after another

Filters may be put on a descriptor one after another, or stand as members of an object in its text.
Either way a column may be given more than once, and either way the same filters are left: those of
the distinct columns in the order in which they were first given, with the values given last.

* `Descriptor.withFilters`: a descriptor with filters put on it one after another.
* `Descriptor.textWith`: the text of a descriptor whose filters are given as texts.
* `Descriptor.parse_textWith`: the text is read as the descriptor with its filters put on it.
-/

namespace LedgerQuery

open Json (Draft Source ReadsAs MemberReadsAs objectChars collect)
open Json.Draft (written readPart)

/-- A known member that was not there before is read, and then those behind it. -/
theorem Json.Draft.eachField_known {σ : Type} {fields : List Json.Field}
    {step : σ → String → Draft → Except Json.Fault σ} {ending : Option Json.Break} {key : String}
    {d : Draft} {members : List (Option String × Draft)} {seen : List String} {state after : σ}
    (hknown : fields.any (·.name == key) = true) (hnew : key ∉ seen)
    (hstep : step state key d = .ok after) :
    eachField fields step ending ((some key, d) :: members) seen state =
      eachField fields step ending members (key :: seen) after := by
  rw [eachField]
  dsimp only
  rw [if_pos hknown, if_neg hnew, hstep]

namespace Descriptor

/-- The descriptor with the filters put on it one after another. -/
def withFilters (d : Descriptor) (given : List (String × Scalar)) : Descriptor :=
  given.foldl (fun d f => d.withFilter f.1 f.2) d

theorem withFilters_eq {d : Descriptor} (h : d.filters = []) (given : List (String × Scalar)) :
    d.withFilters given = { d with filters := collect given } := by
  have hfold : ∀ (d : Descriptor), d.withFilters given =
      { d with filters := given.foldl (fun ms m => Json.insert m.1 m.2 ms) d.filters } := by
    induction given with
    | nil => exact fun d => rfl
    | cons f given ih => exact fun d => ih (d.withFilter f.1 f.2)
  rw [hfold, h]
  rfl

/-- The parts of a descriptor behind its filters, in the order in which they are written. -/
def otherParts (d : Descriptor) : List (String × Option Json) :=
  d.parts.drop 2

/-- The members of a descriptor, with the given texts of values for its filters. -/
def textMembers (d : Descriptor) (filters : List (String × List Char)) :
    List (String × List Char) :=
  ("entity", Json.chars (.text d.entity)) :: ("filters", objectChars filters) ::
    (written d.otherParts).map fun m => (m.1, Json.chars m.2)

/-- The text of a descriptor, with the given texts of values for its filters. -/
def textWith (d : Descriptor) (filters : List (String × List Char)) : String :=
  String.ofList (objectChars (d.textMembers filters))

/-- With the compact texts of its filters, if it has any, this is the compact text of the
descriptor. -/
theorem textWith_chars {d : Descriptor} (h : d.filters ≠ []) :
    d.textWith (d.filters.map fun f => (f.1, Json.chars f.2.toJson)) = d.toJson.render := by
  have hfilters : nonEmpty d.filters = some d.filters := by
    cases hd : d.filters with
    | nil => exact absurd hd h
    | cons f fs => rfl
  have hobject : objectChars (d.filters.map fun f => (f.1, Json.chars f.2.toJson)) =
      Json.chars (.object (d.filters.map fun f => (f.1, f.2.toJson))) := by
    rw [← Json.objectChars_chars, List.map_map]
    rfl
  have hparts : written d.parts = ("entity", .text d.entity) ::
      ("filters", .object (d.filters.map fun f => (f.1, f.2.toJson))) :: written d.otherParts := by
    rw [parts, hfilters]
    rfl
  have hmembers := Json.objectChars_chars (written d.parts)
  rw [hparts, List.map_cons, List.map_cons] at hmembers
  rw [textWith, textMembers, hobject, toJson_eq, hparts, Json.render]
  exact congrArg String.ofList hmembers

theorem membersWritable_otherParts {d : Descriptor} (h : d.Writable) :
    Json.MembersWritable (written d.otherParts) := by
  have hall := writable_toJson h
  rw [toJson_eq, Json.Writable] at hall
  -- the entity is always written in front of them, the filters only if there are any
  cases hfilters : d.filters with
  | nil =>
    have hparts : written d.parts = ("entity", .text d.entity) :: written d.otherParts := by
      simp only [parts, otherParts, hfilters]
      rfl
    rw [hparts] at hall
    exact hall.2
  | cons f fs =>
    have hparts : ∃ m n, written d.parts = m :: n :: written d.otherParts := by
      simp only [parts, otherParts, hfilters]
      exact ⟨_, _, rfl⟩
    obtain ⟨m, n, hparts⟩ := hparts
    rw [hparts] at hall
    exact hall.2.2

theorem foldlM_otherParts {q d : Descriptor} (h : d.Writable) (hmetrics : q.metrics = none)
    (haggregations : q.aggregations = []) (hperiod : q.period = none) (room : Nat) :
    d.otherParts.foldlM (readPart (readField .stream room)) q =
      .ok { d with entity := q.entity, filters := q.filters } := by
  obtain ⟨entity, filters, metrics, aggregations, period⟩ := q
  obtain rfl : metrics = none := hmetrics
  obtain rfl : aggregations = [] := haggregations
  obtain rfl : period = none := hperiod
  have hmetrics := readPart_metrics .stream room (q := { entity, filters }) rfl h.metrics
  have haggregations := readPart_aggregations .stream room
    (q := { entity, filters, metrics := d.metrics }) rfl h.aggregations
  have hperiod := readPart_period .stream room
    (q := { entity, filters, metrics := d.metrics, aggregations := d.aggregations }) rfl h.period
  simp only [otherParts, parts, List.drop_succ_cons, List.drop_zero, List.foldlM_cons,
    List.foldlM_nil, hmetrics, haggregations, hperiod, bind, Except.bind]
  rfl

/-- The filters are read as what is left of them, and the other parts as they were written. -/
theorem ofDraft_members {d : Descriptor} (hd : d.Writable) {room : Nat}
    {ds : List (Option String × Draft)} {given : List (String × Scalar)}
    (h : List.Forall₂ (fun d m => d.1 = some m.1 ∧ Scalar.ofDraft (room - 1 - 1) d.2 = .ok m.2)
      ds given) :
    ofDraft .stream room (.object ((some "entity", .text (some d.entity)) ::
        (some "filters", .object ds none) :: Json.toMemberDrafts (written d.otherParts)) none) =
      .ok { d with filters := collect given } := by
  have hentity : readField .stream (room - 1) {} "entity" (.text (some d.entity)) =
      .ok { entity := d.entity } := rfl
  have hfilters : readField .stream (room - 1) { entity := d.entity } "filters" (.object ds none) =
      .ok { entity := d.entity, filters := collect given } :=
    congrArg (Except.map _) (Draft.dictionary_collect h)
  have hnames : d.otherParts.map Prod.fst = ["metrics", "aggregations", "time_period"] := rfl
  have hfields : ∀ name ∈ ["metrics", "aggregations", "time_period"],
      fields.any (·.name == name) = true ∧ name ∉ ["filters", "entity"] := by decide
  have hothers : ∀ p ∈ d.otherParts, fields.any (·.name == p.1) = true ∧
      p.1 ∉ ["filters", "entity"] :=
    fun p hp => hfields p.1 (hnames ▸ List.mem_map_of_mem hp)
  have hkeys : (d.otherParts.map Prod.fst).Nodup := by
    rw [hnames]
    decide
  rw [ofDraft, Draft.record, Draft.eachField_known (by decide) (by decide) hentity,
    Draft.eachField_known (by decide) (by decide) hfilters,
    Draft.eachField_written (fun p hp => (hothers p hp).1) hkeys fun p hp => (hothers p hp).2]
  exact foldlM_otherParts hd rfl rfl rfl (room - 1)

/-- The text is read as the descriptor with the filters put on it one after another, whichever way
their values are spelled. -/
theorem parse_textWith {d : Descriptor} (hd : d.Writable) (hempty : d.filters = [])
    {texts : List (String × List Char)} {given : List (String × Scalar)}
    (h : List.Forall₂ (fun t f => t.1 = f.1 ∧ Scalar.Spelling t.2 f.2) texts given) :
    parse (d.textWith texts) = .ok (d.withFilters given) := by
  -- each value is read by itself, so the filters are read as an object of them all
  obtain ⟨ds, hreads, hvalues⟩ : ∃ ds, List.Forall₂ MemberReadsAs texts ds ∧
      ∀ room, List.Forall₂ (fun d m => d.1 = some m.1 ∧ Scalar.ofDraft room d.2 = .ok m.2)
        ds given := by
    induction h with
    | nil => exact ⟨[], .nil, fun _ => .nil⟩
    | @cons t f texts given ht _ ih =>
      obtain ⟨ds, hreads, hvalues⟩ := ih
      obtain ⟨e, he, hvalue⟩ := ht.2.readsAs
      exact ⟨(some t.1, e) :: ds, .cons ⟨rfl, he⟩ hreads,
        fun room => .cons ⟨congrArg some ht.1, hvalue room⟩ (hvalues room)⟩
  have hentity : ReadsAs (Json.chars (.text d.entity)) (.text (some d.entity)) :=
    Json.readsAs_chars (j := .text d.entity) trivial
  have hothers := Json.forall₂_memberReadsAs (membersWritable_otherParts hd)
  have hobject : ReadsAs (objectChars (d.textMembers texts)) (.object
      ((some "entity", .text (some d.entity)) :: (some "filters", .object ds none) ::
        Json.toMemberDrafts (written d.otherParts)) none) :=
    .object (.cons ⟨rfl, hentity⟩ (.cons ⟨rfl, .object hreads⟩ hothers))
  rw [parse, textWith, hobject.document, Json.Document.finish]
  dsimp only
  rw [ofDraft_members hd (hvalues _), withFilters_eq hempty]
  rfl

/-- A single filter, in whatever way its value is spelled. -/
theorem parse_textWith_single {d : Descriptor} (hd : d.Writable) (hempty : d.filters = [])
    {column : String} {text : List Char} {v : Scalar} (h : Scalar.Spelling text v) :
    parse (d.textWith [(column, text)]) = .ok (d.withFilter column v) := by
  have hspelled : List.Forall₂ (fun t f => t.1 = f.1 ∧ Scalar.Spelling t.2 f.2)
      [(column, text)] [(column, v)] := .cons ⟨rfl, h⟩ .nil
  exact parse_textWith hd hempty hspelled

/-- The compact text with the filters as they were given, repeated columns included, is read as the
descriptor with the filters put on it one after another. -/
theorem parse_render_given {d : Descriptor} (hd : d.Writable) (hempty : d.filters = [])
    {given : List (String × Scalar)} (h : ∀ f ∈ given, f.2.Writable) :
    parse ({ d with filters := given } : Descriptor).toJson.render = .ok (d.withFilters given) := by
  cases given with
  | nil =>
    obtain ⟨entity, filters, metrics, aggregations, period⟩ := d
    obtain rfl : filters = [] := hempty
    exact parse_render hd
  | cons f fs =>
    have hspelled : List.Forall₂ (fun t f => t.1 = f.1 ∧ Scalar.Spelling t.2 f.2)
        ((f :: fs).map fun f => (f.1, Json.chars f.2.toJson)) (f :: fs) := by
      rw [List.forall₂_map_left_iff, List.forall₂_same]
      exact fun g hg => ⟨rfl, Scalar.spelling_chars (h g hg)⟩
    rw [← textWith_chars (List.cons_ne_nil f fs)]
    exact parse_textWith hd hempty hspelled

end Descriptor

end LedgerQuery
