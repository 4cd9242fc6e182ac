import Mathlib.Data.List.Nodup
import LedgerQuery.Driver.Process

/-!
# Conversations with a driver

Requests are sent to a driver one after another, and all of them read from the one stream of lines
that the driver writes. Each request reads up to its own response and no further; what it passes
over is lost to later requests, and what it leaves waits for them.

* `awaitResponse_inserted`: lines without the identifier of a request make no difference to it.
* `Process.exists_exchanges`: the lines of a conversation fall into those that each request has
  read.
* `Process.converse_replaying`: what every request reads and returns, whatever the driver writes.
-/

namespace LedgerQuery.Driver

/-! ### Lines and identifiers -/

/-- The line holds a response with the identifier. -/
def carries (id s : String) : Bool :=
  match Response.parse s with
  | .ok r => decide (r.id = id)
  | .error _ => false

theorem carries_iff {id s : String} :
    carries id s = true ↔ ∃ r, Response.parse s = .ok r ∧ r.id = id := by
  unfold carries
  cases Response.parse s <;> simp

/-- A line carries one identifier at most. -/
theorem carries_unique {id id' s : String} (h : carries id s = true) (h' : carries id' s = true) :
    id = id' := by
  obtain ⟨r, hr, rfl⟩ := carries_iff.mp h
  obtain ⟨r', hr', rfl⟩ := carries_iff.mp h'
  rw [hr, Except.ok.injEq] at hr'
  rw [hr']

theorem awaitResponse_answer {id s : String} {r : Response} (hr : Response.parse s = .ok r)
    (hid : r.id = id) (rest : List Line) : awaitResponse id (.text s :: rest) = (.ok r, rest) := by
  rw [awaitResponse, hr]
  exact if_pos hid

theorem awaitResponse_skip {id s : String} (h : carries id s = false) (rest : List Line) :
    awaitResponse id (.text s :: rest) = awaitResponse id rest := by
  rw [awaitResponse]
  cases hr : Response.parse s with
  | error f => rfl
  | ok r =>
    have hid : r.id ≠ id := by simpa [carries, hr] using h
    exact if_neg hid

theorem awaitResponse_skips {id : String} {skipped : List String}
    (h : ∀ s ∈ skipped, carries id s = false) (rest : List Line) :
    awaitResponse id (skipped.map .text ++ rest) = awaitResponse id rest := by
  induction skipped with
  | nil => rfl
  | cons s skipped ih =>
    rw [List.map_cons, List.cons_append, awaitResponse_skip (h s (by simp))]
    exact ih fun t ht => h t (by simp [ht])

/-- Either no line carries the identifier, or there is a first one that does. -/
theorem first_carrying (id : String) (lines : List String) :
    (∀ s ∈ lines, carries id s = false) ∨
      ∃ skipped s later, lines = skipped ++ s :: later ∧
        (∀ x ∈ skipped, carries id x = false) ∧ carries id s = true := by
  induction lines with
  | nil => exact .inl (by simp)
  | cons s lines ih =>
    cases hs : carries id s with
    | true => exact .inr ⟨[], s, lines, rfl, by simp, hs⟩
    | false =>
      rcases ih with h | ⟨skipped, t, later, rfl, hskip, ht⟩
      · exact .inl (by simpa [hs] using h)
      · exact .inr ⟨s :: skipped, t, later, rfl, by simpa [hs] using hskip, ht⟩

/-- A driver that has answered has not ended. -/
theorem outcome_ne_exited (r : Response) : r.outcome ≠ .error .exited := by
  unfold Response.outcome
  split
  · simp
  · split
    · unfold Error.ofReport
      repeat' split
      all_goals simp
    · simp [Error.unexplained]

/-! ### Lines put in between -/

/-- The second list is the first one with further lines put in anywhere. -/
inductive Inserted (extra : String → Prop) : List String → List String → Prop where
  | nil : Inserted extra [] []
  | keep (s : String) {lines more : List String} :
    Inserted extra lines more → Inserted extra (s :: lines) (s :: more)
  | insert {s : String} {lines more : List String} :
    extra s → Inserted extra lines more → Inserted extra lines (s :: more)

/-- Lines without the identifier of a request change neither its response nor, further lines
apart, what is left behind it. -/
theorem awaitResponse_inserted {id : String} {extra : String → Prop} {lines more : List String}
    (h : Inserted extra lines more) (hx : ∀ s, extra s → carries id s = false) :
    ∃ left left', Inserted extra left left' ∧
      awaitResponse id (more.map .text) =
        ((awaitResponse id (lines.map .text)).1, left'.map .text) ∧
      (awaitResponse id (lines.map .text)).2 = left.map .text := by
  induction h with
  | nil => exact ⟨[], [], .nil, rfl, rfl⟩
  | @keep s lines more h ih =>
    cases hs : carries id s with
    | true =>
      -- both readings end here, with the rest of the lines still one in the other
      obtain ⟨r, hr, hid⟩ := carries_iff.mp hs
      refine ⟨lines, more, h, ?_, ?_⟩
      · rw [List.map_cons, List.map_cons, awaitResponse_answer hr hid, awaitResponse_answer hr hid]
      · rw [List.map_cons, awaitResponse_answer hr hid]
    | false =>
      rw [List.map_cons, List.map_cons, awaitResponse_skip hs, awaitResponse_skip hs]
      exact ih
  | insert he _ ih =>
    rw [List.map_cons, awaitResponse_skip (hx _ he)]
    exact ih

/-! ### Exchanges -/

/-- What a request has read, and what it has returned. -/
structure Exchange where
  id : String
  read : List String
  result : Except Error Json

/-- The request has read up to its own response and returned what that says; or there was none,
and it has read all lines and found that the driver has ended. -/
def Exchange.Stops (e : Exchange) (later : List String) : Prop :=
  (∃ skipped s r, e.read = skipped ++ [s] ∧ (∀ x ∈ skipped, carries e.id x = false) ∧
    Response.parse s = .ok r ∧ r.id = e.id ∧ e.result = r.outcome) ∨
  ((∀ x ∈ e.read, carries e.id x = false) ∧ later = [] ∧ e.result = .error .exited)

/-- Requests find that the driver has ended exactly if no line that is left to them is their own. -/
theorem Exchange.Stops.exited_iff {e : Exchange} {later : List String} (h : e.Stops later) :
    e.result = .error .exited ↔ ∀ s ∈ e.read ++ later, carries e.id s = false := by
  rcases h with ⟨skipped, s, r, hread, _, hr, hid, hres⟩ | ⟨hread, rfl, hres⟩
  · constructor
    · intro he
      exact absurd (hres.symm.trans he) (outcome_ne_exited r)
    · intro hall
      have hs := hall s (by simp [hread])
      rw [carries_iff.mpr ⟨r, hr, hid⟩] at hs
      exact absurd hs (by simp)
  · simpa [hres] using hread

namespace Process

/-- A driver that listens and writes nothing on its own, but has written lines that are unread. -/
structure Replays (p : Process) (lines : List String) : Prop where
  listening : p.isListening = true
  silent : ∀ requests, p.program.react p.run requests = {}
  unread : p.unread = lines.map .text

/-- A driver whose lines are given. -/
def replaying (lines : List String) : Process where
  program := ⟨fun _ _ => {}⟩
  run := 0
  unread := lines.map .text

theorem replays_replaying (lines : List String) : (replaying lines).Replays lines :=
  ⟨rfl, fun _ => rfl, rfl⟩

/-- Sends requests one after another, each under its identifier. -/
def converse (p : Process) : List (String × Request) → List (Except Error Json) × Process
  | [] => ([], p)
  | (id, r) :: calls =>
    let (result, q) := p.requestAs id r
    let (results, q) := q.converse calls
    (result :: results, q)

theorem converse_cons (p : Process) (id : String) (r : Request) (calls : List (String × Request)) :
    p.converse ((id, r) :: calls) =
      ((p.requestAs id r).1 :: ((p.requestAs id r).2.converse calls).1,
        ((p.requestAs id r).2.converse calls).2) := rfl

variable {p : Process} {lines : List String}

theorem Replays.requestAs (h : p.Replays lines) (id : String) (r : Request) :
    (p.requestAs id r).1 = (awaitResponse id (lines.map .text)).1.bind Response.outcome ∧
      ∀ left, (awaitResponse id (lines.map .text)).2 = left.map .text →
        (p.requestAs id r).2.Replays left := by
  have hsend : p.send (r.line id) =
      some { p with received := p.received ++ [r.line id], unread := lines.map .text } := by
    rw [send, if_pos h.listening]
    simp [h.silent, h.unread, h.listening]
  rw [Process.requestAs, hsend]
  exact ⟨rfl, fun left hl => ⟨h.listening, h.silent, hl⟩⟩

/-- One request: what it reads, and what it leaves. -/
theorem Replays.exists_exchange (h : p.Replays lines) (id : String) (r : Request) :
    ∃ (e : Exchange) (later : List String), e.id = id ∧ e.result = (p.requestAs id r).1 ∧
      lines = e.read ++ later ∧ (p.requestAs id r).2.Replays later ∧ e.Stops later := by
  obtain ⟨hres, hleft⟩ := h.requestAs id r
  rcases first_carrying id lines with hno | ⟨skipped, s, later, rfl, hskip, hs⟩
  · have ha : awaitResponse id (lines.map .text) = (.error .exited, []) := by
      have := awaitResponse_skips hno []
      rwa [List.append_nil] at this
    rw [ha] at hres hleft
    exact ⟨⟨id, lines, .error .exited⟩, [], rfl, hres.symm, by simp, hleft [] rfl,
      .inr ⟨hno, rfl, rfl⟩⟩
  · obtain ⟨a, ha, hid⟩ := carries_iff.mp hs
    have hw : awaitResponse id ((skipped ++ s :: later).map .text) = (.ok a, later.map .text) := by
      rw [List.map_append, awaitResponse_skips hskip, List.map_cons, awaitResponse_answer ha hid]
    rw [hw] at hres hleft
    exact ⟨⟨id, skipped ++ [s], a.outcome⟩, later, rfl, hres.symm, by simp, hleft later rfl,
      .inl ⟨skipped, s, a, rfl, hskip, ha, hid, rfl⟩⟩

/-- The lines of a conversation fall into those that each request has read, in order, and those that
nobody has read. -/
theorem Replays.exists_exchanges (h : p.Replays lines) (calls : List (String × Request)) :
    ∃ (exchanges : List Exchange) (rest : List String),
      exchanges.map (·.id) = calls.map Prod.fst ∧
      exchanges.map (·.result) = (p.converse calls).1 ∧
      lines = exchanges.flatMap (·.read) ++ rest ∧
      (p.converse calls).2.Replays rest ∧
      ∀ before e after, exchanges = before ++ e :: after →
        e.Stops (after.flatMap (·.read) ++ rest) := by
  -- what one request leaves is the stream of the next ones
  induction calls generalizing p lines with
  | nil => exact ⟨[], lines, rfl, rfl, rfl, h, by simp⟩
  | cons call calls ih =>
    obtain ⟨id, r⟩ := call
    obtain ⟨e, later, hid, hres, hlines, hq, hstops⟩ := h.exists_exchange id r
    obtain ⟨exchanges, rest, hids, hresults, hlater, hrest, hall⟩ := ih hq
    refine ⟨e :: exchanges, rest, ?_, ?_, ?_, hrest, ?_⟩
    · rw [List.map_cons, List.map_cons, hid, hids]
    · rw [List.map_cons, hres, hresults, converse_cons]
    · rw [hlines, hlater, List.flatMap_cons, List.append_assoc]
    · intro before f after hsplit
      cases before with
      | nil =>
        obtain ⟨rfl, rfl⟩ := List.cons.inj hsplit
        rwa [← hlater]
      | cons b before =>
        exact hall before f after (List.cons.inj hsplit).2

/-- Lines that belong to none of the requests change no result. -/
theorem Replays.converse_inserted {q : Process} {more : List String} {extra : String → Prop}
    (hp : p.Replays lines) (hq : q.Replays more) (h : Inserted extra lines more)
    (calls : List (String × Request))
    (hx : ∀ s, extra s → ∀ id ∈ calls.map Prod.fst, carries id s = false) :
    (q.converse calls).1 = (p.converse calls).1 := by
  induction calls generalizing p q lines more with
  | nil => rfl
  | cons call calls ih =>
    obtain ⟨id, r⟩ := call
    have hown : ∀ s, extra s → carries id s = false := fun s hs => hx s hs id (by simp)
    obtain ⟨left, left', hleft, hm, hl⟩ := awaitResponse_inserted h hown
    obtain ⟨hpres, hpleft⟩ := hp.requestAs id r
    obtain ⟨hqres, hqleft⟩ := hq.requestAs id r
    rw [hm] at hqres hqleft
    have hrest := ih (hpleft left hl) (hqleft left' rfl) hleft
      fun s hs id hid => hx s hs id (by simp [hid])
    have hhead : (q.requestAs id r).1 = (p.requestAs id r).1 := by rw [hqres, hpres]
    rw [converse_cons, converse_cons, hhead, hrest]

/-- Requests under different identifiers share the lines of a driver, whatever these are. The
lines fall into those that each request has read, in order, and those that are left. A request
reads up to the first line that is its own and returns what this says; it finds that the driver
has ended exactly if no line left to it is its own; and the line that it stops at is no other
request's. Lines put in anywhere that belong to none of the requests change no result, and neither
do answers to earlier requests that come late. -/
theorem converse_replaying (lines : List String) (calls : List (String × Request))
    (hids : (calls.map Prod.fst).Nodup) :
    (∃ (exchanges : List Exchange) (rest : List String),
      exchanges.map (·.id) = calls.map Prod.fst ∧
      exchanges.map (·.result) = ((replaying lines).converse calls).1 ∧
      lines = exchanges.flatMap (·.read) ++ rest ∧
      ((replaying lines).converse calls).2.unread = rest.map .text ∧
      ∀ before e after, exchanges = before ++ e :: after →
        e.Stops (after.flatMap (·.read) ++ rest) ∧
        (e.result = .error .exited ↔
          ∀ s ∈ e.read ++ (after.flatMap (·.read) ++ rest), carries e.id s = false) ∧
        ∀ other ∈ before ++ after, ∀ s ∈ e.read, carries e.id s → carries other.id s = false) ∧
    (∀ more, Inserted (fun s => ∀ id ∈ calls.map Prod.fst, carries id s = false) lines more →
      ((replaying more).converse calls).1 = ((replaying lines).converse calls).1) ∧
    ∀ earlier later, calls = earlier ++ later → ∀ left more,
      Inserted (fun s => ∃ id ∈ earlier.map Prod.fst, carries id s) left more →
        ((replaying more).converse later).1 = ((replaying left).converse later).1 := by
  refine ⟨?_, fun more h => ?_, fun earlier later hcalls left more h => ?_⟩
  · obtain ⟨exchanges, rest, he, hresults, hlines, hrest, hall⟩ :=
      (replays_replaying lines).exists_exchanges calls
    refine ⟨exchanges, rest, he, hresults, hlines, hrest.unread, fun before e after hsplit => ?_⟩
    have hstops := hall before e after hsplit
    refine ⟨hstops, hstops.exited_iff, fun other hother s _ hs => ?_⟩
    -- a line of both would make two of the identifiers one
    have hne : other.id ≠ e.id := by
      rw [← he, hsplit, List.map_append, List.map_cons, List.nodup_middle, ← List.map_append]
        at hids
      intro ho
      exact (List.nodup_cons.mp hids).1 (List.mem_map.mpr ⟨other, hother, ho⟩)
    cases ho : carries other.id s with
    | false => rfl
    | true => exact absurd (carries_unique ho hs) hne
  · exact (replays_replaying lines).converse_inserted (replays_replaying more) h calls
      fun s hs id hid => hs id hid
  · refine (replays_replaying left).converse_inserted (replays_replaying more) h later ?_
    rintro s ⟨id, hid, hs⟩ id' hid'
    have hne : id ≠ id' := by
      rw [hcalls, List.map_append, List.nodup_append] at hids
      exact hids.2.2 id hid id' hid'
    cases hs' : carries id' s with
    | false => rfl
    | true => exact absurd (carries_unique hs hs') hne

/-- An answer to nobody and a line that is no answer change nothing for two requests. -/
theorem converse_replaying_two :
    let r := Request.closeConnection "s"
    let answer (id : String) := "\x7b\"id\":\"" ++ id ++ "\",\"success\":true\x7d"
    ["a", "b"].Nodup ∧
      ((replaying [answer "stale", answer "a", "not json", answer "b"]).converse
        [("a", r), ("b", r)]).1 =
      ((replaying [answer "a", answer "b"]).converse [("a", r), ("b", r)]).1 := by
  intro r answer
  have hids : ["a", "b"].Nodup := by decide
  have hstale : ∀ id ∈ ["a", "b"], carries id (answer "stale") = false := by decide +kernel
  have htext : ∀ id ∈ ["a", "b"], carries id "not json" = false := by decide +kernel
  refine ⟨hids, (converse_replaying _ [("a", r), ("b", r)] hids).2.1 _ ?_⟩
  exact .insert hstale (.keep _ (.insert htext (.keep _ .nil)))

end Process

end LedgerQuery.Driver
