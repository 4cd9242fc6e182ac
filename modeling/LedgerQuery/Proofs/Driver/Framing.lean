import LedgerQuery.Proofs.Driver.Conversation
import LedgerQuery.Proofs.Json.Lines
import LedgerQuery.Proofs.Json.Stored
import LedgerQuery.Sql.Literal
import LedgerQuery.Text.Split

/-!
# Requests on lines of their own

A driver is written to as one text, which it takes apart at the line breaks. Statements hold line
breaks as well, and so may everything else that a request says; in the text of the request they are
escaped. So the driver finds each request on a line of its own, and nothing behind the last one.

* `Ask`: what a driver is asked, and `Ask.Says`: parameters that say so.
* `splitAt_written`: the text of requests falls apart into their lines.
* `Call.parse_line`: what the line of a request says.
* `Process.exists_sent`: which requests a driver has read.
* `requests_framed`: all of this for a whole sequence of requests.
-/

namespace LedgerQuery.Driver

/-! ### Parameters -/

/-- What a driver is asked: to open a connection, to run a statement in a session with values bound
to it, or to close a session. -/
inductive Ask where
  | opening (c : Credentials)
  | statement (session sql : String) (values : List Sql.Literal)
  | closing (session : String)

namespace Ask

/-- The parameters of the request. -/
def params : Ask → Json
  | .opening c => (Request.openConnection c).params
  | .statement session sql values =>
    (Request.execute session sql (values.map Sql.Literal.toJson)).params
  | .closing session => (Request.closeConnection session).params

/-- The parameters say what is asked. They have arguments exactly if values are bound, and then
these are the values in order. -/
def Says (params : Json) : Ask → Prop
  | .opening c =>
    params.get? "account" = some (.text c.account) ∧ params.get? "user" = some (.text c.user) ∧
      params.get? "password" = some (.text c.password) ∧
      params.get? "warehouse" = some (.text c.warehouse) ∧
      params.get? "database" = some (.text c.database) ∧
      params.get? "schema" = some (.text c.schema)
  | .statement session sql values =>
    params.get? "session_id" = some (.text session) ∧ params.get? "sql" = some (.text sql) ∧
      (params.get? "args" = none ↔ values = []) ∧
      (values ≠ [] → params.get? "args" = some (.list (values.map Sql.Literal.toJson)))
  | .closing session => params.get? "session_id" = some (.text session)

/-- The whole numbers that are bound have 64 bits with a sign. -/
def Fits : Ask → Prop
  | .statement _ _ values =>
    ∀ n, .int n ∈ values → Json.minSigned ≤ n ∧ n ≤ Json.maxSigned
  | _ => True

theorem says_params (a : Ask) : a.Says a.params := by
  cases a with
  | opening c => exact ⟨rfl, rfl, rfl, rfl, rfl, rfl⟩
  | statement session sql values =>
    cases values with
    | nil => exact ⟨rfl, rfl, ⟨fun _ => rfl, fun _ => rfl⟩, fun h => absurd rfl h⟩
    | cons v values => exact ⟨rfl, rfl, ⟨nofun, nofun⟩, fun _ => rfl⟩
  | closing session => exact rfl

/-- A bound value can be held, and is no container. -/
theorem storableWithin_literal {v : Sql.Literal}
    (h : ∀ n, v = .int n → Json.minSigned ≤ n ∧ n ≤ Json.maxSigned) :
    v.toJson.StorableWithin 0 := by
  cases v with
  | null => exact ⟨Json.storable_null, Nat.le_refl 0⟩
  | bool b => exact ⟨Json.storable_bool b, Nat.le_refl 0⟩
  | int n =>
    obtain ⟨hleast, hgreatest⟩ := h n rfl
    exact ⟨Json.storable_int hleast (hgreatest.trans (by decide)), Nat.le_refl 0⟩
  | float x =>
    rw [Sql.Literal.toJson]
    split
    · next hx => exact ⟨⟨hx, trivial⟩, Nat.le_refl 0⟩
    · exact ⟨Json.storable_null, Nat.le_refl 0⟩
  | text s => exact Json.storableWithin_text 0 s

/-- Parameters can be held, and have no container in them but the list of the values. -/
theorem storableWithin_params {a : Ask} (h : a.Fits) : a.params.StorableWithin 2 := by
  cases a with
  | opening c =>
    refine Json.storableWithin_object ?_ ?_
    · simp
    · simp [Json.storableWithin_text]
  | statement session sql values =>
    have hvalues : (Json.list (values.map Sql.Literal.toJson)).StorableWithin 1 := by
      refine Json.storableWithin_list fun j hj => ?_
      obtain ⟨v, hv, rfl⟩ := List.mem_map.mp hj
      exact storableWithin_literal fun n hn => h n (hn ▸ hv)
    refine Json.storableWithin_object ?_ ?_
    · split <;> simp
    · split
      · simp [Json.storableWithin_text]
      · simp [Json.storableWithin_text, hvalues]
  | closing session =>
    refine Json.storableWithin_object ?_ ?_
    · simp
    · simp [Json.storableWithin_text]

end Ask

/-! ### Lines -/

/-- A request of a client: an identifier, the name of a method, and what is asked. -/
structure Call where
  id : String
  method : String
  ask : Ask

namespace Call

/-- The request that is made. -/
def request (c : Call) : Request := ⟨c.method, c.ask.params⟩

/-- The request under its identifier. -/
def sending (c : Call) : String × Request := (c.id, c.request)

/-- The line of the request. -/
def line (c : Call) : String := c.request.line c.id

theorem newline_not_mem_line (c : Call) : '\n' ∉ c.line.toList :=
  Json.newline_not_mem_render _

theorem line_ne_empty (c : Call) : c.line ≠ "" := by
  intro h
  have hhead : c.line.toList.head? = some '\x7b' := by
    rw [line, Request.line, Request.toJson, Json.render, String.toList_ofList, Json.chars]
    rfl
  rw [h] at hhead
  exact absurd hhead (by decide)

/-- The line of a request is read as what was asked under which identifier and method. -/
theorem parse_line {c : Call} (h : c.ask.Fits) :
    Json.parse c.line = .ok (.object
      [("id", .text c.id), ("method", .text c.method), ("params", c.ask.params)]) := by
  have hobject : (Json.object [("id", .text c.id), ("method", .text c.method),
      ("params", c.ask.params)]).StorableWithin 3 := by
    refine Json.storableWithin_object ?_ ?_
    · simp
    · simp [Json.storableWithin_text, Ask.storableWithin_params h]
  have hroom : 3 ≤ Json.maxDepth := by decide
  exact Json.parse_render hobject.storable (hobject.depth_le.trans hroom)

end Call

/-- The text that is written for requests one after another. -/
def written (calls : List Call) : String :=
  String.join (calls.map fun c => c.request.frame c.id)

/-- Cut at the line breaks, the text of requests falls apart into their lines. -/
theorem splitAt_written (calls : List Call) :
    Text.splitAt '\n' (written calls).toList = calls.map (fun c => c.line.toList) ++ [[]] := by
  have htext : (written calls).toList = (calls.map fun c => c.line.toList).flatMap (· ++ ['\n']) := by
    simp [written, Request.frame, Call.line, List.flatMap_map]
  rw [htext, Text.splitAt_flatMap]
  intro cs hcs
  obtain ⟨c, -, rfl⟩ := List.mem_map.mp hcs
  exact c.newline_not_mem_line

/-! ### Runs -/

namespace Process

variable {p : Process}

theorem requestAs_of_listening (h : p.isListening = true) (id : String) (r : Request) :
    (p.requestAs id r).2.received = p.received ++ [r.line id] := by
  rw [requestAs, send, if_pos h]

theorem converse_of_not_listening (h : p.isListening = false) (calls : List (String × Request)) :
    p.converse calls = (calls.map fun _ => .error .notWritten, p) := by
  induction calls with
  | nil => rfl
  | cons call calls ih =>
    have hcall : p.requestAs call.1 call.2 = (.error .notWritten, p) := by
      rw [requestAs, send, if_neg (by simp [h])]
    rw [converse_cons, hcall, ih]
    rfl

/-- A driver reads the lines of the requests up to the one at which it stops listening; the requests
behind that one fail because they cannot be written. -/
theorem exists_sent (p : Process) (calls : List (String × Request)) :
    ∃ sent refused, calls = sent ++ refused ∧
      (p.converse calls).2.received = p.received ++ sent.map (fun c => c.2.line c.1) ∧
      (p.converse calls).1.drop sent.length = refused.map (fun _ => .error .notWritten) ∧
      (refused ≠ [] → (p.converse calls).2.isListening = false) := by
  -- a driver that has stopped listening refuses all that is left, so the first refusal is the cut
  induction calls generalizing p with
  | nil => exact ⟨[], [], rfl, by simp [converse], rfl, fun h => absurd rfl h⟩
  | cons call calls ih =>
    cases hl : p.isListening with
    | false =>
      rw [converse_of_not_listening hl]
      exact ⟨[], call :: calls, rfl, by simp, rfl, fun _ => hl⟩
    | true =>
      obtain ⟨sent, refused, hcalls, hreceived, hresults, hstopped⟩ :=
        ih (p.requestAs call.1 call.2).2
      rw [converse_cons]
      refine ⟨call :: sent, refused, by rw [hcalls]; rfl, ?_, hresults, hstopped⟩
      rw [hreceived, requestAs_of_listening hl, List.append_assoc]
      rfl

end Process

/-- Whatever is asked for and whatever the texts in it, the text that is written for requests falls
apart at its line breaks into one line for each of them, in order, with nothing behind the last. No
line is empty. Each is read as an object of the identifier, the method and the parameters of its
request, and these say what is asked, with the values in order, if there are any. Each driver reads
these lines one by one, up to the one at which it stops listening, and every request behind that
one fails. -/
theorem requests_framed (calls : List Call) (h : ∀ c ∈ calls, c.ask.Fits) :
    Text.splitAt '\n' (written calls).toList = calls.map (fun c => c.line.toList) ++ [[]] ∧
    (∀ c ∈ calls, c.line ≠ "" ∧ Json.parse c.line = .ok (.object
        [("id", .text c.id), ("method", .text c.method), ("params", c.ask.params)]) ∧
      c.ask.Says c.ask.params) ∧
    ∀ p : Process, ∃ sent refused, calls = sent ++ refused ∧
      (p.converse (calls.map Call.sending)).2.received = p.received ++ sent.map Call.line ∧
      (p.converse (calls.map Call.sending)).1.drop sent.length =
        refused.map (fun _ => .error .notWritten) ∧
      (refused ≠ [] → (p.converse (calls.map Call.sending)).2.isListening = false) := by
  refine ⟨splitAt_written calls, fun c hc => ?_, fun p => ?_⟩
  · exact ⟨c.line_ne_empty, Call.parse_line (h c hc), c.ask.says_params⟩
  · obtain ⟨sent, refused, hcalls, hreceived, hresults, hstopped⟩ :=
      p.exists_sent (calls.map Call.sending)
    obtain ⟨first, last, rfl, rfl, rfl⟩ := List.map_eq_append_iff.mp hcalls
    refine ⟨first, last, rfl, ?_, ?_, fun hlast => hstopped (by simpa using hlast)⟩
    · rw [hreceived, List.map_map]
      rfl
    · rw [List.length_map] at hresults
      rw [hresults, List.map_map]
      rfl

/-- Line breaks in a statement, a value and a session are escaped. -/
theorem requests_framed_broken_texts :
    let calls : List Call :=
      [⟨"1", "query.execute", .statement "s" "SELECT ?\nFROM t" [.text "x\ny", .int (-5)]⟩,
        ⟨"2", "connection.close", .closing "s\n"⟩]
    (∀ c ∈ calls, c.ask.Fits) ∧
      Text.splitAt '\n' (written calls).toList = [
        ("\x7b\"id\":\"1\",\"method\":\"query.execute\",\"params\":\x7b\"session_id\":\"s\"," ++
          "\"sql\":\"SELECT ?\\nFROM t\",\"args\":[\"x\\ny\",-5]\x7d\x7d").toList,
        ("\x7b\"id\":\"2\",\"method\":\"connection.close\"," ++
          "\"params\":\x7b\"session_id\":\"s\\n\"\x7d\x7d").toList,
        []] := by
  intro calls
  have hfits : ∀ c ∈ calls, c.ask.Fits := by
    simp [calls, Ask.Fits, Json.minSigned, Json.maxSigned]
  refine ⟨hfits, ?_⟩
  rw [(requests_framed calls hfits).1]
  decide +kernel

end LedgerQuery.Driver
