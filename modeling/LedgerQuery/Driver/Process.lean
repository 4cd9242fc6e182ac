import LedgerQuery.Driver.Error
import LedgerQuery.Driver.Message

/-!
# Running drivers

A driver reads requests line by line and writes lines of its own. What it has written waits until it
is read. A request is answered by the first line that holds a response with the identifier of the
request; all lines before it are passed over, all behind it wait for later requests.

* `awaitResponse`: the response to a request among waiting lines, and the lines behind it.
* `Process.request`: sends a request and reads its result.
-/

namespace LedgerQuery.Driver

/-- A line that a driver has written. -/
inductive Line where
  | text (s : String)
  /-- The bytes of the line are no text. -/
  | garbled
  deriving DecidableEq, Inhabited

/-- What a driver does with a request. -/
structure Reaction where
  lines : List Line := []
  /-- It reads further requests. -/
  goesOn : Bool := true
  deriving Inhabited

/-- What a driver does in its runs: for the number of a run and all requests of this run, the last
one being the newest, the reaction to the newest. -/
structure Program where
  react : (run : Nat) → (requests : List String) → Reaction
  deriving Inhabited

/-- A run of a driver. -/
structure Process where
  program : Program
  /-- The number of the run. -/
  run : Nat
  /-- The requests that the driver has read. -/
  received : List String := []
  /-- The lines that it has written and nobody has read. -/
  unread : List Line := []
  /-- It reads further requests. A run begins listening, so that its first request is always read: a
  driver that ends before it reads anything counts as one that reads a request, writes nothing and
  ends. -/
  isListening : Bool := true
  deriving Inhabited

/-- The response to a request among waiting lines, and the lines behind it. A driver that has
nothing more to say has ended. -/
def awaitResponse (id : String) : List Line → Except Error Response × List Line
  | [] => (.error .exited, [])
  | .garbled :: rest => (.error .notRead, rest)
  | .text s :: rest =>
    match Response.parse s with
    | .ok r => if r.id = id then (.ok r, rest) else awaitResponse id rest
    | .error _ => awaitResponse id rest

/-- The result of a response. -/
def Response.outcome (r : Response) : Except Error Json :=
  if r.success then .ok (r.result.getD .null)
  else match r.error with
    | some e => .error (.ofReport e.code e.message)
    | none => .error .unexplained

/-- The identifier of the request that a number of requests precede. Nothing is asked of identifiers
but that those of a run differ, so counting the requests stands here for any way to draw them. -/
def Request.identifier (earlier : Nat) : String :=
  "request-" ++ Decimal.intText earlier

namespace Process

/-- The process behind a request, unless it reads no more. -/
def send (p : Process) (line : String) : Option Process :=
  if p.isListening then
    let received := p.received ++ [line]
    let r := p.program.react p.run received
    some { p with received, unread := p.unread ++ r.lines, isListening := r.goesOn }
  else none

/-- Sends a request under an identifier and reads its result. -/
def requestAs (p : Process) (id : String) (r : Request) : Except Error Json × Process :=
  match p.send (r.line id) with
  | none => (.error .notWritten, p)
  | some p =>
    let (response, unread) := awaitResponse id p.unread
    (response.bind Response.outcome, { p with unread })

/-- Sends a request under an identifier of its own and reads its result. -/
def request (p : Process) (r : Request) : Except Error Json × Process :=
  p.requestAs (Request.identifier p.received.length) r

end Process

/-- A result read as what it has to be. -/
def decode {α : Type} (read : Json.Draft → Except Json.Fault α) (j : Json) : Except Error α :=
  (read j.toDraft).mapError fun _ => .undecodable

/-- The result of opening a connection. -/
def decodeSession : Json → Except Error String := decode (sessionOfDraft .memory)

/-- The result of a statement. -/
def decodeAnswer : Json → Except Error Answer := decode (Answer.ofDraft .memory Json.maxDepth)

/-- The result of closing a connection, which has to be of the expected form and says no more. -/
def decodeClosed (j : Json) : Except Error Unit :=
  (decode (closedOfDraft .memory) j).map fun _ => ()

end LedgerQuery.Driver
