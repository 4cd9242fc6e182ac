import LedgerQuery.Proofs.Backend.Warehouse

/-!
# The life of a warehouse backend

Whatever a connector answers, and whatever is asked of the backend over it: the backend opens a
connection only if it holds none, uses only the one that it holds, and closes each one once. To tell
connections apart and to see what is done to them, a connector is traced: its connections are
numbered in the order in which they are opened, and every call is written down.

* `Connector.traced`: the connector under observation.
* `Orderly`: the calls of a backend that holds one connection at most.
* `Warehouse.lifecycle`: all that holds at each point of a life.
-/

namespace LedgerQuery

/-! ### Calls -/

/-- What is done to a connector. -/
inductive Call where
  /-- It is asked whether there is something to connect with. -/
  | asked
  | opened (number : Nat)
  /-- A connection is not to be had. -/
  | refused
  | executed (number : Nat) (sql : String) (args : List Json)
  | closed (number : Nat)

namespace Call

/-- A connection is opened. -/
def isOpening : Call → Bool
  | .opened _ => true
  | _ => false

/-- A connection is closed. -/
def isClosing : Call → Bool
  | .closed _ => true
  | _ => false

/-- The connection of the number is closed. -/
def closes (n : Nat) : Call → Bool
  | .closed m => m == n
  | _ => false

/-- The number of connections that are opened. -/
def openings (calls : List Call) : Nat := calls.countP isOpening

/-- The number of times that a connection is closed. -/
def closings (calls : List Call) : Nat := calls.countP isClosing

/-- The number of times that the connection of the number is closed. -/
def closingsOf (n : Nat) (calls : List Call) : Nat := calls.countP (closes n)

theorem openings_concat (calls : List Call) (call : Call) :
    openings (calls ++ [call]) = openings calls + if call.isOpening then 1 else 0 := by
  rw [openings, List.countP_append, List.countP_singleton, openings]

theorem closings_concat (calls : List Call) (call : Call) :
    closings (calls ++ [call]) = closings calls + if call.isClosing then 1 else 0 := by
  rw [closings, List.countP_append, List.countP_singleton, closings]

theorem closingsOf_concat (n : Nat) (calls : List Call) (call : Call) :
    closingsOf n (calls ++ [call]) = closingsOf n calls + if call.closes n then 1 else 0 := by
  rw [closingsOf, List.countP_append, List.countP_singleton, closingsOf]

/-- The calls of a backend that holds one connection at most, and the connection that it holds in
the end. -/
inductive Orderly : List Call → Option Nat → Prop where
  | nil : Orderly [] none
  | asked {calls : List Call} : Orderly calls none → Orderly (calls ++ [.asked]) none
  | refused {calls : List Call} : Orderly calls none → Orderly (calls ++ [.refused]) none
  | opened {calls : List Call} :
    Orderly calls none → Orderly (calls ++ [.opened (openings calls)]) (some (openings calls))
  | executed {calls : List Call} {n : Nat} (sql : String) (args : List Json) :
    Orderly calls (some n) → Orderly (calls ++ [.executed n sql args]) (some n)
  | closed {calls : List Call} {n : Nat} :
    Orderly calls (some n) → Orderly (calls ++ [.closed n]) none

variable {calls : List Call} {held : Option Nat}

namespace Orderly

/-- One connection is open if one is held, else none is. -/
theorem openings_eq (h : Orderly calls held) :
    openings calls = closings calls + held.toList.length := by
  induction h with
  | nil => rfl
  | asked _ ih | refused _ ih | opened _ ih | executed _ _ _ ih | closed _ ih =>
    simpa [openings_concat, closings_concat, isOpening, isClosing] using ih

/-- What comes before a call is orderly itself. -/
theorem of_prefix (h : Orderly calls held) {before : List Call} (hb : before <+: calls) :
    ∃ held, Orderly before held := by
  -- a prefix of a list with one more call is that list or a prefix of the list without it
  have hlast : ∀ {calls : List Call} {call : Call} {held : Option Nat},
      Orderly (calls ++ [call]) held → (before <+: calls → ∃ held, Orderly before held) →
        before <+: calls ++ [call] → ∃ held, Orderly before held := by
    intro calls call held h ih hb
    rcases List.prefix_concat_iff.mp hb with rfl | hb
    · exact ⟨held, h⟩
    · exact ih hb
  induction h with
  | nil => exact ⟨none, by rw [List.prefix_nil.mp hb]; exact .nil⟩
  | asked h ih => exact hlast h.asked ih hb
  | refused h ih => exact hlast h.refused ih hb
  | opened h ih => exact hlast h.opened ih hb
  | executed sql args h ih => exact hlast (h.executed sql args) ih hb
  | closed h ih => exact hlast h.closed ih hb

/-- Only connections that were opened are closed, each of them once, and the one that is held has
been opened and not been closed. -/
theorem closingsOf_le (h : Orderly calls held) :
    (∀ n, closingsOf n calls ≤ if n < openings calls then 1 else 0) ∧
      ∀ n ∈ held, .opened n ∈ calls ∧ n < openings calls ∧ closingsOf n calls = 0 := by
  induction h with
  | nil => exact ⟨fun n => by simp [closingsOf], by simp⟩
  | asked _ ih | refused _ ih | executed _ _ _ ih =>
    simpa [openings_concat, closingsOf_concat, isOpening, closes] using ih
  | @opened calls _ ih =>
    simp only [openings_concat, closingsOf_concat, isOpening, closes, if_true, Bool.false_eq_true,
      if_false, Nat.add_zero]
    refine ⟨fun n => ?_, fun n hn => ?_⟩
    · have hle := ih.1 n
      split at hle <;> split <;> omega
    · -- the new connection has a number that no other one has had
      obtain rfl := Option.some.inj hn
      have hfresh := ih.1 (openings calls)
      rw [if_neg (Nat.lt_irrefl _)] at hfresh
      exact ⟨by simp, Nat.lt_succ_self _, Nat.le_zero.mp hfresh⟩
  | @closed calls m _ ih =>
    obtain ⟨_, hlt, hzero⟩ := ih.2 m rfl
    simp only [openings_concat, closingsOf_concat, isOpening, closes, Bool.false_eq_true, if_false,
      Nat.add_zero]
    refine ⟨fun n => ?_, by simp⟩
    by_cases hn : m = n
    · subst hn
      simp [hzero, hlt]
    · simpa [hn] using ih.1 n

/-- A statement is executed on a connection that has been opened and not been closed. -/
theorem executed_open (h : Orderly calls held) {before after : List Call} {n : Nat} {sql : String}
    {args : List Json} (hc : calls = before ++ .executed n sql args :: after) :
    .opened n ∈ before ∧ .closed n ∉ before := by
  have hprefix : before ++ [.executed n sql args] <+: calls :=
    ⟨after, by rw [hc, List.append_assoc]; rfl⟩
  obtain ⟨held', h'⟩ := h.of_prefix hprefix
  -- the statement is the last call, so the connection is held just before it
  generalize hlast : before ++ [Call.executed n sql args] = calls' at h'
  have hb : Orderly before (some n) := by
    cases h' with
    | nil => simp at hlast
    | executed sql' args' hb =>
      obtain ⟨rfl, hcall⟩ := List.append_inj' hlast rfl
      simp only [List.cons.injEq, executed.injEq, and_true] at hcall
      obtain ⟨rfl, _⟩ := hcall
      exact hb
    | _ => simpa using (List.append_inj' hlast rfl).2
  obtain ⟨hopen, _, hzero⟩ := hb.closingsOf_le.2 n rfl
  refine ⟨hopen, fun hm => ?_⟩
  exact absurd (List.countP_eq_zero.mp hzero _ hm) (by simp [closes])

end Orderly

end Call

/-! ### Connectors under observation -/

/-- A connection under its number. -/
structure Numbered (κ : Type) where
  number : Nat
  link : κ

/-- A world, and what has been done to a connector in it. -/
structure Traced (σ : Type) where
  world : σ
  calls : List Call := []

variable {σ κ : Type}

/-- The connector, with its connections numbered and every call written down. -/
def Connector.traced (k : Connector σ κ) : Connector (Traced σ) (Numbered κ) where
  isAvailable t :=
    let (answer, world) := k.isAvailable t.world
    (answer, ⟨world, t.calls ++ [.asked]⟩)
  connect c t :=
    match k.connect c t.world with
    | (.ok link, world) =>
      (.ok ⟨Call.openings t.calls, link⟩, ⟨world, t.calls ++ [.opened (Call.openings t.calls)]⟩)
    | (.error e, world) => (.error e, ⟨world, t.calls ++ [.refused]⟩)
  execute l sql args t :=
    let (answer, world) := k.execute l.link sql args t.world
    (answer, ⟨world, t.calls ++ [.executed l.number sql args]⟩)
  close l t :=
    let (answer, world) := k.close l.link t.world
    (answer, ⟨world, t.calls ++ [.closed l.number]⟩)

namespace Warehouse

variable (k : Connector σ κ) (c : Driver.Credentials)

/-- The calls of the backend are orderly, and the connection that it holds is the open one. -/
theorem steps_orderly :
    Steps k.traced c fun held t => Call.Orderly t.calls (held.map Numbered.number) where
  ask h := h.asked
  opened {t link t'} h ho := by
    rw [Connector.traced] at ho
    dsimp only at ho
    split at ho
    · obtain ⟨hl, rfl⟩ := Prod.mk.inj ho
      obtain rfl := Except.ok.inj hl
      exact h.opened
    · cases (Prod.mk.inj ho).1
  refused {t e t'} h ho := by
    rw [Connector.traced] at ho
    dsimp only at ho
    split at ho
    · cases (Prod.mk.inj ho).1
    · obtain ⟨-, rfl⟩ := Prod.mk.inj ho
      exact h.refused
  execute sql args h := h.executed sql args
  close h := h.closed

variable {k c}

/-! ### Single operations -/

/-- Connecting tells whether there is a connection now. -/
theorem connect_result (s : Held κ σ) :
    (connect k c s).1 = (connect k c s).2.link.isSome := by
  rw [connect_eq]
  split
  · next link hl => rw [hl]; rfl
  · split
    · split <;> rfl
    · rfl

theorem connect_of_held {s : Held κ σ} (h : s.link.isSome = true) :
    connect k c s = (true, s) := by
  obtain ⟨link, hl⟩ := Option.isSome_iff_exists.mp h
  rw [connect_eq, hl]

/-- If there is nothing to connect with, nothing is connected to. -/
theorem connect_of_unavailable {s : Held κ σ} (h : s.link.isSome = false)
    (ha : (k.isAvailable s.world).1 = false) :
    connect k c s = (false, ⟨none, (k.isAvailable s.world).2⟩) := by
  rw [connect_eq, Option.isSome_eq_false_iff.mp h |> Option.isNone_iff_eq_none.mp, ha]
  rfl

theorem disconnect_link (s : Held κ σ) : (disconnect k s).2.link = none := by
  rw [disconnect_eq]
  split
  · assumption
  · rfl

theorem execute_link (sql : String) (params : List Sql.Literal) (s : Held κ σ) :
    (execute k sql params s).2.link = s.link := by
  rw [execute_eq]
  split
  · rfl
  · next link hl => split <;> exact hl.symm

theorem execute_of_none {s : Held κ σ} (h : s.link = none) (sql : String)
    (params : List Sql.Literal) :
    execute k sql params s = (.error (.notConnected .warehouse), s) := by
  rw [execute_eq, h]

/-- Reading keeps the connection. -/
theorem after_read_link {op : Backend.Operation} (hr : op.isRead = true) (s : Held κ σ) :
    ((backend k c).after op s).link = s.link :=
  Backend.after_read (b := backend k c) (P := fun t => t.link = s.link)
    (fun sql params t ht => (execute_link sql params t).trans ht) hr rfl

/-- Reading without a connection does nothing at all. -/
theorem after_read_of_none {op : Backend.Operation} (hr : op.isRead = true) {s : Held κ σ}
    (h : s.link = none) : (backend k c).after op s = s := by
  refine Backend.after_read (b := backend k c) (P := fun t => t = s) (fun sql params t ht => ?_) hr rfl
  have hx : (backend k c).execute sql params t = (.error (.notConnected .warehouse), t) :=
    execute_of_none (by rw [ht, h]) sql params
  rw [hx]
  exact ht

/-- A session is open exactly if there is a connection, else it is told that there is none. -/
theorem openSession_result (s : Held κ σ) :
    ((backend k c).openSession s).1 = .ok () ∧ ((backend k c).openSession s).2.link.isSome = true ∨
      ((backend k c).openSession s).1 = .error (.connectionFailed .warehouse) ∧
        ((backend k c).openSession s).2.link.isSome = false := by
  have hc : ((backend k c).connect s).1 = ((backend k c).connect s).2.link.isSome :=
    connect_result s
  rw [Backend.openSession_eq]
  split
  · next h => exact .inl ⟨rfl, h⟩
  · split
    · next h => exact .inl ⟨rfl, hc ▸ h⟩
    · next h => exact .inr ⟨rfl, hc ▸ Bool.eq_false_iff.mpr h⟩

theorem link_of_dropped {start s : Held κ σ}
    (h : (backend k c).Reaches start .nobody s) : s.link = none := by
  cases h with
  | operate _ _ hne => exact absurd rfl hne
  | refused _ _ | dropped _ | left _ => exact disconnect_link _

/-! ### Lives -/

variable (k c) in
/-- At each point of the life of a backend over any connector: one connection is open exactly if the
backend is connected, and none or one was at every earlier call; each connection is closed once at
most, and statements are executed only on the open one; a dropped backend has closed all. Connecting
tells whether the backend is connected then, calls nothing if it already is, and asks for no
connection if none is to be had. Disconnecting leaves no connection. Reading keeps the connection,
and without one it does nothing. A session is opened exactly if there is a connection then. -/
theorem lifecycle (world : σ) {holder : Backend.Holder} {s : Held (Numbered κ) (Traced σ)}
    (h : (backend k.traced c).Reaches { world := { world } } holder s) :
    let b := backend k.traced c
    let calls := s.world.calls
    (∀ before, before <+: calls →
      Call.openings before = Call.closings before ∨
        Call.openings before = Call.closings before + 1) ∧
    Call.openings calls = Call.closings calls + (if b.isConnected s then 1 else 0) ∧
    (∀ n, Call.closingsOf n calls ≤ 1) ∧
    (∀ before n sql args after, calls = before ++ .executed n sql args :: after →
      .opened n ∈ before ∧ .closed n ∉ before) ∧
    (holder = .nobody → b.isConnected s = false) ∧
    (b.connect s).1 = b.isConnected (b.connect s).2 ∧
    (b.isConnected s = true → b.connect s = (true, s)) ∧
    (b.isConnected s = false → (k.isAvailable s.world.world).1 = false →
      (b.connect s).1 = false ∧ (b.connect s).2.world.calls = calls ++ [.asked]) ∧
    b.isConnected (b.disconnect s).2 = false ∧
    (∀ op : Backend.Operation, op.isRead = true →
      (b.after op s).link = s.link ∧ (b.isConnected s = false → b.after op s = s)) ∧
    ((b.openSession s).1 = .ok () ∧ b.isConnected (b.openSession s).2 = true ∨
      (b.openSession s).1 = .error (.connectionFailed .warehouse) ∧
        b.isConnected (b.openSession s).2 = false) := by
  intro b calls
  have ho : Call.Orderly calls (s.link.map Numbered.number) :=
    (steps_orderly k c).invariant h Call.Orderly.nil
  refine ⟨fun before hb => ?_, ?_, fun n => ?_, fun before n sql args after hc => ?_, ?_,
    connect_result s, connect_of_held, fun hn ha => ?_, ?_, fun op hr => ⟨after_read_link hr s, ?_⟩,
    openSession_result s⟩
  · obtain ⟨held, hbefore⟩ := ho.of_prefix hb
    rw [hbefore.openings_eq]
    cases held with
    | none => exact .inl rfl
    | some n => exact .inr rfl
  · have hlink : b.isConnected s = s.link.isSome := rfl
    rw [ho.openings_eq, hlink]
    cases s.link <;> rfl
  · have hle := ho.closingsOf_le.1 n
    split at hle <;> omega
  · exact ho.executed_open hc
  · rintro rfl
    have hlink := link_of_dropped h
    exact congrArg Option.isSome hlink
  · have hc : b.connect s = (false, ⟨none, (k.traced.isAvailable s.world).2⟩) :=
      connect_of_unavailable hn ha
    rw [hc]
    exact ⟨rfl, rfl⟩
  · exact congrArg Option.isSome (disconnect_link s)
  · intro hn
    exact after_read_of_none hr (Option.isNone_iff_eq_none.mp (Option.isSome_eq_false_iff.mp hn))

/-- A connector that refuses the first connection and can close none. -/
def reluctant : Connector Nat Unit where
  isAvailable := pure true
  connect _ tries := (if tries = 0 then .error .exited else .ok (), tries + 1)
  execute _ _ _ := pure (.error .exited)
  close _ := pure (.error .exited)

/-- A life over that connector: a refusal, a connection that is used and given up, and a session. -/
theorem lifecycle_reluctant :
    ∃ s, (backend reluctant.traced default).Reaches { world := { world := 0 } } .nobody s ∧
      s.world.calls = [.asked, .refused, .asked, .opened 0, .executed 0 "SELECT 1" [], .closed 0,
        .asked, .opened 1, .closed 1] ∧
      Call.openings s.world.calls = Call.closings s.world.calls + 0 ∧ s.link.isSome = false := by
  have hfresh : (backend reluctant.traced default).Reaches { world := { world := 0 } } .user
      { world := { world := 0 } } := .fresh
  have h := Backend.Reaches.left (.opened (.operate .disconnect (.operate (.execute "SELECT 1" [])
    (.operate .connect (.operate .connect hfresh nofun) nofun) nofun) nofun) rfl)
  obtain ⟨_, hbalance, _, _, hdropped, _⟩ := lifecycle reluctant default 0 h
  rw [hdropped rfl] at hbalance
  exact ⟨_, h, rfl, hbalance, hdropped rfl⟩

end Warehouse

end LedgerQuery
