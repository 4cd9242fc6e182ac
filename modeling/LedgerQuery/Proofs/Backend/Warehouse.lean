import LedgerQuery.Backend.Warehouse
import LedgerQuery.Proofs.Backend.Usage

/-!
# Single steps of the warehouse

What connecting, disconnecting and a statement do to the connection and to the world that the
connector works in.

* `connect_eq`, `disconnect_eq`, `execute_eq`: each step as a whole.
* `Steps`: what has to be shown so that a relation between the connection and the world is kept.
-/

namespace LedgerQuery.Warehouse

variable {σ κ : Type} (k : Connector σ κ) (c : Driver.Credentials)

theorem connect_eq (s : Held κ σ) :
    connect k c s =
      match s.link with
      | some _ => (true, s)
      | none =>
        if (k.isAvailable s.world).1 then
          match k.connect c (k.isAvailable s.world).2 with
          | (.ok link, world) => (true, ⟨some link, world⟩)
          | (.error _, world) => (false, ⟨none, world⟩)
        else (false, ⟨none, (k.isAvailable s.world).2⟩) := by
  obtain ⟨link, world⟩ := s
  cases link with
  | some link => rfl
  | none =>
    simp only [connect, bind, StateT.bind, get, getThe, MonadStateOf.get, StateT.get, pure, Held.act]
    generalize k.isAvailable world = answer
    rcases answer with ⟨_ | _, world⟩
    · rfl
    · simp only [if_true, StateT.bind, Held.act]
      generalize k.connect c world = answer
      rcases answer with ⟨_ | _, world⟩ <;> rfl

theorem disconnect_eq (s : Held κ σ) :
    disconnect k s =
      match s.link with
      | none => ((), s)
      | some link => ((), ⟨none, (k.close link s.world).2⟩) := by
  obtain ⟨link, world⟩ := s
  cases link <;> rfl

theorem execute_eq (sql : String) (params : List Sql.Literal) (s : Held κ σ) :
    execute k sql params s =
      match s.link with
      | none => (.error (.notConnected .warehouse), s)
      | some link =>
        match k.execute link sql (params.map Sql.Literal.toJson) s.world with
        | (.ok rows, world) => (.ok rows.lowerColumns, ⟨some link, world⟩)
        | (.error e, world) => (.error (.statement (.driver e)), ⟨some link, world⟩) := by
  obtain ⟨link, world⟩ := s
  cases link with
  | none => rfl
  | some link =>
    simp only [execute, bind, StateT.bind, get, getThe, MonadStateOf.get, StateT.get, pure, Held.act]
    generalize k.execute link sql _ world = answer
    rcases answer with ⟨_ | _, world⟩ <;> rfl

/-- A relation between the connection and the world is kept by all that the connector is asked to
do: a connection is opened where there is none, and used and closed where it is held. -/
structure Steps (P : Option κ → σ → Prop) : Prop where
  ask : ∀ {world}, P none world → P none (k.isAvailable world).2
  opened : ∀ {world link world'}, P none world → k.connect c world = (.ok link, world') →
    P (some link) world'
  refused : ∀ {world e world'}, P none world → k.connect c world = (.error e, world') →
    P none world'
  execute : ∀ {world link} (sql args), P (some link) world →
    P (some link) (k.execute link sql args world).2
  close : ∀ {world link}, P (some link) world → P none (k.close link world).2

variable {k c} {P : Option κ → σ → Prop} (h : Steps k c P)

include h

theorem Steps.connect {s : Held κ σ} (hs : P s.link s.world) :
    P (connect k c s).2.link (connect k c s).2.world := by
  obtain ⟨link, world⟩ := s
  rw [connect_eq]
  cases link with
  | some link => exact hs
  | none =>
    have hask := h.ask hs
    dsimp only
    split
    · split
      · next link world' hl => exact h.opened hask hl
      · next e world' hl => exact h.refused hask hl
    · exact hask

theorem Steps.disconnect {s : Held κ σ} (hs : P s.link s.world) :
    P (disconnect k s).2.link (disconnect k s).2.world := by
  obtain ⟨link, world⟩ := s
  rw [disconnect_eq]
  cases link with
  | none => exact hs
  | some link => exact h.close hs

theorem Steps.statement {s : Held κ σ} (hs : P s.link s.world) (sql : String)
    (params : List Sql.Literal) :
    P (Warehouse.execute k sql params s).2.link (Warehouse.execute k sql params s).2.world := by
  obtain ⟨link, world⟩ := s
  rw [execute_eq]
  cases link with
  | none => exact hs
  | some link =>
    have hx := h.execute sql (params.map Sql.Literal.toJson) hs
    revert hx
    dsimp only
    generalize k.execute link sql _ world = answer
    rcases answer with ⟨_ | _, world'⟩ <;> exact id

/-- A relation that every step keeps holds at every point of the life of a backend. -/
theorem Steps.invariant {start s : Held κ σ} {holder : Backend.Holder}
    (hr : (backend k c).Reaches start holder s) (h₀ : P start.link start.world) : P s.link s.world :=
  hr.invariant (P := fun s => P s.link s.world) (fun _ hs => h.connect hs)
    (fun _ hs => h.disconnect hs) (fun sql params _ hs => h.statement hs sql params) h₀

end LedgerQuery.Warehouse
