import LedgerQuery.Backend.Basic

/-!
# Using a backend

A backend is used by one operation after another, by its user or in a session, until it is dropped.
All that an operation does to the state of a backend comes down to connecting, disconnecting and
running statements.

* `structured_eq`: a structured query, by what its two statements come to.
* `after`: the state behind an operation.
* `Reaches`: the states that a backend is in at some point of its life, and who holds it there.
* `after_read`: what every statement keeps is kept by every operation that only reads.
* `Reaches.invariant`: what connecting, disconnecting and every statement keep holds at every point.
-/

namespace LedgerQuery

@[simp] theorem Descriptor.sample_params (d : Descriptor) (dialect : Sql.Dialect) (n : UInt64) :
    (d.sample dialect n).params = [] := rfl

namespace Backend

variable {σ : Type}

/-- What is asked of a backend. -/
inductive Operation where
  | connect
  | disconnect
  | execute (sql : String) (params : List Sql.Literal)
  | structured (d : Descriptor) (elapsed : Elapsed)
  | tableSchema (table : String)
  | tables
  | validate
  | info

/-- The operation only reads. -/
def Operation.isRead : Operation → Bool
  | .connect | .disconnect => false
  | _ => true

/-- The state of a backend behind an operation. -/
def after (b : Backend σ) (op : Operation) (s : σ) : σ :=
  match op with
  | .connect => (b.connect s).2
  | .disconnect => (b.disconnect s).2
  | .execute sql params => (b.execute sql params s).2
  | .structured d elapsed => (b.structured d elapsed s).2
  | .tableSchema table => (b.tableSchema table s).2
  | .tables => (b.tables s).2
  | .validate => (b.validate s).2
  | .info => (b.info s).2

/-! ### Operations that only read -/

variable {b : Backend σ}

theorem report_eq (b : Backend σ) (d : Descriptor) (elapsed : Elapsed) (s : σ) :
    b.report d elapsed s =
      match b.execute (d.compile b.provider.dialect).sql (d.compile b.provider.dialect).params s with
      | (.error e, t) => (.error e, t)
      | (.ok result, t) =>
        match b.execute (d.sample b.provider.dialect Descriptor.sampleLimit).sql [] t with
        | (.error e, u) => (.error e, u)
        | (.ok sample, u) => (.ok (shape d result sample elapsed), u) := by
  simp only [report, Descriptor.sample_params, bind, StateT.bind]
  rcases b.execute (d.compile b.provider.dialect).sql (d.compile b.provider.dialect).params s with
    ⟨_ | result, t⟩
  · rfl
  · simp only [StateT.bind]
    rcases b.execute (d.sample b.provider.dialect Descriptor.sampleLimit).sql [] t with
      ⟨_ | sample, u⟩ <;> rfl

/-- The first error on the way becomes a refusal, and two answers become a report. -/
theorem structured_eq (b : Backend σ) (d : Descriptor) (elapsed : Elapsed) (s : σ) :
    b.structured d elapsed s =
      match b.execute (d.compile b.provider.dialect).sql (d.compile b.provider.dialect).params s with
      | (.error e, t) => (.refuse d e.message, t)
      | (.ok result, t) =>
        match b.execute (d.sample b.provider.dialect Descriptor.sampleLimit).sql [] t with
        | (.error e, u) => (.refuse d e.message, u)
        | (.ok sample, u) => (shape d result sample elapsed, u) := by
  simp only [structured, bind, StateT.bind, report_eq]
  rcases b.execute (d.compile b.provider.dialect).sql (d.compile b.provider.dialect).params s with
    ⟨_ | result, t⟩
  · rfl
  · dsimp only
    rcases b.execute (d.sample b.provider.dialect Descriptor.sampleLimit).sql [] t with
      ⟨_ | sample, u⟩ <;> rfl

theorem info_state (s : σ) :
    (b.info s).2 = if (b.validate s).1 then (b.tables (b.validate s).2).2 else (b.validate s).2 := by
  simp only [info, bind, StateT.bind]
  generalize b.validate s = answer
  rcases answer with ⟨_ | _, t⟩ <;> rfl

/-- What every statement keeps is kept by every operation that only reads. -/
theorem after_read {P : σ → Prop} (hx : ∀ sql params s, P s → P (b.execute sql params s).2)
    {op : Operation} (hr : op.isRead = true) {s : σ} (h : P s) : P (b.after op s) := by
  have htables : ∀ t, P t → P (b.tables t).2 := fun t ht => hx _ _ t ht
  cases op with
  | connect | disconnect => simp [Operation.isRead] at hr
  | execute sql params => exact hx sql params s h
  | tableSchema table => exact hx _ _ s h
  | tables => exact htables s h
  | validate => exact hx _ _ s h
  | info =>
    rw [after, info_state]
    split
    · exact htables _ (hx _ _ s h)
    · exact hx _ _ s h
  | structured d elapsed =>
    -- one statement, and a second one if the first one is answered
    rw [after, structured_eq]
    have hfirst := hx (d.compile b.provider.dialect).sql (d.compile b.provider.dialect).params s h
    revert hfirst
    generalize b.execute (d.compile b.provider.dialect).sql _ s = answer
    rcases answer with ⟨_ | _, t⟩
    · exact id
    · intro ht
      have hsecond := hx (d.sample b.provider.dialect Descriptor.sampleLimit).sql [] t ht
      revert hsecond
      dsimp only
      generalize b.execute (d.sample b.provider.dialect Descriptor.sampleLimit).sql [] t = answer
      rcases answer with ⟨_ | _, u⟩
      · exact id
      · exact id

/-- What connecting, disconnecting and every statement keep is kept by every operation. -/
theorem after_keeps {P : σ → Prop} (hc : ∀ s, P s → P (b.connect s).2)
    (hd : ∀ s, P s → P (b.disconnect s).2)
    (hx : ∀ sql params s, P s → P (b.execute sql params s).2) (op : Operation) {s : σ} (h : P s) :
    P (b.after op s) := by
  cases op with
  | connect => exact hc s h
  | disconnect => exact hd s h
  | _ => exact after_read hx rfl h

/-! ### Lives -/

theorem openSession_eq (b : Backend σ) (s : σ) :
    b.openSession s =
      if b.isConnected s then (.ok (), s)
      else if (b.connect s).1 then (.ok (), (b.connect s).2)
      else (.error (.connectionFailed b.provider), (b.connect s).2) := by
  simp only [openSession, bind, StateT.bind, get, getThe, MonadStateOf.get, StateT.get, pure]
  cases b.isConnected s
  · simp only [Bool.false_eq_true, if_false, StateT.bind]
    generalize b.connect s = answer
    rcases answer with ⟨_ | _, t⟩ <;> rfl
  · rfl

/-- Who holds a backend. -/
inductive Holder where
  | user
  | session
  /-- The backend has been dropped. -/
  | nobody
  deriving DecidableEq

/-- The backend is in the state at some point of its life, held by the holder. A session drops its
backend after disconnecting it, and a backend disconnects when it is dropped. If no session can be
opened, the backend is dropped at once. -/
inductive Reaches (b : Backend σ) (start : σ) : Holder → σ → Prop where
  | fresh : Reaches b start .user start
  | operate {holder : Holder} {s : σ} (op : Operation) :
    Reaches b start holder s → holder ≠ .nobody → Reaches b start holder (b.after op s)
  | opened {s t : σ} :
    Reaches b start .user s → b.openSession s = (.ok (), t) → Reaches b start .session t
  | refused {s t : σ} {e : Error} :
    Reaches b start .user s → b.openSession s = (.error e, t) →
      Reaches b start .nobody (b.disconnect t).2
  | dropped {s : σ} : Reaches b start .user s → Reaches b start .nobody (b.disconnect s).2
  | left {s : σ} :
    Reaches b start .session s → Reaches b start .nobody (b.disconnect (b.disconnect s).2).2

/-- What connecting, disconnecting and every statement keep holds at every point of a life. -/
theorem Reaches.invariant {P : σ → Prop} (hc : ∀ s, P s → P (b.connect s).2)
    (hd : ∀ s, P s → P (b.disconnect s).2)
    (hx : ∀ sql params s, P s → P (b.execute sql params s).2) {start : σ} (h₀ : P start)
    {holder : Holder} {s : σ} (h : b.Reaches start holder s) : P s := by
  have hopen : ∀ s, P s → P (b.openSession s).2 := by
    intro s hs
    rw [openSession_eq]
    split
    · exact hs
    · split
      · exact hc s hs
      · exact hc s hs
  induction h with
  | fresh => exact h₀
  | operate op _ _ ih => exact after_keeps hc hd hx op ih
  | opened _ ho ih =>
    have hs := hopen _ ih
    rwa [ho] at hs
  | refused _ ho ih =>
    have hs := hopen _ ih
    rw [ho] at hs
    exact hd _ hs
  | dropped _ ih => exact hd _ ih
  | left _ ih => exact hd _ (hd _ ih)

end Backend

end LedgerQuery
