import LedgerQuery.Proofs.Backend.Usage
import LedgerQuery.Proofs.Backend.Warehouse

/-!
# Two backends side by side

Two backends are used in the same way, each in a world of its own. If the worlds are related, and
connecting, disconnecting and every statement give the same answers and leave related worlds, then
nothing that is asked of the two backends tells them apart.

* `Alike`: two actions in related worlds give related answers and leave related worlds.
* `Backend.perform`, `Backend.converse`: what a backend answers to a call, and to many of them.
* `Backend.Alike.converse`: alike backends answer alike to any calls one after another.
* `Connector.Alike.backend`: alike connectors make alike warehouses.
-/

namespace LedgerQuery

/-! ### Actions -/

section Actions

variable {σ σ' α α' β β' : Type} {R : σ → σ' → Prop}

/-- In related worlds the actions give related answers and leave related worlds. -/
def Alike (A : α → α' → Prop) (R : σ → σ' → Prop) (m : StateM σ α) (m' : StateM σ' α') : Prop :=
  ∀ s s', R s s' → A (m s).1 (m' s').1 ∧ R (m s).2 (m' s').2

theorem Alike.answer {A : α → α' → Prop} {a : α} {a' : α'} (h : A a a') :
    Alike A R (pure a) (pure a') := by
  intro s s' hs
  exact ⟨h, hs⟩

/-- The rule of sequences. -/
theorem Alike.bind {A : α → α' → Prop} {B : β → β' → Prop} {m : StateM σ α} {m' : StateM σ' α'}
    {f : α → StateM σ β} {f' : α' → StateM σ' β'} (hm : Alike A R m m')
    (hf : ∀ a a', A a a' → Alike B R (f a) (f' a')) : Alike B R (m >>= f) (m' >>= f') := by
  intro s s' hs
  obtain ⟨ha, hs⟩ := hm s s' hs
  exact hf _ _ ha _ _ hs

/-- The rule of sequences for equal answers. -/
theorem Alike.seq {B : β → β' → Prop} {m : StateM σ α} {m' : StateM σ' α}
    {f : α → StateM σ β} {f' : α → StateM σ' β'} (hm : Alike Eq R m m')
    (hf : ∀ a, Alike B R (f a) (f' a)) : Alike B R (m >>= f) (m' >>= f') := by
  refine hm.bind ?_
  rintro a _ rfl
  exact hf a

theorem Alike.world : Alike R R (get : StateM σ σ) (get : StateM σ' σ') := by
  intro s s' hs
  exact ⟨hs, hs⟩

theorem Alike.update {f : σ → σ} {f' : σ' → σ'} (h : ∀ s s', R s s' → R (f s) (f' s')) :
    Alike Eq R (modify f : StateM σ PUnit) (modify f' : StateM σ' PUnit) := by
  intro s s' hs
  exact ⟨rfl, h s s' hs⟩

end Actions

/-! ### Calls -/

namespace Backend

/-- What is asked of a backend, opening a session included. -/
inductive Call where
  | openSession
  | operation (op : Operation)

/-- What a backend answers. -/
inductive Reply where
  | session (result : Except Error Unit)
  | connected (isConnected : Bool)
  | disconnected
  | rows (result : Except Error RowSet)
  | envelope (e : Envelope)
  | schema (result : Except Error TableSchema)
  | tables (result : Except Error (List String))
  | valid (isValid : Bool)
  | info (i : ConnectionInfo)

section Conversation

variable {σ : Type}

/-- The answer to an operation. -/
def operate (b : Backend σ) : Operation → StateM σ Reply
  | .connect => return .connected (← b.connect)
  | .disconnect => do
    b.disconnect
    return .disconnected
  | .execute sql params => return .rows (← b.execute sql params)
  | .structured d elapsed => return .envelope (← b.structured d elapsed)
  | .tableSchema table => return .schema (← b.tableSchema table)
  | .tables => return .tables (← b.tables)
  | .validate => return .valid (← b.validate)
  | .info => return .info (← b.info)

/-- The answer to a call. -/
def perform (b : Backend σ) : Call → StateM σ Reply
  | .openSession => return .session (← b.openSession)
  | .operation op => b.operate op

/-- The answers to calls one after another. Each comes with the view of the session behind it,
which tells whether there is a connection. -/
def converse (b : Backend σ) : List Call → StateM σ (List (Reply × String))
  | [] => return []
  | call :: calls => do
    let reply ← b.perform call
    let view := b.sessionView (← get)
    return (reply, view) :: (← b.converse calls)

end Conversation

/-! ### Backends -/

/-- The backends are of one kind, and connecting, disconnecting and every statement are alike. -/
structure Alike {σ σ' : Type} (R : σ → σ' → Prop) (b : Backend σ) (b' : Backend σ') : Prop where
  provider : b.provider = b'.provider
  target : b.target = b'.target
  catalog : b.catalog = b'.catalog
  isConnected : ∀ s s', R s s' → b.isConnected s = b'.isConnected s'
  connect : LedgerQuery.Alike Eq R b.connect b'.connect
  disconnect : LedgerQuery.Alike Eq R b.disconnect b'.disconnect
  execute : ∀ sql params, LedgerQuery.Alike Eq R (b.execute sql params) (b'.execute sql params)

namespace Alike

variable {σ σ' : Type} {R : σ → σ' → Prop} {b : Backend σ} {b' : Backend σ'} (h : b.Alike R b')

include h

theorem lookup {α : Type} (l : Lookup) (read : RowSet → α) :
    LedgerQuery.Alike Eq R (b.lookup l read) (b'.lookup l read) :=
  (h.execute l.sql l.params).seq fun _ => .answer rfl

theorem tableSchema (table : String) :
    LedgerQuery.Alike Eq R (b.tableSchema table) (b'.tableSchema table) := by
  unfold Backend.tableSchema
  rw [h.catalog]
  exact h.lookup _ _

theorem tables : LedgerQuery.Alike Eq R b.tables b'.tables := by
  unfold Backend.tables
  rw [h.catalog]
  exact h.lookup _ _

theorem validate : LedgerQuery.Alike Eq R b.validate b'.validate := by
  unfold Backend.validate
  rw [h.catalog]
  exact (h.execute _ _).seq fun _ => .answer rfl

theorem info : LedgerQuery.Alike Eq R b.info b'.info := by
  unfold Backend.info
  rw [h.target]
  refine h.validate.seq fun isValid => ?_
  cases isValid with
  | true => exact h.tables.seq fun _ => .answer rfl
  | false => exact .answer rfl

theorem report (d : Descriptor) (elapsed : Elapsed) :
    LedgerQuery.Alike Eq R (b.report d elapsed) (b'.report d elapsed) := by
  unfold Backend.report
  rw [h.provider]
  refine (h.execute _ _).seq fun result => ?_
  cases result with
  | error e => exact .answer rfl
  | ok result =>
    refine (h.execute _ _).seq fun sample => ?_
    cases sample with
    | error e => exact .answer rfl
    | ok sample => exact .answer rfl

theorem structured (d : Descriptor) (elapsed : Elapsed) :
    LedgerQuery.Alike Eq R (b.structured d elapsed) (b'.structured d elapsed) := by
  refine (h.report d elapsed).seq fun result => ?_
  cases result with
  | error e => exact .answer rfl
  | ok e => exact .answer rfl

theorem openSession : LedgerQuery.Alike Eq R b.openSession b'.openSession := by
  unfold Backend.openSession
  rw [h.provider]
  refine Alike.world.bind fun s s' hs => ?_
  rw [h.isConnected s s' hs]
  cases b'.isConnected s' with
  | true => exact .answer rfl
  | false =>
    refine h.connect.seq fun isConnected => ?_
    cases isConnected with
    | true => exact .answer rfl
    | false => exact .answer rfl

theorem operate (op : Operation) : LedgerQuery.Alike Eq R (b.operate op) (b'.operate op) := by
  cases op with
  | connect => exact h.connect.seq fun _ => .answer rfl
  | disconnect => exact h.disconnect.seq fun _ => .answer rfl
  | execute sql params => exact (h.execute sql params).seq fun _ => .answer rfl
  | structured d elapsed => exact (h.structured d elapsed).seq fun _ => .answer rfl
  | tableSchema table => exact (h.tableSchema table).seq fun _ => .answer rfl
  | tables => exact h.tables.seq fun _ => .answer rfl
  | validate => exact h.validate.seq fun _ => .answer rfl
  | info => exact h.info.seq fun _ => .answer rfl

theorem perform (call : Call) : LedgerQuery.Alike Eq R (b.perform call) (b'.perform call) := by
  cases call with
  | openSession => exact h.openSession.seq fun _ => .answer rfl
  | operation op => exact h.operate op

theorem sessionView {s : σ} {s' : σ'} (hs : R s s') : b.sessionView s = b'.sessionView s' := by
  unfold Backend.sessionView
  rw [h.provider, h.isConnected s s' hs]

/-- Alike backends answer alike to any calls one after another. -/
theorem converse (calls : List Call) :
    LedgerQuery.Alike Eq R (b.converse calls) (b'.converse calls) := by
  induction calls with
  | nil => exact .answer rfl
  | cons call calls ih =>
    -- the view is taken of the states behind the call, which are related again
    refine (h.perform call).seq fun reply => ?_
    refine Alike.world.bind fun s s' hs => ?_
    dsimp only
    rw [h.sessionView hs]
    exact ih.seq fun _ => .answer rfl

end Alike

end Backend

/-! ### Warehouses -/

/-- Both attempts to open a connection succeed, with related connections, or both fail. -/
inductive OpenedAlike {κ κ' : Type} (L : κ → κ' → Prop) :
    Except Driver.Error κ → Except Driver.Error κ' → Prop where
  | ok {link : κ} {link' : κ'} : L link link' → OpenedAlike L (.ok link) (.ok link')
  | error (e e' : Driver.Error) : OpenedAlike L (.error e) (.error e')

/-- The connectors are alike, each with credentials of its own: both can be asked, connections are
opened by both or by neither, and statements give the same answers on related connections. Nobody
sees why a connection cannot be opened, and what is answered when it is closed. -/
structure Connector.Alike {σ σ' κ κ' : Type} (W : σ → σ' → Prop) (L : κ → κ' → Prop)
    (k : Connector σ κ) (c : Driver.Credentials) (k' : Connector σ' κ') (c' : Driver.Credentials) :
    Prop where
  isAvailable : LedgerQuery.Alike Eq W k.isAvailable k'.isAvailable
  connect : LedgerQuery.Alike (OpenedAlike L) W (k.connect c) (k'.connect c')
  execute : ∀ link link', L link link' → ∀ sql args,
    LedgerQuery.Alike Eq W (k.execute link sql args) (k'.execute link' sql args)
  close : ∀ link link', L link link' →
    LedgerQuery.Alike (fun _ _ => True) W (k.close link) (k'.close link')

/-- Both hold related connections in related worlds, or both hold none. -/
structure HeldAlike {σ σ' κ κ' : Type} (W : σ → σ' → Prop) (L : κ → κ' → Prop) (s : Held κ σ)
    (s' : Held κ' σ') : Prop where
  link : Option.Rel L s.link s'.link
  world : W s.world s'.world

section Warehouses

variable {σ σ' κ κ' : Type} {W : σ → σ' → Prop} {L : κ → κ' → Prop}

theorem Alike.act {α α' : Type} {A : α → α' → Prop} {m : StateM σ α} {m' : StateM σ' α'}
    (h : Alike A W m m') : Alike A (HeldAlike W L) (Held.act m) (Held.act m') := by
  intro s s' hs
  obtain ⟨ha, hw⟩ := h _ _ hs.world
  exact ⟨ha, hs.link, hw⟩

namespace Connector.Alike

variable {k : Connector σ κ} {c : Driver.Credentials} {k' : Connector σ' κ'}
  {c' : Driver.Credentials} (h : k.Alike W L c k' c')

include h

theorem connect_warehouse : LedgerQuery.Alike Eq (HeldAlike W L) (Warehouse.connect k c)
    (Warehouse.connect k' c') := by
  unfold Warehouse.connect
  refine Alike.world.bind fun s s' hs => ?_
  obtain ⟨link, world⟩ := s
  obtain ⟨link', world'⟩ := s'
  cases hs.link with
  | some hl => exact .answer rfl
  | none =>
    refine h.isAvailable.act.seq fun isAvailable => ?_
    cases isAvailable with
    | false => exact .answer rfl
    | true =>
      refine h.connect.act.bind fun result result' hr => ?_
      cases hr with
      -- the reasons may differ, but nobody is told
      | error e e' => exact .answer rfl
      | ok hl =>
        refine (Alike.update fun t t' ht => ?_).seq fun _ => .answer rfl
        exact ⟨.some hl, ht.world⟩

theorem disconnect_warehouse : LedgerQuery.Alike Eq (HeldAlike W L) (Warehouse.disconnect k)
    (Warehouse.disconnect k') := by
  unfold Warehouse.disconnect
  refine Alike.world.bind fun s s' hs => ?_
  obtain ⟨link, world⟩ := s
  obtain ⟨link', world'⟩ := s'
  cases hs.link with
  | none => exact .answer rfl
  | some hl =>
    -- the connections are given up first, and closed whatever is answered
    refine (Alike.update fun t t' ht => ?_).seq fun _ => ?_
    · exact ⟨.none, ht.world⟩
    · exact (h.close _ _ hl).act.bind fun _ _ _ => .answer rfl

theorem execute_warehouse (sql : String) (params : List Sql.Literal) :
    LedgerQuery.Alike Eq (HeldAlike W L) (Warehouse.execute k sql params)
      (Warehouse.execute k' sql params) := by
  unfold Warehouse.execute
  refine Alike.world.bind fun s s' hs => ?_
  obtain ⟨link, world⟩ := s
  obtain ⟨link', world'⟩ := s'
  cases hs.link with
  | none => exact .answer rfl
  | some hl =>
    refine (h.execute _ _ hl sql _).act.seq fun result => ?_
    cases result with
    | ok rows => exact .answer rfl
    | error e => exact .answer rfl

/-- Alike connectors make alike warehouses of credentials that are told apart by the password
alone. -/
theorem backend {q : String} (hc : c' = { c with password := q }) :
    (Warehouse.backend k c).Alike (HeldAlike W L) (Warehouse.backend k' c') where
  provider := rfl
  target := by
    subst hc
    rfl
  catalog := by
    subst hc
    rfl
  isConnected s s' hs := by
    obtain ⟨link, world⟩ := s
    obtain ⟨link', world'⟩ := s'
    cases hs.link with
    | none => rfl
    | some => rfl
  connect := h.connect_warehouse
  disconnect := h.disconnect_warehouse
  execute := h.execute_warehouse

end Connector.Alike

end Warehouses

end LedgerQuery
