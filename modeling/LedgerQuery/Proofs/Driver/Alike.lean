import Mathlib.Data.List.Forall2
import LedgerQuery.Proofs.Backend.Alike
import LedgerQuery.Proofs.Driver.Runs

/-!
# Drivers that are told different credentials

Two hosts run their drivers side by side, each for credentials of its own. The credentials are sent
when a connection is opened and at no other time. If the drivers react in the same way whichever
credentials they are sent, all runs go alike: the same is started, answered and stopped, and the
lines that are sent are the same but for those that open a connection.

* `SameLine`: a line is the same for both, or opens a connection.
* `Host.Alike`: two hosts with alike programs, runs and logs.
* `Host.request_alike`: alike requests are answered alike.
* `Host.alike_fresh`: a host whose drivers do not look at credentials is alike to itself.
* `Connector.ofDriver_alike`: the connectors over two alike hosts are alike.
-/

namespace LedgerQuery.Driver

/-! ### Lists side by side -/

section Lists

variable {α β : Type} {R : α → β → Prop} {xs : List α} {ys : List β}

theorem forall₂_getElem? (h : List.Forall₂ R xs ys) (i : Nat) : Option.Rel R xs[i]? ys[i]? := by
  induction h generalizing i with
  | nil => exact .none
  | cons hxy _ ih =>
    cases i with
    | zero => exact .some hxy
    | succ i => exact ih i

theorem forall₂_set (h : List.Forall₂ R xs ys) {x : α} {y : β} (hxy : R x y) (i : Nat) :
    List.Forall₂ R (xs.set i x) (ys.set i y) := by
  induction h generalizing i with
  | nil => exact .nil
  | cons hhead htail ih =>
    cases i with
    | zero => exact .cons hxy htail
    | succ i => exact .cons hhead (ih i)

theorem forall₂_concat (h : List.Forall₂ R xs ys) {x : α} {y : β} (hxy : R x y) :
    List.Forall₂ R (xs ++ [x]) (ys ++ [y]) :=
  List.rel_append h (.cons hxy .nil)

end Lists

/-! ### Lines and runs -/

variable (c c' : Credentials)

/-- The line is the same, or it opens a connection with the one credentials or the other. -/
inductive SameLine : String → String → Prop where
  | same (line : String) : SameLine line line
  | opening (id : String) :
    SameLine ((Request.openConnection c).line id) ((Request.openConnection c').line id)

/-- The events are the same but for what opens a connection. -/
inductive Event.Alike : Event → Event → Prop where
  | started (run : Nat) : Alike (.started run) (.started run)
  | sent (run : Nat) {line line' : String} :
    SameLine c c' line line' → Alike (.sent run line) (.sent run line')
  | stopped (run : Nat) : Alike (.stopped run) (.stopped run)

/-- The requests are written alike, whatever their identifier. -/
def Request.Alike (r r' : Request) : Prop :=
  ∀ id, SameLine c c' (r.line id) (r'.line id)

/-- The programs react in the same way to alike lines. -/
def Program.Alike (p p' : Program) : Prop :=
  ∀ run requests requests', List.Forall₂ (SameLine c c') requests requests' →
    p.react run requests = p'.react run requests'

/-- The runs have read alike lines and said the same so far, and their programs are alike. -/
structure Process.Alike (p p' : Process) : Prop where
  program : p.program.Alike c c' p'.program
  run : p.run = p'.run
  received : List.Forall₂ (SameLine c c') p.received p'.received
  unread : p.unread = p'.unread
  isListening : p.isListening = p'.isListening

/-- Both programs are there and alike, or neither can be started, for the same reason. -/
inductive FoundAlike : Except StartFault Program → Except StartFault Program → Prop where
  | ok {p p' : Program} : p.Alike c c' p' → FoundAlike (.ok p) (.ok p')
  | error (f : StartFault) : FoundAlike (.error f) (.error f)

/-- The hosts have alike programs, runs and logs. -/
structure Host.Alike (h h' : Host) : Prop where
  program? : ∀ path, FoundAlike c c' (h.workspace.program? path) (h'.workspace.program? path)
  runs : List.Forall₂ (Process.Alike c c') h.runs h'.runs
  log : List.Forall₂ (Event.Alike c c') h.log h'.log

variable {c c'}

theorem Request.alike_refl (r : Request) : r.Alike c c' r := fun _ => .same _

theorem Request.openConnection_alike :
    (Request.openConnection c).Alike c c' (Request.openConnection c') := fun id => .opening id

namespace Process.Alike

variable {p p' : Process} (h : p.Alike c c' p') {r r' : Request} (hr : r.Alike c c' r')

include h hr

/-- Alike requests add alike lines to what a run has read. -/
theorem adds : List.Forall₂ (SameLine c c') (p.adds r) (p'.adds r') := by
  rw [Process.adds, Process.adds, h.isListening, h.received.length_eq]
  split
  · exact .cons (hr _) .nil
  · exact .nil

/-- Alike requests are answered alike by alike runs. -/
theorem request : (p.request r).1 = (p'.request r').1 ∧
    (p.request r).2.Alike c c' (p'.request r').2 := by
  have hlisten := h.isListening
  unfold Process.request Process.requestAs Process.send
  rw [h.received.length_eq, hlisten]
  cases hl : p'.isListening with
  | false => exact ⟨rfl, h⟩
  | true =>
    have hreceived := forall₂_concat h.received (hr (Request.identifier p'.received.length))
    -- what has been read is alike, so the reaction is the same
    have hreact := h.program p.run _ _ hreceived
    rw [h.run] at hreact
    simp only [if_true, h.run, hreact, h.unread]
    exact ⟨trivial, h.program, rfl, hreceived, rfl, rfl⟩

end Process.Alike

/-! ### Hosts -/

namespace Host

theorem start_alike (path : String) :
    LedgerQuery.Alike Eq (Host.Alike c c') (start path) (start path) := by
  intro h h' hs
  have hfound := hs.program? path
  rw [start_eq, start_eq]
  generalize h.workspace.program? path = found at hfound
  generalize h'.workspace.program? path = found' at hfound
  cases hfound with
  | error f => exact ⟨rfl, hs⟩
  | ok hp =>
    dsimp only
    rw [hs.runs.length_eq]
    refine ⟨rfl, hs.program?, ?_, ?_⟩
    · exact forall₂_concat hs.runs ⟨hp, rfl, .nil, rfl, rfl⟩
    · exact forall₂_concat hs.log (.started _)

/-- A run that is not there is sent nothing. -/
theorem request_of_none {run : Nat} {h : Host} (hp : h.runs[run]? = none) (r : Request) :
    request run r h = (.error .notWritten, h) := by
  simp only [request, bind, StateT.bind, get, getThe, MonadStateOf.get, StateT.get, pure, hp]
  rfl

/-- Alike requests are answered alike. -/
theorem request_alike (run : Nat) {r r' : Request} (hr : r.Alike c c' r') :
    LedgerQuery.Alike Eq (Host.Alike c c') (request run r) (request run r') := by
  intro h h' hs
  have hrun := forall₂_getElem? hs.runs run
  generalize hp : h.runs[run]? = found at hrun
  generalize hp' : h'.runs[run]? = found' at hrun
  cases hrun with
  | none =>
    rw [request_of_none hp, request_of_none hp']
    exact ⟨rfl, hs⟩
  | some ha =>
    obtain ⟨hanswer, hbehind⟩ := ha.request hr
    rw [request_eq hp, request_eq hp']
    refine ⟨hanswer, hs.program?, forall₂_set hs.runs hbehind run, ?_⟩
    refine List.rel_append hs.log ?_
    exact List.rel_map (fun _ _ hline => .sent run hline) (ha.adds hr)

theorem stop_alike (run : Nat) :
    LedgerQuery.Alike Eq (Host.Alike c c') (stop run) (stop run) := by
  intro h h' hs
  rw [stop_eq, stop_eq]
  exact ⟨rfl, hs.program?, hs.runs, forall₂_concat hs.log (.stopped run)⟩

/-- Connections are opened alike: each host sends the credentials of its own. -/
theorem open_alike (path : String) :
    LedgerQuery.Alike Eq (Host.Alike c c') (Host.open path c) (Host.open path c') := by
  refine (start_alike path).seq fun result => ?_
  cases result with
  | error e => exact .answer rfl
  | ok run =>
    -- the one request that the credentials are part of
    refine (request_alike run Request.openConnection_alike).seq fun result => ?_
    cases result.bind decodeSession with
    | ok session => exact .answer rfl
    | error e => exact (stop_alike run).seq fun _ => .answer rfl

theorem execute_alike (l : Link) (sql : String) (args : List Json) :
    LedgerQuery.Alike Eq (Host.Alike c c') (Host.execute l sql args) (Host.execute l sql args) :=
  (request_alike l.run (Request.alike_refl _)).seq fun _ => .answer rfl

theorem close_alike (l : Link) :
    LedgerQuery.Alike Eq (Host.Alike c c') (Host.close l) (Host.close l) := by
  refine (request_alike l.run (Request.alike_refl _)).seq fun _ => ?_
  exact (stop_alike l.run).seq fun _ => .answer rfl

/-! ### Drivers that do not look at credentials -/

theorem mem_entries_of_find? {w : Workspace} {path : String} {bytes : List UInt8} {p : Program}
    (h : w.find? path = some (.program bytes p)) : ∃ place, (place, .program bytes p) ∈ w.entries := by
  simp only [Workspace.find?, Option.bind_eq_bind, Option.bind_eq_some_iff] at h
  obtain ⟨place, -, hentry⟩ := h
  unfold Workspace.entry? at hentry
  split at hentry
  · cases hentry
  · obtain ⟨before, behind, hl, -⟩ := List.lookup_eq_some_iff.mp hentry
    exact ⟨place, by simp [hl]⟩

/-- What can be started is a program of the workspace. -/
theorem mem_entries_of_program? {w : Workspace} {path : String} {p : Program}
    (h : w.program? path = .ok p) : ∃ place bytes, (place, .program bytes p) ∈ w.entries := by
  unfold Workspace.program? at h
  split at h
  · split at h
    · cases h
    · next bytes p' hf =>
      cases h
      obtain ⟨place, hm⟩ := mem_entries_of_find? hf
      exact ⟨place, bytes, hm⟩
    · cases h
  · split at h
    · next p' hs =>
      cases h
      obtain ⟨dir, -, hd⟩ := List.exists_of_findSome?_eq_some hs
      split at hd
      · next bytes p'' hf =>
        cases hd
        obtain ⟨place, hm⟩ := mem_entries_of_find? hf
        exact ⟨place, bytes, hm⟩
      · cases hd
    · cases h

/-- A host whose drivers do not look at the difference is alike to itself. -/
theorem alike_fresh {w : Workspace}
    (h : ∀ place bytes p, (place, .program bytes p) ∈ w.entries → p.Alike c c' p) :
    Host.Alike c c' { workspace := w } { workspace := w } := by
  refine ⟨fun path => ?_, .nil, .nil⟩
  show FoundAlike c c' (w.program? path) (w.program? path)
  cases hp : w.program? path with
  | error f => exact .error f
  | ok p =>
    obtain ⟨place, bytes, hm⟩ := mem_entries_of_program? hp
    exact .ok (h place bytes p hm)

end Host

end LedgerQuery.Driver

namespace LedgerQuery

open Driver (Credentials Host Link)

/-- The connectors over two alike hosts are alike, with the same connections. -/
theorem Connector.ofDriver_alike (c c' : Credentials) (path : Option String) :
    (Connector.ofDriver path).Alike (Host.Alike c c') Eq c (Connector.ofDriver path) c' where
  isAvailable := .answer rfl
  connect := by
    cases path with
    | none => exact .answer (.error _ _)
    | some path =>
      intro h h' hs
      obtain ⟨hr, hs⟩ := Host.open_alike path h h' hs
      refine ⟨?_, hs⟩
      -- hosts give the same reason too, which is more than is asked for
      show OpenedAlike Eq (Host.open path c h).1 (Host.open path c' h').1
      rw [hr]
      cases (Host.open path c' h').1 with
      | ok link => exact .ok rfl
      | error e => exact .error e e
  execute link link' hl sql args := by
    subst hl
    exact (Host.execute_alike link sql args).seq fun _ => .answer rfl
  close link link' hl := by
    subst hl
    intro h h' hs
    exact ⟨trivial, (Host.close_alike link h h' hs).2⟩

end LedgerQuery
