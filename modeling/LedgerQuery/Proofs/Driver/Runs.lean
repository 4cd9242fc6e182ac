import LedgerQuery.Driver.Host

/-!
# What is done to the runs of drivers

Each thing done to a run is recorded in the log of the host. If runs are started only when no other
run is left, and requests and stops go to the last run alone, the log consists of the stories of the
runs one behind another.

* `Sequential`: logs of that kind, with the number of runs and whether the last one is alive.
* `Sequential.unique_alive`, `Sequential.count_stopped`, `Sequential.not_sent_behind`: one run is
  alive at most, every other one has been stopped once, and nothing is sent to it afterwards.
* `Host.start_eq`, `Host.request_eq`: what starting a driver and a request do to the host.
-/

namespace LedgerQuery.Driver

/-! ### Logs -/

/-- The lines that are sent to a run. -/
def sentTo (run : Nat) (log : List Event) : List String :=
  log.filterMap fun
    | .sent r line => if r = run then some line else none
    | _ => none

theorem sentTo_append (run : Nat) (log log' : List Event) :
    sentTo run (log ++ log') = sentTo run log ++ sentTo run log' :=
  List.filterMap_append

/-- A run is started only when no other one is alive, and all that is done to a run is done to the
last one while it is alive. The number counts the runs, and the truth value tells whether the last
one is alive. -/
inductive Sequential : List Event → Nat → Bool → Prop where
  | nil : Sequential [] 0 false
  | started {log : List Event} {n : Nat} :
    Sequential log n false → Sequential (log ++ [.started n]) (n + 1) true
  | sent {log : List Event} {n : Nat} (line : String) :
    Sequential log (n + 1) true → Sequential (log ++ [.sent n line]) (n + 1) true
  | stopped {log : List Event} {n : Nat} :
    Sequential log (n + 1) true → Sequential (log ++ [.stopped n]) (n + 1) false

namespace Sequential

variable {log : List Event} {n : Nat} {alive : Bool}

/-- What comes before an event is sequential itself. -/
theorem of_prefix (h : Sequential log n alive) {before : List Event} (hb : before <+: log) :
    ∃ n alive, Sequential before n alive := by
  have hlast : ∀ {log : List Event} {e : Event} {n : Nat} {alive : Bool},
      Sequential (log ++ [e]) n alive → (before <+: log → ∃ n alive, Sequential before n alive) →
        before <+: log ++ [e] → ∃ n alive, Sequential before n alive := by
    intro log e n alive h ih hb
    rcases List.prefix_concat_iff.mp hb with rfl | hb
    · exact ⟨n, alive, h⟩
    · exact ih hb
  induction h with
  | nil => exact ⟨0, false, by rw [List.prefix_nil.mp hb]; exact .nil⟩
  | started h ih => exact hlast h.started ih hb
  | sent line h ih => exact hlast (h.sent line) ih hb
  | stopped h ih => exact hlast h.stopped ih hb

/-- Every run is started once. -/
theorem count_started (h : Sequential log n alive) (run : Nat) :
    log.count (.started run) = if run < n then 1 else 0 := by
  induction h with
  | nil => simp
  | @started log n _ ih =>
    rw [List.count_append, ih, List.count_singleton]
    by_cases hr : n = run
    · subst hr
      simp
    · have hlt : run < n + 1 ↔ run < n := by omega
      simp [hr, hlt]
  | sent _ _ ih | stopped _ ih => simpa [List.count_append] using ih

/-- Every run that is not alive any more is stopped once. -/
theorem count_stopped (h : Sequential log n alive) (run : Nat) :
    log.count (.stopped run) = if run < n ∧ ¬ (alive = true ∧ run + 1 = n) then 1 else 0 := by
  induction h with
  | nil => simp
  | @started log n _ ih =>
    have hbefore : log.count (.stopped run) = if run < n then 1 else 0 := by simpa using ih
    have hnone : [Event.started n].count (.stopped run) = 0 := by simp
    rw [List.count_append, hbefore, hnone]
    by_cases hr : run < n
    · have hafter : run < n + 1 ∧ ¬ (true = true ∧ run + 1 = n + 1) :=
        ⟨by omega, fun h => by omega⟩
      rw [if_pos hr, if_pos hafter]
    · have hafter : ¬ (run < n + 1 ∧ ¬ (true = true ∧ run + 1 = n + 1)) :=
        fun h => h.2 ⟨rfl, by omega⟩
      rw [if_neg hr, if_neg hafter]
  | sent _ _ ih => simpa [List.count_append] using ih
  | @stopped log n _ ih =>
    rw [List.count_append, ih, List.count_singleton]
    by_cases hr : n = run
    · subst hr
      simp
    · have hr' : ¬ run = n := fun h => hr h.symm
      simp [hr, hr']

theorem mem_started_iff (h : Sequential log n alive) (run : Nat) :
    .started run ∈ log ↔ run < n := by
  rw [← List.count_pos_iff, h.count_started]
  split <;> simp_all

theorem mem_stopped_iff (h : Sequential log n alive) (run : Nat) :
    .stopped run ∈ log ↔ run < n ∧ ¬ (alive = true ∧ run + 1 = n) := by
  rw [← List.count_pos_iff, h.count_stopped]
  split <;> simp_all

/-- One run is alive at most: two that have been started and not been stopped are the same. -/
theorem unique_alive (h : Sequential log n alive) {run run' : Nat} (hr : .started run ∈ log)
    (hr' : .started run' ∈ log) (hs : .stopped run ∉ log) (hs' : .stopped run' ∉ log) :
    run = run' := by
  rw [h.mem_started_iff] at hr hr'
  rw [h.mem_stopped_iff] at hs hs'
  have hlast := Decidable.not_not.mp fun hn => hs ⟨hr, hn⟩
  have hlast' := Decidable.not_not.mp fun hn => hs' ⟨hr', hn⟩
  omega

/-- A run is sent something only while it is the last one and alive. -/
theorem of_sent {run : Nat} {line : String} (h : Sequential (log ++ [.sent run line]) n alive) :
    Sequential log (run + 1) true := by
  generalize hlast : log ++ [Event.sent run line] = log' at h
  cases h with
  | nil => simp at hlast
  | sent line' h =>
    obtain ⟨rfl, he⟩ := List.append_inj' hlast rfl
    simp only [List.cons.injEq, Event.sent.injEq, and_true] at he
    obtain ⟨rfl, _⟩ := he
    exact h
  | _ => simpa using (List.append_inj' hlast rfl).2

/-- Nothing is sent to a run that has been stopped. -/
theorem not_sent_behind (h : Sequential log n alive) {before after : List Event} {run : Nat}
    (hl : log = before ++ .stopped run :: after) (line : String) : .sent run line ∉ after := by
  intro hm
  obtain ⟨between, rest, rfl⟩ := List.append_of_mem hm
  have hprefix : (before ++ .stopped run :: between) ++ [.sent run line] <+: log :=
    ⟨rest, by simp [hl]⟩
  obtain ⟨n', alive', h'⟩ := h.of_prefix hprefix
  have hstopped := (h'.of_sent.mem_stopped_iff run).mp (by simp)
  exact hstopped.2 ⟨rfl, rfl⟩

/-- A run that has not been started has been sent nothing. -/
theorem sentTo_eq_nil (h : Sequential log n alive) {run : Nat} (hr : n ≤ run) :
    sentTo run log = [] := by
  induction h with
  | nil => rfl
  | started _ ih | stopped _ ih =>
    rw [sentTo_append, ih (by omega)]
    rfl
  | @sent log n line _ ih =>
    rw [sentTo_append, ih (by omega)]
    simp [sentTo, show n ≠ run by omega]

end Sequential

/-! ### Steps -/

namespace Process

variable (p : Process) (r : Request)

/-- The lines that a request adds to those which the driver has read: its own, if it listens. -/
def adds : List String :=
  if p.isListening then [r.line (Request.identifier p.received.length)] else []

theorem request_received : (p.request r).2.received = p.received ++ p.adds r := by
  rw [request, requestAs, send, adds]
  cases p.isListening <;> simp

theorem request_program : (p.request r).2.program = p.program := by
  rw [request, requestAs, send]
  cases p.isListening <;> rfl

theorem request_run : (p.request r).2.run = p.run := by
  rw [request, requestAs, send]
  cases p.isListening <;> rfl

end Process

namespace Host

theorem start_eq (path : String) (h : Host) :
    start path h =
      match h.workspace.program? path with
      | .error f => (.error (.notStarted f), h)
      | .ok program =>
        (.ok h.runs.length,
          { h with
            runs := h.runs ++ [{ program, run := h.runs.length }]
            log := h.log ++ [.started h.runs.length] }) := by
  simp only [start, bind, StateT.bind, get, getThe, MonadStateOf.get, StateT.get, pure]
  cases h.workspace.program? path <;> rfl

theorem request_eq {run : Nat} {h : Host} {p : Process} (hp : h.runs[run]? = some p)
    (r : Request) :
    request run r h =
      ((p.request r).1,
        { h with
          runs := h.runs.set run (p.request r).2
          log := h.log ++ (p.adds r).map (.sent run) }) := by
  simp only [request, bind, StateT.bind, get, getThe, MonadStateOf.get, StateT.get, pure, hp]
  rw [p.request_received, List.drop_left]
  rfl

theorem stop_eq (run : Nat) (h : Host) :
    stop run h = ((), { h with log := h.log ++ [.stopped run] }) := rfl

end Host

end LedgerQuery.Driver
