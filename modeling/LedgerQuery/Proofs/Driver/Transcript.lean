import Mathlib
import LedgerQuery.Proofs.Backend.Lifecycle
import LedgerQuery.Proofs.Driver.Runs

/-!
# What a warehouse backend says to its drivers

A backend over drivers starts a run for each connection, speaks with it in one dialogue, and stops
it. The dialogue opens a connection; if the run grants a session, statements follow in that session,
and at last the session is closed.

* `Dialogue`: the dialogues of a connection.
* `Conversing`: the runs of a host, each with its dialogue, and the one that is still going on.
* `Host.transcript`: all that is done to the runs at each point of the life of a backend.
-/

namespace LedgerQuery.Driver

/-! ### Dialogues -/

/-- The lines of requests that a run is sent one after another. -/
def linesOf (requests : List Request) : List String :=
  requests.mapIdx fun i r => r.line (Request.identifier i)

@[simp] theorem length_linesOf (requests : List Request) :
    (linesOf requests).length = requests.length :=
  List.length_mapIdx

theorem linesOf_concat (requests : List Request) (r : Request) :
    linesOf (requests ++ [r]) = linesOf requests ++ [r.line (Request.identifier requests.length)] :=
  List.mapIdx_concat

/-- The requests for statements in a session. -/
def statementsIn (session : String) (statements : List (String × List Json)) : List Request :=
  statements.map fun x => .execute session x.1 x.2

/-- What a connection says to a run that gives an answer to its opening: nothing behind the opening
unless a session is granted, and everything else in that session, whose closing comes last. -/
inductive Dialogue (c : Credentials) (answer : Except Error String) : List Request → Prop where
  | opening : Dialogue c answer [.openConnection c]
  | working {session : String} (statements : List (String × List Json)) :
    answer = .ok session →
      Dialogue c answer (.openConnection c :: statementsIn session statements)
  | closing {session : String} (statements : List (String × List Json)) :
    answer = .ok session →
      Dialogue c answer
        (.openConnection c :: statementsIn session statements ++ [.closeConnection session])

namespace Process

/-- What a run answers to the opening of a connection as the first thing that it is asked. -/
def opening (p : Process) (c : Credentials) : Except Error String :=
  (({ program := p.program, run := p.run } : Process).request (.openConnection c)).1.bind
    decodeSession

theorem opening_request (p : Process) (r : Request) (c : Credentials) :
    (p.request r).2.opening c = p.opening c := by
  rw [opening, request_program, request_run, opening]

/-- The run has read the lines of a dialogue. -/
def Speaks (c : Credentials) (p : Process) : Prop :=
  ∃ requests, p.received = linesOf requests ∧ Dialogue c (p.opening c) requests

/-- The run has granted the session and read nothing but statements in it since. -/
def Serves (c : Credentials) (session : String) (p : Process) : Prop :=
  p.opening c = .ok session ∧
    ∃ statements, p.received = linesOf (.openConnection c :: statementsIn session statements)

variable {c : Credentials} {session : String} {p : Process}

theorem Serves.speaks (h : p.Serves c session) : p.Speaks c := by
  obtain ⟨ha, statements, hr⟩ := h
  exact ⟨_, hr, .working statements ha⟩

theorem adds_eq {requests : List Request} (h : p.received = linesOf requests) (r : Request) :
    p.received ++ p.adds r = linesOf requests ∨
      p.received ++ p.adds r = linesOf (requests ++ [r]) := by
  rw [adds, h, length_linesOf]
  split
  · exact .inr (linesOf_concat requests r).symm
  · exact .inl (List.append_nil _)

/-- A run that is asked for one more statement in its session still serves the session. -/
theorem Serves.execute (h : p.Serves c session) (sql : String) (args : List Json) :
    (p.request (.execute session sql args)).2.Serves c session := by
  obtain ⟨ha, statements, hr⟩ := h
  refine ⟨by rw [opening_request, ha], ?_⟩
  rw [request_received]
  rcases adds_eq hr (.execute session sql args) with he | he
  · exact ⟨statements, he⟩
  · exact ⟨statements ++ [(sql, args)], by rw [he]; simp [statementsIn]⟩

/-- Closing the session ends the dialogue. -/
theorem Serves.close (h : p.Serves c session) :
    (p.request (.closeConnection session)).2.Speaks c := by
  obtain ⟨ha, statements, hr⟩ := h
  rw [Speaks, request_received, opening_request]
  rcases adds_eq hr (.closeConnection session) with he | he
  · exact ⟨_, he, .working statements ha⟩
  · exact ⟨_, he, .closing statements ha⟩

end Process

/-! ### Hosts -/

/-- The runs of a host have been sent what they have read, each of them a dialogue. The run of the
connection, if there is one, is the last one and still serves its session; all others have been
stopped. -/
structure Conversing (c : Credentials) (link : Option Link) (h : Host) : Prop where
  sequential : Sequential h.log h.runs.length link.isSome
  told : ∀ i p, h.runs[i]? = some p → p.run = i ∧ sentTo i h.log = p.received ∧ p.Speaks c
  serves : ∀ l ∈ link, l.run + 1 = h.runs.length ∧
    ∃ p, h.runs[l.run]? = some p ∧ p.Serves c l.session

theorem sentTo_sent (run : Nat) (lines : List String) (i : Nat) :
    sentTo i (lines.map (.sent run)) = if run = i then lines else [] := by
  induction lines with
  | nil => exact (ite_self []).symm
  | cons line lines ih =>
    have hone : sentTo i [.sent run line] = if run = i then [line] else [] := by
      by_cases h : run = i <;> simp [sentTo, h]
    rw [List.map_cons, ← List.singleton_append, sentTo_append, ih, hone]
    split <;> rfl

theorem Sequential.sents {log : List Event} {run : Nat} (h : Sequential log (run + 1) true)
    (lines : List String) : Sequential (log ++ lines.map (.sent run)) (run + 1) true := by
  induction lines generalizing log with
  | nil => simpa using h
  | cons line lines ih =>
    rw [List.map_cons, List.append_cons]
    exact ih (h.sent line)

namespace Host

/-- The next run of a program, which has not been asked anything yet. -/
def nextRun (h : Host) (program : Program) : Process :=
  { program, run := h.runs.length }

/-- The host after the next run has been started and asked for a connection. -/
def asked (h : Host) (program : Program) (c : Credentials) : Host :=
  let p := h.nextRun program
  { h with
    runs := h.runs ++ [(p.request (.openConnection c)).2]
    log := h.log ++ [.started p.run] ++ (p.adds (.openConnection c)).map (.sent p.run) }

/-- Opening a connection: a run is started and asked, and stopped unless it grants a session. -/
theorem open_eq (path : String) (c : Credentials) (h : Host) :
    «open» path c h =
      match h.workspace.program? path with
      | .error f => (.error (.notStarted f), h)
      | .ok program =>
        match (h.nextRun program).opening c with
        | .ok session => (.ok ⟨h.runs.length, session⟩, h.asked program c)
        | .error e => (.error e, (stop h.runs.length (h.asked program c)).2) := by
  simp only [«open», bind, StateT.bind, start_eq]
  cases h.workspace.program? path with
  | error f => rfl
  | ok program =>
    have hlast : (h.runs ++ [h.nextRun program])[h.runs.length]? = some (h.nextRun program) := by
      simp
    change StateT.bind (request h.runs.length (.openConnection c)) _
      { h with runs := h.runs ++ [h.nextRun program], log := h.log ++ [.started h.runs.length] } = _
    rw [StateT.bind, request_eq hlast, List.set_append_right _ _ (Nat.le_refl _), Nat.sub_self,
      List.set_cons_zero]
    have ha : (h.nextRun program).opening c =
        ((h.nextRun program).request (.openConnection c)).1.bind decodeSession := rfl
    simp only [bind, ha]
    generalize ((h.nextRun program).request (.openConnection c)).1.bind decodeSession = answer
    cases answer <;> rfl

theorem execute_state {l : Link} {h : Host} {p : Process} (hp : h.runs[l.run]? = some p)
    (sql : String) (args : List Json) :
    (execute l sql args h).2 = (request l.run (.execute l.session sql args) h).2 := by
  simp only [execute, bind, StateT.bind, request_eq hp]
  rfl

theorem close_state {l : Link} {h : Host} {p : Process} (hp : h.runs[l.run]? = some p) :
    (close l h).2 = (stop l.run (request l.run (.closeConnection l.session) h).2).2 := by
  simp only [close, bind, StateT.bind, request_eq hp]
  rfl

end Host

namespace Conversing

variable {c : Credentials} {h : Host}

/-- A request to the last run while it is alive: the run is sent the line of the request if it
listens, and nothing else changes. -/
theorem request {run : Nat} {p : Process} (hs : Sequential h.log h.runs.length true)
    (ht : ∀ i p, h.runs[i]? = some p → p.run = i ∧ sentTo i h.log = p.received ∧ p.Speaks c)
    (hlast : run + 1 = h.runs.length) (hp : h.runs[run]? = some p) (r : Request)
    (hspeaks : (p.request r).2.Speaks c) :
    let h' := (Host.request run r h).2
    Sequential h'.log h'.runs.length true ∧ h'.runs[run]? = some (p.request r).2 ∧
      ∀ i q, h'.runs[i]? = some q → q.run = i ∧ sentTo i h'.log = q.received ∧ q.Speaks c := by
  intro h'
  have hh : h' = { h with
      runs := h.runs.set run (p.request r).2, log := h.log ++ (p.adds r).map (.sent run) } := by
    simp only [h', Host.request_eq hp]
  have hlt : run < h.runs.length := by omega
  rw [hh]
  refine ⟨?_, by simp [hlt], fun i q hq => ?_⟩
  · rw [List.length_set, ← hlast]
    rw [← hlast] at hs
    exact hs.sents _
  · dsimp only at hq ⊢
    rw [sentTo_append, sentTo_sent]
    by_cases hi : run = i
    · subst hi
      obtain ⟨hrun, hsent, _⟩ := ht run p hp
      obtain rfl : (p.request r).2 = q := by simpa [hlt] using hq
      rw [if_pos rfl, hsent, p.request_received, p.request_run]
      exact ⟨hrun, rfl, hspeaks⟩
    · rw [List.getElem?_set_ne hi] at hq
      rw [if_neg hi, List.append_nil]
      exact ht i q hq

/-- A run that has just been started and asked for a connection has read the line of that. -/
theorem asked (hc : Conversing c none h) (program : Program) :
    Sequential (h.asked program c).log (h.asked program c).runs.length true ∧
      ∀ i q, (h.asked program c).runs[i]? = some q →
        q.run = i ∧ sentTo i (h.asked program c).log = q.received ∧ q.Speaks c := by
  have hlength : (h.asked program c).runs.length = h.runs.length + 1 := by simp [Host.asked]
  refine ⟨?_, fun i q hq => ?_⟩
  · rw [hlength]
    exact hc.sequential.started.sents _
  have hlog : sentTo i (h.asked program c).log = sentTo i h.log ++
      if h.runs.length = i then (h.nextRun program).adds (.openConnection c) else [] := by
    rw [Host.asked, sentTo_append, sentTo_append, sentTo_sent]
    exact congrArg (· ++ _) (List.append_nil _)
  rw [hlog]
  rw [Host.asked] at hq
  by_cases hi : h.runs.length = i
  · -- the new run, of which the log before tells nothing
    subst hi
    obtain rfl : ((h.nextRun program).request (.openConnection c)).2 = q := by simpa using hq
    rw [if_pos rfl, hc.sequential.sentTo_eq_nil (Nat.le_refl _), Process.request_run]
    refine ⟨rfl, by rw [Process.request_received]; rfl, [.openConnection c], ?_, .opening⟩
    rw [Process.request_received]
    rfl
  · rw [if_neg hi, List.append_nil]
    have hlt : i < h.runs.length := by
      have := (List.getElem?_eq_some_iff.mp hq).1
      simp at this
      omega
    rw [List.getElem?_append_left hlt] at hq
    exact hc.told i q hq

/-- Stopping the last run of a host leaves no connection. -/
theorem stop {run : Nat} (hs : Sequential h.log h.runs.length true)
    (ht : ∀ i p, h.runs[i]? = some p → p.run = i ∧ sentTo i h.log = p.received ∧ p.Speaks c)
    (hlast : run + 1 = h.runs.length) : Conversing c none (Host.stop run h).2 := by
  rw [Host.stop_eq]
  refine ⟨?_, fun i p hp => ?_, nofun⟩
  · dsimp only
    rw [← hlast] at hs ⊢
    exact hs.stopped
  · have hsame : sentTo i (h.log ++ [.stopped run]) = sentTo i h.log := by
      rw [sentTo_append]
      exact List.append_nil _
    rw [hsame]
    exact ht i p hp

end Conversing

/-- A backend over drivers leads one dialogue after another. -/
theorem steps_conversing (path : Option String) (c : Credentials) :
    Warehouse.Steps (Connector.ofDriver path) c (Conversing c) where
  ask hc := hc
  opened {h l h'} hc ho := by
    cases path with
    | none => cases (Prod.mk.inj ho).1
    | some path =>
      have hopen : Host.open path c h = (.ok l, h') := ho
      rw [Host.open_eq] at hopen
      split at hopen
      · cases (Prod.mk.inj hopen).1
      · next program _ =>
        split at hopen
        · next session hsession =>
          obtain ⟨hl, rfl⟩ := Prod.mk.inj hopen
          obtain rfl := Except.ok.inj hl
          obtain ⟨hseq, htold⟩ := hc.asked program
          refine ⟨hseq, htold, fun l hl => ?_⟩
          obtain rfl := Option.some.inj hl
          refine ⟨by simp [Host.asked], ((h.nextRun program).request (.openConnection c)).2,
            by simp [Host.asked], ?_, [], ?_⟩
          · rw [Process.opening_request, hsession]
          · rw [Process.request_received]
            rfl
        · cases (Prod.mk.inj hopen).1
  refused {h e h'} hc ho := by
    cases path with
    | none =>
      obtain ⟨-, rfl⟩ := Prod.mk.inj ho
      exact hc
    | some path =>
      have hopen : Host.open path c h = (.error e, h') := ho
      rw [Host.open_eq] at hopen
      split at hopen
      · obtain ⟨-, rfl⟩ := Prod.mk.inj hopen
        exact hc
      · next program _ =>
        split at hopen
        · cases (Prod.mk.inj hopen).1
        · obtain ⟨-, rfl⟩ := Prod.mk.inj hopen
          obtain ⟨hseq, htold⟩ := hc.asked program
          exact Conversing.stop hseq htold (by simp [Host.asked])
  execute {h l} sql args hc := by
    obtain ⟨hlast, p, hp, hserves⟩ := hc.serves l rfl
    have hserves' := hserves.execute sql args
    obtain ⟨hseq, hp', htold⟩ :=
      Conversing.request hc.sequential hc.told hlast hp (.execute l.session sql args) hserves'.speaks
    have hstate : ((Connector.ofDriver path).execute l sql args h).2 =
        (Host.request l.run (.execute l.session sql args) h).2 := by
      rw [← Host.execute_state hp]
      rfl
    rw [hstate]
    refine ⟨hseq, htold, fun l' hl => ?_⟩
    obtain rfl := Option.some.inj hl
    refine ⟨?_, _, hp', hserves'⟩
    rw [Host.request_eq hp, hlast]
    simp
  close {h l} hc := by
    obtain ⟨hlast, p, hp, hserves⟩ := hc.serves l rfl
    obtain ⟨hseq, _, htold⟩ := Conversing.request hc.sequential hc.told hlast hp
      (.closeConnection l.session) hserves.close
    have hstate : ((Connector.ofDriver path).close l h).2 =
        (Host.stop l.run (Host.request l.run (.closeConnection l.session) h).2).2 :=
      Host.close_state hp
    rw [hstate]
    refine Conversing.stop hseq htold ?_
    rw [Host.request_eq hp, hlast]
    simp

/-- At each point of the life of a backend over drivers: one run is alive at most, namely that of the
connection, and every other one that was started has been stopped once and sent nothing since; once
the backend is dropped none is alive. What a run has been sent are the lines of one dialogue: an
opening, and only if the run grants a session, statements in that session, and its closing at the
end. -/
theorem Host.transcript (path : Option String) (c : Credentials) (w : Workspace)
    {holder : Backend.Holder} {s : Held Link Host}
    (h : (Warehouse.backend (Connector.ofDriver path) c).Reaches { world := { workspace := w } }
      holder s) :
    let log := s.world.log
    (∀ before, before <+: log → ∀ run run', .started run ∈ before → .started run' ∈ before →
      .stopped run ∉ before → .stopped run' ∉ before → run = run') ∧
    (∀ run, .started run ∈ log → log.count (.started run) = 1 ∧
      log.count (.stopped run) = if s.link.map Link.run = some run then 0 else 1) ∧
    (holder = .nobody → s.link = none) ∧
    (∀ before run after, log = before ++ .stopped run :: after → ∀ line, .sent run line ∉ after) ∧
    ∀ run, .started run ∈ log → ∃ p requests, s.world.runs[run]? = some p ∧
      sentTo run log = linesOf requests ∧ Dialogue c (p.opening c) requests := by
  intro log
  have hc : Conversing c s.link s.world :=
    (steps_conversing path c).invariant h ⟨.nil, by simp, nofun⟩
  have hseq := hc.sequential
  refine ⟨fun before hb run run' hr hr' hs hs' => ?_, fun run hr => ?_, ?_,
    fun before run after hl line => hseq.not_sent_behind hl line, fun run hr => ?_⟩
  · obtain ⟨n, alive, hbefore⟩ := hseq.of_prefix hb
    exact hbefore.unique_alive hr hr' hs hs'
  · have hlt := (hseq.mem_started_iff run).mp hr
    refine ⟨by rw [hseq.count_started, if_pos hlt], ?_⟩
    rw [hseq.count_stopped]
    cases hl : s.link with
    | none => simp [hlt]
    | some l =>
      have hlast := (hc.serves l hl).1
      have hrun : l.run = run ↔ run + 1 = s.world.runs.length := by omega
      by_cases hcase : run + 1 = s.world.runs.length <;> simp [hlt, hrun, hcase]
  · rintro rfl
    exact Warehouse.link_of_dropped h
  · have hlt := (hseq.mem_started_iff run).mp hr
    obtain ⟨_, hsent, requests, hlines, hdialogue⟩ :=
      hc.told run s.world.runs[run] (List.getElem?_eq_getElem hlt)
    exact ⟨_, requests, List.getElem?_eq_getElem hlt, hsent.trans hlines, hdialogue⟩

/-- A driver that grants a session and ends at the next request without an answer. -/
def fleeting : Program where
  react _ requests :=
    if requests.length = 1 then
      { lines := [.text "\x7b\"id\":\"request-0\",\"success\":true,\"result\":\x7b\"session_id\":\"s\"\x7d\x7d"] }
    else { goesOn := false }

/-- A life over that driver: its session is not closed any more, but its run is stopped. -/
theorem Host.transcript_fleeting :
    ∃ s, (Warehouse.backend (Connector.ofDriver (some "./driver")) default).Reaches
        { world := { workspace := ({} : Workspace).add "driver" (.program [] fleeting) } } .nobody s ∧
      sentTo 0 s.world.log = linesOf [.openConnection default, .execute "s" "SELECT 1" []] ∧
      s.world.log.count (.stopped 0) = 1 ∧ s.link = none := by
  have hfresh : (Warehouse.backend (Connector.ofDriver (some "./driver")) default).Reaches
      { world := { workspace := ({} : Workspace).add "driver" (.program [] fleeting) } } .user
      { world := { workspace := ({} : Workspace).add "driver" (.program [] fleeting) } } := .fresh
  have h := Backend.Reaches.dropped
    (.operate (.execute "SELECT 1" []) (.operate .connect hfresh nofun) nofun)
  obtain ⟨_, hcounts, hlink, _⟩ := transcript _ _ _ h
  refine ⟨_, h, ?_, ?_, hlink rfl⟩
  · cbv
  · rw [(hcounts 0 (List.elem_iff.mp (by cbv))).2, hlink rfl]
    rfl

end LedgerQuery.Driver
