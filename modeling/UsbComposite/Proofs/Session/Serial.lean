import Mathlib.Data.List.Forall2
import UsbComposite.Proofs.Session.Trace

/-!
# Tasks are serialised

The engine's task is run from three places: by an interrupt, by a run in turn, and by a run in turn
that had to wait for a holder. The log shows each run as a beginning, with a number, and an end.

* `Allowed` says which log may precede a beginning, an end, a taken and a released token;
* `allowedAll_of_moves`: in every sequence of moves each occurrence is allowed by those before it;
* `served_step`: each step shows as many runs as were called for in it, and those called for under a
  hold come behind its release.

The invariant that carries the first part ties the log so far to the session: as many beginnings and
ends as the engine has counted tasks, and one taken token more than released ones exactly while the
token is held.
-/

namespace UsbComposite

/-! ### Counting in logs -/

namespace Occurrence

/-- The number of the task that begins with an occurrence. -/
def taskNumber? : Occurrence → Option Nat
  | .event (.taskBegan number) => some number
  | _ => none

/-- Whether an occurrence begins or ends a task, or takes or releases the token. -/
def isMark : Occurrence → Bool
  | .event (.taskBegan _) | .event .taskEnded | .taken | .released => true
  | _ => false

/-- The numbers of the tasks that begin in a log, in order. -/
def taskNumbers (log : List Occurrence) : List Nat :=
  log.filterMap taskNumber?

/-- How many tasks begin in a log. -/
def begun (log : List Occurrence) : Nat :=
  (taskNumbers log).length

/-- How many tasks end in a log. -/
def ended (log : List Occurrence) : Nat :=
  log.count (.event .taskEnded)

/-- How many holds take the token in a log. -/
def holdsTaken (log : List Occurrence) : Nat :=
  log.count .taken

/-- How many holds release the token in a log. -/
def holdsReleased (log : List Occurrence) : Nat :=
  log.count .released

@[simp] theorem taskNumbers_append (log rest : List Occurrence) :
    taskNumbers (log ++ rest) = taskNumbers log ++ taskNumbers rest :=
  List.filterMap_append

@[simp] theorem begun_append (log rest : List Occurrence) :
    begun (log ++ rest) = begun log + begun rest := by
  simp only [begun, taskNumbers_append, List.length_append]

@[simp] theorem ended_append (log rest : List Occurrence) :
    ended (log ++ rest) = ended log + ended rest :=
  List.count_append

@[simp] theorem holdsTaken_append (log rest : List Occurrence) :
    holdsTaken (log ++ rest) = holdsTaken log + holdsTaken rest :=
  List.count_append

@[simp] theorem holdsReleased_append (log rest : List Occurrence) :
    holdsReleased (log ++ rest) = holdsReleased log + holdsReleased rest :=
  List.count_append

/-- A log without marks counts nowhere. -/
theorem counts_of_quiet {log : List Occurrence} (quiet : ∀ o ∈ log, o.isMark = false) :
    begun log = 0 ∧ ended log = 0 ∧ holdsTaken log = 0 ∧ holdsReleased log = 0 := by
  refine ⟨?_, ?_, ?_, ?_⟩
  · rw [begun, taskNumbers, List.length_eq_zero_iff, List.filterMap_eq_nil_iff]
    intro o ho
    have hmark := quiet o ho
    unfold taskNumber?
    split
    · exact absurd hmark (by simp [isMark])
    · rfl
  all_goals
    apply List.count_eq_zero_of_not_mem
    intro hmem
    exact absurd (quiet _ hmem) (by simp [isMark])

/-! ### What may come next -/

/-- Whether an occurrence may come behind the log `before`. A task begins only when every earlier
task has ended and nobody holds the token, and it is the next by number; a task ends only while
exactly one has not ended; and a token is taken only while nobody holds it and no task runs. -/
def Allowed (before : List Occurrence) : Occurrence → Prop
  | .event (.taskBegan number) =>
    begun before = ended before ∧ holdsTaken before = holdsReleased before ∧
      number = begun before + 1
  | .event .taskEnded => begun before = ended before + 1
  | .taken => begun before = ended before ∧ holdsTaken before = holdsReleased before
  | .released => begun before = ended before ∧ holdsTaken before = holdsReleased before + 1
  | _ => True

/-- Whether every occurrence of a log may come behind `before` and those in front of it. -/
def AllowedAll (before : List Occurrence) : List Occurrence → Prop
  | [] => True
  | occurrence :: rest => Allowed before occurrence ∧ AllowedAll (before ++ [occurrence]) rest

theorem allowedAll_append {before log rest : List Occurrence} (h : AllowedAll before log)
    (h' : AllowedAll (before ++ log) rest) : AllowedAll before (log ++ rest) := by
  induction log generalizing before with
  | nil => rwa [List.append_nil] at h'
  | cons occurrence log ih =>
    refine ⟨h.1, ih h.2 ?_⟩
    rwa [List.append_assoc, List.singleton_append]

/-- Anything may precede a log without marks. -/
theorem allowedAll_of_quiet {log : List Occurrence} (quiet : ∀ o ∈ log, o.isMark = false)
    (before : List Occurrence) : AllowedAll before log := by
  induction log generalizing before with
  | nil => trivial
  | cons occurrence log ih =>
    refine ⟨?_, ih (fun o ho => quiet o (List.mem_cons_of_mem _ ho)) _⟩
    have hmark := quiet occurrence List.mem_cons_self
    unfold Allowed
    split <;> trivial

theorem allowed_of_allowedAll {before log : List Occurrence} (h : AllowedAll before log)
    {front back : List Occurrence} {occurrence : Occurrence}
    (hlog : log = front ++ occurrence :: back) : Allowed (before ++ front) occurrence := by
  induction front generalizing before log with
  | nil =>
    subst hlog
    rw [List.append_nil]
    exact h.1
  | cons first front ih =>
    subst hlog
    have htail := ih h.2 rfl
    rwa [List.append_assoc, List.singleton_append] at htail

/-- In an allowed log tasks are numbered without gaps, from the number of earlier ones on. -/
theorem taskNumbers_of_allowedAll {before log : List Occurrence} (h : AllowedAll before log) :
    taskNumbers log = List.range' (begun before + 1) (begun log) := by
  induction log generalizing before with
  | nil => rfl
  | cons occurrence log ih =>
    have hrest := ih h.2
    have hsplit : taskNumbers (occurrence :: log) = taskNumbers [occurrence] ++ taskNumbers log :=
      taskNumbers_append [occurrence] log
    have hcount : begun (occurrence :: log) = begun [occurrence] + begun log :=
      begun_append [occurrence] log
    rw [hsplit, hcount, hrest, begun_append]
    cases hnumber : occurrence.taskNumber? with
    | none =>
      have hnone : taskNumbers [occurrence] = [] := by
        simp only [taskNumbers, List.filterMap_cons, hnumber, List.filterMap_nil]
      simp only [begun, hnone, List.length_nil, List.nil_append, Nat.add_zero, Nat.zero_add]
    | some number =>
      have hsome : taskNumbers [occurrence] = [number] := by
        simp only [taskNumbers, List.filterMap_cons, hnumber, List.filterMap_nil]
      have heq : number = begun before + 1 := by
        have hallowed := h.1
        unfold taskNumber? at hnumber
        split at hnumber
        · cases hnumber
          exact hallowed.2.2
        · cases hnumber
      have hone : begun [occurrence] = 1 := by rw [begun, hsome]; rfl
      rw [hsome, hone, heq, Nat.add_comm 1 (begun log), List.range'_succ, List.singleton_append]

end Occurrence

namespace Session

open Occurrence

/-! ### What operations and tasks leave in the log -/

theorem isMark_answerAll (board : BoardId) (requests : List Request) (device : Device) :
    ∀ o ∈ (answerAll board requests device).2.map Occurrence.event, o.isMark = false := by
  induction requests generalizing device with
  | nil =>
    intro o ho
    cases ho
  | cons request rest ih =>
    intro o ho
    simp only [answerAll, List.map_append, List.map_cons, List.map_map, List.mem_append,
      List.mem_cons, List.mem_map, Function.comp_apply] at ho
    rcases ho with ⟨effect, -, rfl⟩ | rfl | ⟨event, hevent, rfl⟩
    · rfl
    · rfl
    · exact ih _ _ (List.mem_map_of_mem hevent)

/-- A task leaves its beginning, which carries its number, quiet occurrences, and its end. -/
theorem runTask_log (session : Session) :
    session.runTask.2.map Occurrence.event =
      .event (.taskBegan (session.engine.tasks + 1)) ::
        ((answerAll session.board session.engine.script session.device).2.map .event ++
          [.event .taskEnded]) := by
  simp only [runTask, List.cons_append, List.map_cons, List.map_append, List.map_nil]

@[simp] theorem runTask_tasks (session : Session) :
    session.runTask.1.engine.tasks = session.engine.tasks + 1 := rfl

theorem counts_runTask (session : Session) :
    begun (session.runTask.2.map .event) = 1 ∧ ended (session.runTask.2.map .event) = 1 ∧
      holdsTaken (session.runTask.2.map .event) = 0 ∧
      holdsReleased (session.runTask.2.map .event) = 0 := by
  obtain ⟨hbegun, hended, htaken, hreleased⟩ := counts_of_quiet
    (isMark_answerAll session.board session.engine.script session.device)
  rw [runTask_log, ← List.singleton_append]
  simp only [begun_append, ended_append, holdsTaken_append, holdsReleased_append, hbegun, hended,
    htaken, hreleased]
  exact ⟨rfl, rfl, rfl, rfl⟩

/-- An operation that does not drive the engine leaves no mark. -/
theorem isMark_operate {session : Session} {operation : Operation}
    (h : session.drives operation = false) :
    ∀ o ∈ (session.operate operation).log, o.isMark = false := by
  have hevents : ∀ event ∈ (session.operate operation).events,
      (Occurrence.event event).isMark = false := by
    intro event hevent
    cases operation with
    | request request =>
      obtain ⟨effect, -, rfl⟩ := List.mem_map.mp hevent
      rfl
    | mediumReady lun =>
      obtain ⟨effect, -, rfl⟩ := List.mem_map.mp hevent
      rfl
    | alarm =>
      obtain ⟨line, -, rfl⟩ := Option.map_eq_some_iff.mp (Option.mem_toList.mp hevent)
      rfl
    | interrupt =>
      rw [operate_interrupt_of_not_drives h] at hevent
      cases hevent
    | inspectEngine =>
      simp only [operate] at hevent
      split at hevent <;> cases hevent
    | adjustEngine initialized initResult script =>
      simp only [operate] at hevent
      split at hevent <;> cases hevent
    | runInline =>
      rw [operate_runInline_of_not_drives h] at hevent
      cases hevent
    | _ => cases hevent
  intro o ho
  simp only [Result.log, Entry.log, List.mem_append, List.mem_map, List.mem_singleton] at ho
  rcases ho with ⟨event, hevent, rfl⟩ | rfl
  · exact hevents event hevent
  · rfl

theorem isMark_performSetup (session : Session) (setup : Setup) :
    ∀ o ∈ (session.performSetup setup).log, o.isMark = false := by
  cases setup with
  | start =>
    simp only [performSetup]
    obtain ⟨-, h⟩ | ⟨-, fault, -, h⟩ | ⟨-, -, -, h⟩ | ⟨-, -, line, -, h⟩ := start_cases session <;>
      simp [h, Result.log, Entry.log, isMark]
  | _ => simp [performSetup, onDevice, Result.log, Entry.log, isMark]

@[simp] theorem performSetup_tasks (session : Session) (setup : Setup) :
    (session.performSetup setup).session.engine.tasks = session.engine.tasks := by
  cases setup with
  | start =>
    simp only [performSetup]
    obtain ⟨-, h⟩ | ⟨-, fault, -, h⟩ | ⟨-, -, -, h⟩ | ⟨-, -, line, -, h⟩ := start_cases session <;>
      rw [h] <;> rfl
  | _ => rfl

theorem operate_tasks {session : Session} {operation : Operation}
    (h : session.drives operation = false) :
    (session.operate operation).session.engine.tasks = session.engine.tasks := by
  cases operation with
  | interrupt => rw [operate_interrupt_of_not_drives h]
  | inspectEngine =>
    simp only [operate]
    split <;> rfl
  | adjustEngine initialized initResult script =>
    simp only [operate]
    split <;> rfl
  | runInline => rw [operate_runInline_of_not_drives h]
  | _ => rfl

/-! ### The log tallies with the session -/

/-- The log so far and a session agree: every task that the engine has counted began and ended, and
one more hold has taken the token than released it exactly while the token is held. -/
structure Tallies (before : List Occurrence) (session : Session) : Prop where
  began : begun before = session.engine.tasks
  done : ended before = session.engine.tasks
  holds : holdsTaken before = holdsReleased before + session.token.held.toNat

/-- A log without marks changes no tally. -/
theorem Tallies.quiet {before log : List Occurrence} {first second : Session}
    (h : Tallies before first) (quiet : ∀ o ∈ log, o.isMark = false)
    (tasks : second.engine.tasks = first.engine.tasks)
    (held : second.token.held = first.token.held) :
    AllowedAll before log ∧ Tallies (before ++ log) second := by
  obtain ⟨hbegun, hended, htaken, hreleased⟩ := counts_of_quiet quiet
  refine ⟨allowedAll_of_quiet quiet before, ?_, ?_, ?_⟩
  · rw [begun_append, hbegun, Nat.add_zero, h.began, tasks]
  · rw [ended_append, hended, Nat.add_zero, h.done, tasks]
  · rw [holdsTaken_append, holdsReleased_append, htaken, hreleased, Nat.add_zero, Nat.add_zero,
      h.holds, held]

/-- A task in the open is allowed, and the tallies count it. -/
theorem Tallies.task {before : List Occurrence} {session : Session} (h : Tallies before session)
    (free : session.token.held = false) :
    AllowedAll before (session.runTask.2.map .event) ∧
      Tallies (before ++ session.runTask.2.map .event) session.runTask.1 := by
  obtain ⟨hbegun, hended, htaken, hreleased⟩ := counts_runTask session
  have hquiet := isMark_answerAll session.board session.engine.script session.device
  have hcounts := counts_of_quiet hquiet
  have hholds : holdsTaken before = holdsReleased before := by
    rw [h.holds, free]
    rfl
  refine ⟨?_, ?_, ?_, ?_⟩
  · rw [runTask_log]
    -- the beginning, then the quiet part, then the end, which finds one task running
    refine ⟨⟨h.began.trans h.done.symm, hholds, by rw [h.began]⟩, ?_⟩
    refine allowedAll_append (allowedAll_of_quiet hquiet _) ⟨?_, trivial⟩
    have hbegan : begun [Occurrence.event (.taskBegan (session.engine.tasks + 1))] = 1 := rfl
    have hdone : ended [Occurrence.event (.taskBegan (session.engine.tasks + 1))] = 0 := rfl
    show begun _ = ended _ + 1
    simp only [begun_append, ended_append, hcounts.1, hcounts.2.1, hbegan, hdone, h.began, h.done,
      Nat.add_zero]
  · rw [begun_append, hbegun, h.began, runTask_tasks]
  · rw [ended_append, hended, h.done, runTask_tasks]
  · rw [holdsTaken_append, holdsReleased_append, htaken, hreleased, Nat.add_zero, Nat.add_zero,
      h.holds, runTask_token]

/-- **A move is allowed** behind a log that tallies with the session, and keeps the tallies. -/
theorem allowedAll_of_move {first second : Session} {log : List Occurrence}
    (h : Move first log second) {before : List Occurrence} (tallies : Tallies before first) :
    AllowedAll before log ∧ Tallies (before ++ log) second := by
  cases h with
  | setup setup free =>
    exact tallies.quiet (isMark_performSetup first setup) (performSetup_tasks first setup)
      (by rw [performSetup_token])
  | operation operation =>
    cases hdrives : first.drives operation with
    | false =>
      exact tallies.quiet (isMark_operate hdrives) (operate_tasks hdrives) (operate_held _ _)
    | true =>
      obtain ⟨hallowed, htallies⟩ := tallies.task (held_of_drives hdrives)
      rw [operate_of_drives hdrives]
      have hquiet : ∀ o ∈ [Occurrence.answer
          (if operation = .interrupt then .cycle .ran else .ran)], o.isMark = false := by
        simp [isMark]
      obtain ⟨hanswer, hafter⟩ := htallies.quiet hquiet rfl rfl
      rw [List.append_assoc] at hafter
      exact ⟨allowedAll_append hallowed hanswer, hafter⟩
  | take free =>
    have hholds : holdsTaken before = holdsReleased before := by
      rw [tallies.holds, free]
      rfl
    refine ⟨⟨⟨tallies.began.trans tallies.done.symm, hholds⟩, trivial⟩, ?_, ?_, ?_⟩
    · rw [begun_append, tallies.began]
      rfl
    · rw [ended_append, tallies.done]
      rfl
    · rw [holdsTaken_append, holdsReleased_append, hholds]
      rfl
  | refuse mode held => exact tallies.quiet (by simp [isMark]) rfl rfl
  | release held =>
    have hholds : holdsTaken before = holdsReleased before + 1 := by
      rw [tallies.holds, held]
      rfl
    refine ⟨⟨⟨tallies.began.trans tallies.done.symm, hholds⟩, trivial⟩, ?_, ?_, ?_⟩
    · rw [begun_append, tallies.began]
      rfl
    · rw [ended_append, tallies.done]
      rfl
    · rw [holdsTaken_append, holdsReleased_append, hholds]
      rfl
  | task free => exact tallies.task free

/-- **Every sequence of moves is allowed** behind a log that tallies with the session. -/
theorem allowedAll_of_moves {first second : Session} {log : List Occurrence}
    (h : Moves first log second) {before : List Occurrence} (tallies : Tallies before first) :
    AllowedAll before log ∧ Tallies (before ++ log) second := by
  induction h generalizing before with
  | nil =>
    rw [List.append_nil]
    exact ⟨trivial, tallies⟩
  | cons hmove _ ih =>
    obtain ⟨hfirst, hmiddle⟩ := allowedAll_of_move hmove tallies
    obtain ⟨hrest, hafter⟩ := ih hmiddle
    rw [List.append_assoc] at hafter
    exact ⟨allowedAll_append hfirst hrest, hafter⟩

end Session

/-! ### Calls -/

/-- An operation that was called, with its answer. -/
abbrev Call := Operation × Answer

/-- Whether a call is owed a task: an interrupt that ran, and every run in turn. -/
def Call.runs (call : Call) : Bool :=
  call.1 = .runInline || call = (.interrupt, .cycle .ran)

mutual

/-- The calls that an action made, by its entry. A hold that was refused made none. -/
def Action.calls : Action → Entry → List Call
  | .single operation, .answered answer _ => [(operation, answer)]
  | .hold _ body, .held inside _ => Action.callsAll body inside
  | .single _, .held _ _ | .hold _ _, .answered _ _ => []

/-- The calls that actions made, by their entries. -/
def Action.callsAll : List Action → List Entry → List Call
  | action :: actions, entry :: entries => action.calls entry ++ callsAll actions entries
  | [], _ | _ :: _, [] => []

end

/-- The calls that a step made, by its entry. -/
def Step.calls : Step → Entry → List Call
  | .setup _, _ => []
  | .action act, entry => act.calls entry

/-- The calls that steps made, by their entries. -/
def Step.callsAll : List Step → List Entry → List Call
  | step :: steps, entry :: entries => step.calls entry ++ callsAll steps entries
  | [], _ | _ :: _, [] => []

namespace Session

open Occurrence

/-- How the entry of a step accounts for tasks. Setup shows none. A call in the open shows its own
task, if it is owed one, and a run in turn does not wait. A hold shows no task while it lasts: every
run called for under it waits, and behind the release there are as many tasks as runs waited. -/
def Served : Step → Entry → Prop
  | .setup _, entry => begun entry.log = 0
  | .action (.single operation), entry =>
    ∃ answer events, entry = .answered answer events ∧
      begun (events.map .event) = (if Call.runs (operation, answer) then 1 else 0) ∧
      (operation = .runInline → answer = .ran)
  | .action (.hold _ body), entry =>
    ∃ inside events, entry = .held inside events ∧
      begun (Entry.logAll inside) = 0 ∧
      (∀ call ∈ Action.callsAll body inside,
        call ≠ (.interrupt, .cycle .ran) ∧ (call.1 = .runInline → call.2 = .pending)) ∧
      begun (events.map .event) = (Action.callsAll body inside).countP (·.1 = .runInline)

/-- The tasks of an operation: one if it drives the engine, else none. -/
theorem begun_operate (session : Session) (operation : Operation) :
    begun ((session.operate operation).events.map .event) =
      (session.drives operation).toNat := by
  cases hdrives : session.drives operation with
  | false =>
    have hcounts := (counts_of_quiet (isMark_operate hdrives)).1
    simp only [Result.log, Entry.log, begun_append] at hcounts
    exact Nat.eq_zero_of_add_eq_zero_right hcounts
  | true =>
    rw [operate_of_drives hdrives]
    exact (counts_runTask session).1

/-- In the open the calls that are owed a task are those that drive the engine. -/
theorem runs_operate_of_free {session : Session} (free : session.token.held = false)
    (operation : Operation) :
    Call.runs (operation, (session.operate operation).answer) = session.drives operation := by
  cases hdrives : session.drives operation with
  | true =>
    rw [operate_of_drives hdrives]
    unfold drives at hdrives
    split at hdrives
    · rfl
    · rfl
    · cases hdrives
  | false =>
    have hinline : operation ≠ .runInline := by
      rintro rfl
      rw [drives, free] at hdrives
      cases hdrives
    have hinterrupt : (operation, (session.operate operation).answer) ≠
        (.interrupt, .cycle .ran) := by
      intro hcall
      obtain ⟨rfl, hanswer⟩ := Prod.mk.inj hcall
      simp only [drives, free, Bool.not_false, Bool.and_true] at hdrives
      simp only [operate, interrupt, hdrives, Bool.false_eq_true, if_false] at hanswer
      cases hanswer
    rw [Call.runs, decide_eq_false hinline, decide_eq_false hinterrupt]
    rfl

/-- Under a hold no call drives the engine, and a run in turn waits. -/
theorem operate_of_held {session : Session} (held : session.token.held = true)
    (operation : Operation) :
    session.drives operation = false ∧
      (operation, (session.operate operation).answer) ≠ (.interrupt, .cycle .ran) ∧
      (operation = .runInline → (session.operate operation).answer = .pending) := by
  refine ⟨?_, ?_, ?_⟩
  · unfold drives
    split <;> simp [held]
  · intro hcall
    obtain ⟨rfl, hanswer⟩ := Prod.mk.inj hcall
    simp only [operate, interrupt, held, if_true] at hanswer
    split at hanswer <;> cases hanswer
  · rintro rfl
    simp only [operate, runInline, held, if_true]

/-- **Under a hold nothing runs and everybody waits**: no task begins, and the waiting runs grow by
the runs called for. -/
theorem performAll_of_held {session : Session} (held : session.token.held = true)
    (body : List Action) :
    begun (Entry.logAll (performAll body session).2) = 0 ∧
      (∀ call ∈ Action.callsAll body (performAll body session).2,
        call ≠ (.interrupt, .cycle .ran) ∧ (call.1 = .runInline → call.2 = .pending)) ∧
      (performAll body session).1.token.waiting = session.token.waiting +
        (Action.callsAll body (performAll body session).2).countP (·.1 = .runInline) := by
  induction body generalizing session with
  | nil =>
    refine ⟨rfl, ?_, rfl⟩
    intro call hcall
    cases hcall
  | cons action rest ih =>
    cases action with
    | single operation =>
      obtain ⟨hdrives, hran, hpending⟩ := operate_of_held held operation
      have hheld : (session.operate operation).session.token.held = true := by
        rw [operate_held, held]
      have hnone : begun (session.operate operation).log = 0 :=
        (counts_of_quiet (isMark_operate hdrives)).1
      obtain ⟨hbegun, hcalls, hwaiting⟩ := ih hheld
      simp only [performAll, perform, Entry.logAll, Action.callsAll, Action.calls]
      refine ⟨?_, ?_, ?_⟩
      · rw [begun_append, hbegun]
        exact hnone
      · intro call hcall
        rcases List.mem_append.mp hcall with hcall | hcall
        · rw [List.mem_singleton.mp hcall]
          exact ⟨hran, hpending⟩
        · exact hcalls call hcall
      · rw [hwaiting, operate_token, List.countP_append, List.countP_singleton]
        by_cases hinline : operation = .runInline
        · simp only [held, hinline, and_self, if_true, decide_true]
          exact Nat.add_assoc _ _ _
        · simp only [hinline, and_false, if_false, decide_false, Bool.false_eq_true, Nat.zero_add]
    | hold mode inner =>
      obtain ⟨hbegun, hcalls, hwaiting⟩ := ih held
      simp only [performAll, perform_hold_of_held held, Entry.logAll, Action.callsAll,
        Action.calls, List.nil_append]
      refine ⟨?_, hcalls, hwaiting⟩
      rw [begun_append, hbegun]
      rfl

theorem begun_runTasks (count : Nat) (session : Session) :
    begun ((runTasks count session).2.map .event) = count := by
  induction count generalizing session with
  | zero => rfl
  | succ count ih =>
    simp only [runTasks, List.map_append, begun_append, ih, (counts_runTask session).1]
    exact Nat.add_comm 1 count

/-- **Every step in the open accounts for its tasks.** -/
theorem served_step {session : Session} (free : session.token = .free) (step : Step) :
    Served step (session.step step).2 := by
  have hopen := held_of_free free
  cases step with
  | setup setup => exact (counts_of_quiet (isMark_performSetup session setup)).1
  | action action =>
    cases action with
    | single operation =>
      refine ⟨_, _, rfl, ?_, ?_⟩
      · rw [begun_operate, runs_operate_of_free hopen]
        cases session.drives operation <;> rfl
      · rintro rfl
        simp only [operate, runInline, hopen, Bool.false_eq_true, if_false]
    | hold mode body =>
      obtain ⟨hbegun, hcalls, hwaiting⟩ :=
        performAll_of_held session.take_held body
      simp only [step, perform_hold_of_free hopen]
      refine ⟨_, _, rfl, hbegun, hcalls, ?_⟩
      rw [release, begun_runTasks, hwaiting]
      exact Nat.zero_add _

/-- The tasks of a step that accounts for them are those owed to its calls. -/
theorem begun_of_served {step : Step} {entry : Entry} (h : Served step entry) :
    begun entry.log =
      (step.calls entry).count (.interrupt, .cycle .ran) +
        (step.calls entry).countP (·.1 = .runInline) := by
  cases step with
  | setup setup => exact h
  | action action =>
    cases action with
    | single operation =>
      obtain ⟨answer, events, rfl, hbegun, -⟩ := h
      have hanswer : begun [Occurrence.answer answer] = 0 := rfl
      simp only [Entry.log, begun_append, hbegun, hanswer, Step.calls, Action.calls,
        List.count_singleton, List.countP_singleton, Call.runs]
      by_cases hinline : operation = .runInline
      · subst hinline
        simp
      · simp [hinline]
    | hold mode body =>
      obtain ⟨inside, events, rfl, hbegun, hcalls, hafter⟩ := h
      have hnone : (Action.callsAll body inside).count (.interrupt, .cycle .ran) = 0 := by
        apply List.count_eq_zero_of_not_mem
        intro hmem
        exact (hcalls _ hmem).1 rfl
      have hlog : Entry.log (.held inside events) =
          [.taken] ++ Entry.logAll inside ++ ([.released] ++ events.map .event) := rfl
      have htaken : begun [Occurrence.taken] = 0 := rfl
      have hreleased : begun [Occurrence.released] = 0 := rfl
      rw [hlog]
      simp only [begun_append, hbegun, hafter, htaken, hreleased, Step.calls, Action.calls, hnone,
        Nat.zero_add]

theorem begun_of_forall_served {steps : List Step} {entries : List Entry}
    (h : List.Forall₂ Served steps entries) :
    begun (Entry.logAll entries) =
      (Step.callsAll steps entries).count (.interrupt, .cycle .ran) +
        (Step.callsAll steps entries).countP (·.1 = .runInline) := by
  induction h with
  | nil => rfl
  | cons hstep _ ih =>
    simp only [Entry.logAll, begun_append, ih, begun_of_served hstep, Step.callsAll,
      List.count_append, List.countP_append]
    omega

theorem served_run {session : Session} (free : session.token = .free) (steps : List Step) :
    List.Forall₂ Served steps (session.run steps).2 := by
  induction steps generalizing session with
  | nil => exact .nil
  | cons step rest ih => exact .cons (served_step free step) (ih (moves_step free step).2)

/-- **Tasks are serialised, none is lost and none is duplicated.** In the log of every session each
task begins only when all earlier ones have ended and nobody holds the token, and each task that
begins ends. Their numbers are 1, 2, … up to the number of interrupts that ran and of runs in turn
that were called for, under holds too. Each step accounts for its own: what was called for under a
hold waits and runs behind the release, as often as it was called for. -/
theorem tasks_serialised (scenario : Scenario) (steps : List Step) :
    let entries := (scenario.session.run steps).2
    let log := Entry.logAll entries
    let calls := Step.callsAll steps entries
    (∀ before occurrence after, log = before ++ occurrence :: after →
      Allowed before occurrence) ∧
      begun log = ended log ∧
      taskNumbers log = List.range' 1
        (calls.count (.interrupt, .cycle .ran) + calls.countP (·.1 = .runInline)) ∧
      List.Forall₂ Served steps entries := by
  intro entries log calls
  have hmoves := (moves_run scenario.session_token steps).1
  have htallies : Tallies [] scenario.session := ⟨rfl, rfl, rfl⟩
  obtain ⟨hallowed, hafter⟩ := allowedAll_of_moves hmoves htallies
  have hserved := served_run scenario.session_token steps
  refine ⟨?_, ?_, ?_, hserved⟩
  · intro before occurrence after hlog
    exact allowed_of_allowedAll hallowed hlog
  · exact hafter.began.trans hafter.done.symm
  · rw [← begun_of_forall_served hserved]
    exact taskNumbers_of_allowedAll hallowed

end Session

end UsbComposite
