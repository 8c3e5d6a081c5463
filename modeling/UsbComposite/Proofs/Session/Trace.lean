import UsbComposite.Session.Log

/-!
# Sessions as sequences of moves

Steps are nested, since a hold carries actions of its own, but what happens during a session is not:
while the token is held no second hold can begin. So a run, with the log that it leaves, falls into a
flat sequence of **moves** of six kinds: a setup, an operation, a hold that takes the token, one that
is refused, a release, and a task that waited for the release.

* `moves_run`: every run of a session between holds is such a sequence.

What is to be proved of every session is proved of each kind of move and follows for the sequence.

A **scenario** is what a session is free to start from; in everything else all sessions start alike.
-/

namespace UsbComposite

/-- What a session starts from. -/
structure Scenario where
  roles : RoleSet
  medium : Medium
  board : BoardId
  /-- What the platform gives to whoever asks for an interrupt line. -/
  lines : List (Option Line)
  /-- The engine's flag. -/
  initialized : Bool
  /-- The flag that initializing leaves behind. -/
  initResult : Bool
  /-- The requests that each task makes. -/
  script : List Request
deriving DecidableEq

/-- The session of a scenario before its first step. -/
def Scenario.session (scenario : Scenario) : Session :=
  .make ⟨scenario.initialized, scenario.initResult, 0, 0, scenario.script⟩ scenario.lines
    (.make scenario.roles scenario.medium) scenario.board

/-- A keyboard behind a controller with one interrupt line, whose task asks for the serial number. -/
def Scenario.keyboard : Scenario :=
  ⟨.ofList [.keyboard], .absent, .replicate 8 0xE6, [some 26], false, true, [.string 3 0x0409]⟩

namespace Session

/-- What a result leaves in the log. -/
def Result.log (result : Result) : List Occurrence :=
  Entry.log (.answered result.answer result.events)

/-! ### What a start can do -/

/-- A session that was prepared and has asked the platform for a line. -/
def asked (session : Session) : Session :=
  { session with device := session.device.prepare.1, platform := session.platform.ask }

/-- **A start has four outcomes**: it finds the engine initialized and does nothing; or it fails to
prepare the device; or it prepares the device and finds no line; or it finds one and brings the
engine up. -/
theorem start_cases (session : Session) :
    (session.engine.initialized = true ∧
      session.start = ⟨session, .startup (.ok .alreadyRunning), []⟩) ∨
    (session.engine.initialized = false ∧ ∃ fault, session.device.prepare.2 = .error fault ∧
      session.start =
        ⟨{ session with device := session.device.prepare.1 }, .startup (.error fault), []⟩) ∨
    (session.engine.initialized = false ∧ session.device.prepare.2 = .ok () ∧
      session.platform.next = none ∧
      session.start =
        ⟨session.asked, .startup (.error .noInterruptLine), [.granted none]⟩) ∨
    (session.engine.initialized = false ∧ session.device.prepare.2 = .ok () ∧
      ∃ line, session.platform.next = some line ∧
        session.start =
          ⟨{ session.asked with engine := session.engine.init, line := some line },
            .startup (.ok .started),
            [.granted (some line), .initialized, .enabled line, .armed taskInterval]⟩) := by
  unfold start asked
  split
  · rename_i hinitialized
    exact .inl ⟨hinitialized, rfl⟩
  · rename_i hfresh
    rw [Bool.not_eq_true] at hfresh
    split
    · rename_i device fault hprepare
      rw [hprepare]
      exact .inr (.inl ⟨hfresh, fault, rfl, rfl⟩)
    · rename_i device hprepare
      rw [hprepare]
      split
      · rename_i hnext
        exact .inr (.inr (.inl ⟨hfresh, rfl, hnext, rfl⟩))
      · rename_i line hnext
        exact .inr (.inr (.inr ⟨hfresh, rfl, line, hnext, rfl⟩))

/-- A start leaves the device alone, or prepares it. -/
theorem start_device_cases (session : Session) :
    session.start.session.device = session.device ∨
      session.start.session.device = session.device.prepare.1 := by
  obtain ⟨-, h⟩ | ⟨-, fault, -, h⟩ | ⟨-, -, -, h⟩ | ⟨-, -, line, -, h⟩ := start_cases session
  · exact .inl (by rw [h])
  · exact .inr (by rw [h])
  · exact .inr (by rw [h]; rfl)
  · exact .inr (by rw [h]; rfl)

/-! ### The token between moves -/

theorem take_held (session : Session) : session.take.token.held = true := rfl

theorem held_of_free {session : Session} (free : session.token = .free) :
    session.token.held = false := by
  rw [free]
  rfl

@[simp] theorem performSetup_token (session : Session) (setup : Setup) :
    (session.performSetup setup).session.token = session.token := by
  cases setup with
  | start =>
    simp only [performSetup]
    obtain ⟨-, h⟩ | ⟨-, fault, -, h⟩ | ⟨-, -, -, h⟩ | ⟨-, -, line, -, h⟩ := start_cases session <;>
      rw [h] <;> rfl
  | _ => rfl

@[simp] theorem runTask_token (session : Session) : session.runTask.1.token = session.token := rfl

@[simp] theorem runTasks_token (count : Nat) (session : Session) :
    (runTasks count session).1.token = session.token := by
  induction count generalizing session with
  | zero => rfl
  | succ count ih => exact ih _

/-- **An operation leaves the token as it is**, unless it is a run that has to wait. -/
theorem operate_token (session : Session) (operation : Operation) :
    (session.operate operation).session.token =
      if session.token.held ∧ operation = .runInline then
        { session.token with waiting := session.token.waiting + 1 }
      else session.token := by
  cases operation with
  | interrupt =>
    rw [if_neg (by simp)]
    simp only [operate, interrupt]
    split
    · split <;> rfl
    · rfl
  | inspectEngine =>
    rw [if_neg (by simp)]
    simp only [operate]
    split <;> rfl
  | adjustEngine initialized initResult script =>
    rw [if_neg (by simp)]
    simp only [operate]
    split <;> rfl
  | runInline =>
    simp only [operate, runInline, and_true]
    split <;> rfl
  | _ => exact (if_neg (by simp)).symm

@[simp] theorem operate_held (session : Session) (operation : Operation) :
    (session.operate operation).session.token.held = session.token.held := by
  rw [operate_token]
  split <;> rfl

theorem operate_free {session : Session} (free : session.token = .free) (operation : Operation) :
    (session.operate operation).session.token = .free := by
  rw [operate_token, if_neg (by rw [free]; simp [Token.free]), free]

/-- Under a hold an action is an operation, or a hold that is refused. -/
theorem perform_hold_of_held {session : Session} (held : session.token.held = true)
    (mode : HoldMode) (body : List Action) :
    perform (.hold mode body) session = (session, .answered (refusal mode) []) := by
  rw [perform, if_pos held]

/-- A hold in the open takes the token, performs its actions and releases the token. -/
theorem perform_hold_of_free {session : Session} (free : session.token.held = false)
    (mode : HoldMode) (body : List Action) :
    perform (.hold mode body) session =
      ((performAll body session.take).1.release.1,
        .held (performAll body session.take).2 (performAll body session.take).1.release.2) := by
  rw [perform, if_neg (by rw [free]; decide)]

/-! ### Driving the engine -/

/-- Whether an operation runs the engine's task at once: an interrupt on a started controller and a
run in turn do, while nobody holds the token. -/
def drives (session : Session) : Operation → Bool
  | .interrupt => session.isStarted && !session.token.held
  | .runInline => !session.token.held
  | _ => false

theorem held_of_drives {session : Session} {operation : Operation}
    (h : session.drives operation = true) : session.token.held = false := by
  unfold drives at h
  split at h
  · rw [Bool.and_eq_true, Bool.not_eq_true'] at h
    exact h.2
  · rwa [Bool.not_eq_true'] at h
  · cases h

/-- An operation that drives the engine does nothing besides. -/
theorem operate_of_drives {session : Session} {operation : Operation}
    (h : session.drives operation = true) :
    session.operate operation =
      ⟨session.runTask.1, if operation = .interrupt then .cycle .ran else .ran,
        session.runTask.2⟩ := by
  have hfree : ¬ session.token.held = true := by rw [held_of_drives h]; decide
  cases operation with
  | interrupt =>
    simp only [drives, Bool.and_eq_true] at h
    simp only [operate, interrupt, if_pos h.1, if_neg hfree, if_true]
  | runInline =>
    simp only [operate, runInline, if_neg hfree]
    rw [if_neg (by decide)]
  | _ => cases h

/-- An interrupt that does not drive the engine changes nothing. -/
theorem operate_interrupt_of_not_drives {session : Session}
    (h : session.drives .interrupt = false) :
    session.operate .interrupt =
      ⟨session, .cycle (if session.isStarted then .skipped else .idle), []⟩ := by
  simp only [drives, Bool.and_eq_false_iff, Bool.not_eq_false'] at h
  simp only [operate, interrupt]
  by_cases hstarted : session.isStarted = true
  · have hheld : session.token.held = true := h.resolve_left (by rw [hstarted]; decide)
    rw [if_pos hstarted, if_pos hheld, if_pos hstarted]
  · rw [if_neg hstarted, if_neg hstarted]

/-- A run in turn that does not drive the engine waits. -/
theorem operate_runInline_of_not_drives {session : Session}
    (h : session.drives .runInline = false) :
    session.operate .runInline =
      ⟨{ session with token := { session.token with waiting := session.token.waiting + 1 } },
        .pending, []⟩ := by
  have hheld : session.token.held = true := by
    simpa only [drives, Bool.not_eq_false'] using h
  simp only [operate, runInline, if_pos hheld]

/-! ### Moves -/

/-- A move: what it leaves in the log, and the session afterwards. -/
inductive Move : Session → List Occurrence → Session → Prop
  /-- Setup happens in the open only. -/
  | setup (session : Session) (setup : Setup) (free : session.token.held = false) :
      Move session (session.performSetup setup).log (session.performSetup setup).session
  | operation (session : Session) (operation : Operation) :
      Move session (session.operate operation).log (session.operate operation).session
  /-- A hold takes the token. -/
  | take (session : Session) (free : session.token.held = false) :
      Move session [.taken] session.take
  /-- A hold is refused, since the token is held already. -/
  | refuse (session : Session) (mode : HoldMode) (held : session.token.held = true) :
      Move session [.answer (refusal mode)] session
  | release (session : Session) (held : session.token.held = true) :
      Move session [.released] { session with token := .free }
  /-- A run that waited has its turn. -/
  | task (session : Session) (free : session.token.held = false) :
      Move session (session.runTask.2.map .event) session.runTask.1

/-- A sequence of moves, with the log of all of them. -/
inductive Moves : Session → List Occurrence → Session → Prop
  | nil (session : Session) : Moves session [] session
  | cons {first second third : Session} {log rest : List Occurrence} :
      Move first log second → Moves second rest third → Moves first (log ++ rest) third

theorem Moves.single {first second : Session} {log : List Occurrence} (h : Move first log second) :
    Moves first log second := by
  have hmoves := Moves.cons h (.nil second)
  rwa [List.append_nil] at hmoves

theorem Moves.append {first second third : Session} {log rest : List Occurrence}
    (h : Moves first log second) (h' : Moves second rest third) :
    Moves first (log ++ rest) third := by
  induction h with
  | nil => exact h'
  | cons hmove _ ih =>
    rw [List.append_assoc]
    exact .cons hmove (ih h')

/-! ### Runs are sequences of moves -/

/-- Under a hold every action is one move, and the token stays held. -/
theorem moves_performAll {session : Session} (held : session.token.held = true)
    (body : List Action) :
    Moves session (Entry.logAll (performAll body session).2) (performAll body session).1 ∧
      (performAll body session).1.token.held = true := by
  induction body generalizing session with
  | nil => exact ⟨.nil session, held⟩
  | cons action rest ih =>
    cases action with
    | single operation =>
      have hheld : (session.operate operation).session.token.held = true := by
        rw [operate_held, held]
      obtain ⟨hmoves, hafter⟩ := ih hheld
      exact ⟨.cons (.operation session operation) hmoves, hafter⟩
    | hold mode inner =>
      obtain ⟨hmoves, hafter⟩ := ih held
      simp only [performAll, perform_hold_of_held held, Entry.logAll]
      exact ⟨.cons (.refuse session mode held) hmoves, hafter⟩

theorem moves_runTasks {session : Session} (free : session.token.held = false) (count : Nat) :
    Moves session ((runTasks count session).2.map .event) (runTasks count session).1 := by
  induction count generalizing session with
  | zero => exact .nil session
  | succ count ih =>
    simp only [runTasks, List.map_append]
    exact .cons (.task session free) (ih free)

/-- An action in the open is a sequence of moves, and the token is free again behind it. -/
theorem moves_perform {session : Session} (free : session.token = .free) (action : Action) :
    Moves session (perform action session).2.log (perform action session).1 ∧
      (perform action session).1.token = .free := by
  have hopen := held_of_free free
  cases action with
  | single operation => exact ⟨.single (.operation session operation), operate_free free operation⟩
  | hold mode body =>
    rw [perform_hold_of_free hopen]
    obtain ⟨hinside, hheld⟩ :=
      moves_performAll session.take_held body
    refine ⟨?_, by simp only [release, runTasks_token]⟩
    simp only [Entry.log, release]
    exact (Moves.cons (.take session hopen) hinside).append
      (.cons (.release _ hheld) (moves_runTasks rfl _))

/-- A step in the open is a sequence of moves, and the token is free again behind it. -/
theorem moves_step {session : Session} (free : session.token = .free) (step : Step) :
    Moves session (session.step step).2.log (session.step step).1 ∧
      (session.step step).1.token = .free := by
  cases step with
  | setup setup =>
    exact ⟨.single (.setup session setup (held_of_free free)),
      (performSetup_token _ _).trans free⟩
  | action action => exact moves_perform free action

/-- **Runs are sequences of moves.** The log of a run is the log of its moves, and a run that finds
the token free leaves it free. -/
theorem moves_run {session : Session} (free : session.token = .free) (steps : List Step) :
    Moves session (session.log steps) (session.run steps).1 ∧
      (session.run steps).1.token = .free := by
  induction steps generalizing session with
  | nil => exact ⟨.nil session, free⟩
  | cons step rest ih =>
    obtain ⟨hstep, hfree⟩ := moves_step free step
    obtain ⟨hrest, hafter⟩ := ih hfree
    exact ⟨hstep.append hrest, hafter⟩

end Session

@[simp] theorem Scenario.session_token (scenario : Scenario) : scenario.session.token = .free := rfl

end UsbComposite
