import Mathlib.Data.List.Induction
import UsbComposite.Proofs.Session.Hold
import UsbComposite.Proofs.Session.Interrupts

/-!
# Which tasks run behind a start

An engine should not be driven before it is brought up. An interrupt sees to that by itself: it is
idle as long as no start brought the engine up. A run in turn does not look. So a task runs too early
exactly if a run in turn was called for too early, and what such a task finds is an engine that is not
initialized, on a device that need not be prepared.

* `begun_of_unstarted`: before a start the tasks of a step are its runs in turn;
* `tasksBehindStart_iff`: so tasks run behind a start if and only if runs in turn are called for there;
* `initialized_atInstant`: on an engine whose flag is set by initializing only, the flag tells at
  every instant whether a start brought the engine up.
-/

namespace UsbComposite

/-! ### What holds of each item of a list, behind those in front of it -/

/-- Each item of a list is related to the list of those in front of it. -/
def EachBehind {α : Type} (related : List α → α → Prop) (list : List α) : Prop :=
  ∀ front item back, list = front ++ item :: back → related front item

section

variable {α : Type} {related : List α → α → Prop}

theorem eachBehind_nil : EachBehind related [] := by
  intro front item back hsplit
  cases front <;> cases hsplit

theorem eachBehind_append_iff {list rest : List α} :
    EachBehind related (list ++ rest) ↔
      EachBehind related list ∧ EachBehind (fun front => related (list ++ front)) rest := by
  constructor
  · intro h
    constructor
    · rintro front item back rfl
      exact h front item (back ++ rest) (by rw [List.append_assoc, List.cons_append])
    · rintro front item back rfl
      exact h (list ++ front) item back (by rw [List.append_assoc])
  · rintro ⟨hlist, hrest⟩ front item back hsplit
    obtain ⟨between, rfl, hbetween⟩ | ⟨between, hfront, hbetween⟩ :=
      List.append_eq_append_iff.mp hsplit
    · exact hrest between item back hbetween
    · -- the item stands in the first list, unless nothing of that is left behind `front`
      cases between with
      | nil =>
        rw [List.append_nil] at hfront
        have hitem : related (list ++ []) item := hrest [] item back hbetween.symm
        rwa [List.append_nil, hfront] at hitem
      | cons first between =>
        obtain ⟨rfl, -⟩ := List.cons.inj hbetween
        exact hlist front item between hfront

theorem eachBehind_singleton_iff {item : α} : EachBehind related [item] ↔ related [] item := by
  constructor
  · intro h
    exact h [] item [] rfl
  · intro h front other back hsplit
    cases front with
    | nil =>
      obtain ⟨rfl, -⟩ := List.cons.inj hsplit
      exact h
    | cons first front =>
      have hnil := (List.cons.inj hsplit).2
      simp at hnil

end

/-! ### Tasks and runs in turn -/

/-- How many runs in turn a step calls for. -/
def Step.turns : Step → Nat
  | .setup _ => 0
  | .action (.single operation) => (Action.isTurn (.single operation)).toNat
  | .action (.hold _ body) => body.countP Action.isTurn

/-- Every task of a log begins behind a start that brought the engine up. -/
def TasksBehindStart (log : List Occurrence) : Prop :=
  EachBehind (fun front o => o.taskNumber?.isSome = true → .started ∈ front) log

namespace Session

open Occurrence

/-- Every run in turn of a session is called for behind a start that brought the engine up. -/
def TurnsBehindStart (session : Session) (steps : List Step) : Prop :=
  EachBehind (fun front step => 0 < step.turns → .started ∈ session.log front) steps

theorem begun_pos_iff {log : List Occurrence} :
    0 < begun log ↔ ∃ o ∈ log, o.taskNumber?.isSome = true := by
  simp only [begun, taskNumbers, List.length_pos_iff_exists_mem, List.mem_filterMap,
    Option.isSome_iff_exists]
  constructor
  · rintro ⟨number, o, ho, hnumber⟩
    exact ⟨o, ho, number, hnumber⟩
  · rintro ⟨o, ho, number, hnumber⟩
    exact ⟨number, o, ho, hnumber⟩

/-- **Before a start the tasks of a step are its runs in turn**, since all interrupts are idle. -/
theorem begun_of_unstarted {session : Session} (free : session.token = .free)
    (unstarted : session.isStarted = false) (step : Step) :
    begun (session.step step).2.log = step.turns := by
  have hopen := held_of_free free
  cases step with
  | setup setup => exact (counts_of_quiet (isMark_performSetup session setup)).1
  | action action =>
    cases action with
    | single operation =>
      have hanswer : begun [.answer (session.operate operation).answer] = 0 := rfl
      have hdrives : session.drives operation = Action.isTurn (.single operation) := by
        cases operation <;> simp [drives, Action.isTurn, unstarted, hopen]
      simp only [Session.step, perform, Entry.log, begun_append, begun_operate, hanswer, hdrives,
        Step.turns, Nat.add_zero]
    | hold mode body =>
      have hinside : begun (Entry.logAll (session.aside body).2) = 0 := by
        have hheld := (performAll_of_held session.take_held body).1
        rwa [take_eq_withToken, performAll_held] at hheld
      have hlog (inside : List Entry) (events : List Event) : Entry.log (.held inside events) =
          [.taken] ++ Entry.logAll inside ++ ([.released] ++ events.map .event) := rfl
      have htaken : begun [Occurrence.taken] = 0 := rfl
      have hreleased : begun [Occurrence.released] = 0 := rfl
      simp only [Session.step, perform_hold free, hlog, begun_append, hinside, begun_runTasks,
        htaken, hreleased, Nat.zero_add, Step.turns]

/-- **Behind a log that tells whether the session is started, the tasks of a step are behind a start
if and only if its runs in turn are.** -/
theorem tasksBehind_step_iff {before : List Occurrence} {session : Session}
    (h : Follows before session) (free : session.token = .free) (step : Step) :
    EachBehind (fun front o => o.taskNumber?.isSome = true → .started ∈ before ++ front)
        (session.step step).2.log ↔
      (0 < step.turns → .started ∈ before) := by
  by_cases hmem : .started ∈ before
  · refine ⟨fun _ _ => hmem, fun _ front _ _ _ _ => List.mem_append_left front hmem⟩
  · have hunstarted : session.isStarted = false := by
      rw [← Bool.not_eq_true, isStarted, h.line.isSome_iff]
      exact hmem
    have hbegun := begun_of_unstarted free hunstarted step
    constructor
    · intro htasks hturns
      have hnotStart : step ≠ .setup .start := by
        rintro rfl
        exact Nat.lt_irrefl 0 hturns
      -- some task begins in the step, which is no start, so it is not the step that answers for it
      obtain ⟨o, ho, htask⟩ := begun_pos_iff.mp (hbegun ▸ hturns)
      obtain ⟨front, back, hsplit⟩ := List.append_of_mem ho
      rcases List.mem_append.mp (htasks front o back hsplit htask) with hstarted | hstarted
      · exact hstarted
      · have hinside : .started ∈ (session.step step).2.log := by
          rw [hsplit]
          exact List.mem_append_left _ hstarted
        cases (noStart_step session hnotStart).quiet _ hinside
    · intro hturns front o back hsplit htask
      have hbegan : 0 < begun (session.step step).2.log :=
        begun_pos_iff.mpr ⟨o, by rw [hsplit]; simp, htask⟩
      exact absurd (hturns (hbegun ▸ hbegan)) hmem

/-- **All tasks run behind a start if and only if all runs in turn are called for there.** -/
theorem tasksBehindStart_iff (scenario : Scenario) (steps : List Step) :
    TasksBehindStart (scenario.session.log steps) ↔ scenario.session.TurnsBehindStart steps := by
  induction steps using List.reverseRecOn with
  | nil => exact ⟨fun _ => eachBehind_nil, fun _ => eachBehind_nil⟩
  | append_singleton steps step ih =>
    obtain ⟨hmoves, hfree⟩ := moves_run scenario.session_token steps
    have hfollows : Follows (scenario.session.log steps) _ :=
      (follows_session scenario).moves hmoves
    have hlog : (scenario.session.run steps).1.log [step] =
        ((scenario.session.run steps).1.step step).2.log := List.append_nil _
    rw [TasksBehindStart, log_append, eachBehind_append_iff, hlog,
      tasksBehind_step_iff hfollows hfree, TurnsBehindStart, eachBehind_append_iff,
      eachBehind_singleton_iff, List.append_nil]
    exact and_congr_left fun _ => ih

/-! ### The engine's flag -/

theorem initialized_step {session : Session} {step : Step} (h : StepSetsByInit session step)
    (tells : session.engine.initialized = session.isStarted) :
    (session.step step).1.engine.initialized = (session.step step).1.isStarted := by
  by_cases hstart : step = .setup .start
  · subst hstart
    obtain ⟨hinit, -⟩ := h
    simp only [Session.step, performSetup] at hinit ⊢
    cases hflag : session.engine.initialized with
    | true =>
      rw [start_of_initialized hflag]
      exact tells
    | false =>
      rw [start_of_next hflag] at hinit ⊢
      cases hnext : session.platform.next with
      | none => exact tells
      | some line =>
        rw [hnext] at hinit
        exact hinit (by simp [Entry.log])
  · have hquiet := noStart_step session hstart
    have hnone : .event .initialized ∉ (session.step step).2.log :=
      fun hmem => Bool.noConfusion (hquiet.quiet _ hmem)
    rw [h.2 hnone, hquiet.isStarted_eq, tells]

theorem initialized_run {session : Session} {steps : List Step} (h : SetByInit session steps)
    (tells : session.engine.initialized = session.isStarted) :
    (session.run steps).1.engine.initialized = (session.run steps).1.isStarted := by
  induction steps generalizing session with
  | nil => exact tells
  | cons step rest ih =>
    obtain ⟨hstep, hrest⟩ := setByInit_cons_iff.mp h
    exact ih hrest (initialized_step hstep tells)

theorem engine_operate_of_held {session : Session} (held : session.token.held = true)
    (operation : Operation) : (session.operate operation).session.engine = session.engine := by
  cases operation with
  | interrupt =>
    simp only [operate, interrupt, held, if_true]
    split <;> rfl
  | inspectEngine => simp only [operate, held, if_true]
  | adjustEngine initialized initResult script => simp only [operate, held, if_true]
  | runInline => simp only [operate, runInline, held, if_true]
  | _ => rfl

/-- Under a hold nothing happens to the engine. -/
theorem engine_performAll_of_held {session : Session} (held : session.token.held = true)
    (body : List Action) : (performAll body session).1.engine = session.engine := by
  induction body generalizing session with
  | nil => rfl
  | cons action rest ih =>
    cases action with
    | single operation =>
      have hheld : (session.operate operation).session.token.held = true := by
        rw [operate_held, held]
      exact (ih hheld).trans (engine_operate_of_held held operation)
    | hold mode inner =>
      simp only [performAll, perform_hold_of_held held]
      exact ih held

theorem initialized_runTasks (count : Nat) (session : Session) :
    (runTasks count session).1.engine.initialized = session.engine.initialized := by
  induction count generalizing session with
  | zero => rfl
  | succ count ih => exact ih _

/-- **If initializing sets the flag and nothing else changes it, the flag tells at every instant
whether the controller is started**, under a hold and behind its release too. -/
theorem initialized_atInstant {session : Session} {instant : Instant}
    (h : SetByInit session instant.steps)
    (tells : session.engine.initialized = session.isStarted) :
    (session.atInstant instant).engine.initialized = (session.atInstant instant).isStarted := by
  have hinside (before : List Step) (body : List Action) (h : SetByInit session before) :
      (session.underHold before body).1.engine.initialized =
        (session.underHold before body).1.isStarted := by
    have hheld := (session.run before).1.take_held
    rw [underHold, engine_performAll_of_held hheld, (noStart_performAll hheld body).isStarted_eq]
    exact initialized_run h tells
  cases instant with
  | between before => exact initialized_run h tells
  | inside before body => exact hinside before body h
  | behind before body turns =>
    simp only [atInstant, behindHold]
    rw [initialized_runTasks, (noStart_runTasks _ _).isStarted_eq]
    exact hinside before body h

/-! ### All of it together -/

/-- **Tasks run behind a start as far as runs in turn are called for there.** In every session all
tasks begin behind a start that brought the engine up if and only if all runs in turn are called for
behind one: an interrupt waits for a start by itself, and a run in turn waits for the token only.

Behind such a start the device has its configuration at every instant. And on an engine that is not
initialized at first, whose flag is set by initializing and by nothing else, the flag is set at an
instant if and only if there was such a start before it. -/
theorem tasks_behind_start (scenario : Scenario) :
    let session := scenario.session
    (∀ steps, TasksBehindStart (session.log steps) ↔ session.TurnsBehindStart steps) ∧
    ∀ instant,
      let now := session.atInstant instant
      let log := session.logAt instant
      ((now.operate .interrupt).answer = .cycle .ran → .started ∈ log) ∧
      ((now.operate .runInline).answer = .ran ↔ now.token.held = false) ∧
      (.started ∈ log → now.device.configuration.isSome = true) ∧
      (scenario.initialized = false → SetByInit session instant.steps →
        (now.engine.initialized = true ↔ .started ∈ log)) := by
  intro session
  refine ⟨tasksBehindStart_iff scenario, ?_⟩
  intro instant now log
  have hfollows : Follows log now :=
    (follows_session scenario).moves (moves_instant scenario.session_token instant)
  have hstarted := hfollows.followsStart.started
  refine ⟨fun hran => (hfollows.followsStart.ran.mp hran).1, ?_, ?_, ?_⟩
  · simp only [operate, runInline]
    cases now.token.held <;> simp
  · exact fun hmem => hfollows.prepared (hstarted.mpr hmem)
  · intro hflag hset
    have htells : session.engine.initialized = session.isStarted := hflag
    have hnow : now.engine.initialized = now.isStarted := initialized_atInstant hset htells
    rw [hnow]
    exact hstarted

/-- A run in turn before the start of a keyboard, whose engine is not initialized and keeps its flag:
a task runs all the same, on an engine that is not initialized, and is told that there is no
configuration. -/
theorem task_before_start :
    let scenario : Scenario := { Scenario.keyboard with script := [.configuration 0] }
    let session := scenario.session
    let early := [Step.action (.single .runInline)]
    let steps := early ++ [.setup .start]
    scenario.initialized = false ∧ SetByInit session steps ∧
      session.log early = [.event (.taskBegan 1),
        .event (.answered (.configuration 0) (.optionalBytes none)), .event .taskEnded,
        .answer .ran] ∧
      (session.run early).1.engine.initialized = false ∧
      ¬ TasksBehindStart (session.log steps) := by
  intro scenario session early steps
  have hset : SetByInit session steps := by
    show SetByInit session [_, _]
    rw [setByInit_cons_iff, setByInit_cons_iff]
    exact ⟨by decide +kernel, by decide +kernel, setByInit_nil _⟩
  have hlog : session.log early = [.event (.taskBegan 1),
      .event (.answered (.configuration 0) (.optionalBytes none)), .event .taskEnded,
      .answer .ran] := by decide +kernel
  refine ⟨rfl, hset, hlog, rfl, ?_⟩
  intro hbehind
  rw [log_append, hlog] at hbehind
  cases hbehind [] (.event (.taskBegan 1)) _ rfl rfl

end Session

end UsbComposite
