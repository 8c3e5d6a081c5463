import UsbComposite.Proofs.Device.Instances
import UsbComposite.Proofs.Session.Trace

/-!
# A start is the only way up

A start looks at the engine's own flag, not at whether the controller was started. So what a second
start does depends on whether initializing sets that flag and on whether it is kept, and a controller
whose engine was initialized by somebody else never starts.

* `startsInOrder`: what a start answers, and what happens in which order, in every session;
* `noStart_step`: no other step has an effect of a start;
* `startsBalanced_log`: so over a whole session the effects of starts tally with their answers;
* `noStart_of_set`: as long as the flag is set, a start has none either.

The two cases of the flag, one that is set by the first start and one that is set from the
beginning, follow from the last.
-/

namespace UsbComposite

/-! ### What belongs to a start -/

/-- What a start does besides answering, whatever line it is about. -/
inductive StartEffect
  /-- The platform is asked for a line. -/
  | ask
  /-- The engine is initialized. -/
  | init
  /-- The line is enabled. -/
  | enable
  /-- The alarm is armed. -/
  | arm
deriving DecidableEq

namespace Occurrence

/-- Whether an occurrence belongs to a start that did not find the engine initialized: its answer, or
one of its four effects. -/
def ofStart : Occurrence → Bool
  | .answer (.startup (.ok .alreadyRunning)) => false
  | .answer (.startup _) | .event (.granted _) | .event .initialized | .event (.enabled _)
  | .event (.armed _) => true
  | _ => false

/-- The effect of a start that an occurrence is. -/
def startEffect? : Occurrence → Option StartEffect
  | .event (.granted _) => some .ask
  | .event .initialized => some .init
  | .event (.enabled _) => some .enable
  | .event (.armed _) => some .arm
  | _ => none

theorem ofStart_of_startEffect? {occurrence : Occurrence} {effect : StartEffect}
    (h : occurrence.startEffect? = some effect) : occurrence.ofStart = true := by
  unfold startEffect? at h
  split at h
  · rfl
  · rfl
  · rfl
  · rfl
  · cases h

/-- Whether the controller is shown as started, if somebody looks at it. -/
def shownStarted? : Occurrence → Option Bool
  | .answer (.snapshot snapshot) => some snapshot.started
  | _ => none

/-- How many starts were answered with an outcome. -/
def startups (outcome : Except Fault Startup) (log : List Occurrence) : Nat :=
  log.count (.answer (.startup outcome))

/-- How often a start had an effect. -/
def effects (effect : StartEffect) (log : List Occurrence) : Nat :=
  log.countP fun occurrence => occurrence.startEffect? = some effect

@[simp] theorem effects_append (effect : StartEffect) (log rest : List Occurrence) :
    effects effect (log ++ rest) = effects effect log + effects effect rest :=
  List.countP_append

@[simp] theorem startups_append (outcome : Except Fault Startup) (log rest : List Occurrence) :
    startups outcome (log ++ rest) = startups outcome log + startups outcome rest :=
  List.count_append

end Occurrence

namespace Session

open Occurrence

/-- A session in which the engine is initialized and a line is kept. -/
def bringUp (session : Session) (line : Line) : Session :=
  { session with engine := session.engine.init, line := some line }

/-- What a start answers and does, in order. -/
structure StartsInOrder (session : Session) : Prop where
  running : session.start.answer = .startup (.ok .alreadyRunning) ↔
    session.engine.initialized = true
  /-- A start that finds the engine initialized does nothing. -/
  untouched : session.engine.initialized = true →
    session.start.session = session ∧ session.start.events = []
  unavailable : session.start.answer = .startup (.error .noInterruptLine) ↔
    session.engine.initialized = false ∧ session.platform.next = none
  started : session.start.answer = .startup (.ok .started) ↔
    session.engine.initialized = false ∧ session.platform.next ≠ none
  /-- Otherwise it prepares the device and asks the platform for one line. -/
  prepared : session.asked.device.configuration.isSome = true
  withoutLine : session.engine.initialized = false → session.platform.next = none →
    session.start.events = [.granted none] ∧ session.start.session = session.asked
  /-- With a line the engine is initialized, in a session that has its configuration already. -/
  withLine : ∀ line, session.engine.initialized = false → session.platform.next = some line →
    session.start.events = [.granted (some line), .initialized, .enabled line, .armed 1000] ∧
      ∃ ready : Session,
        ready = { session with
          device := session.device.prepare.1
          platform := session.platform.ask } ∧
        ready.device.configuration.isSome = true ∧ session.start.session = ready.bringUp line

/-- Preparing never fails, so a start has three outcomes. -/
theorem prepare_ok (device : Device) : device.prepare.2 = .ok () := by
  unfold Device.prepare Device.buildConfiguration
  split
  · rfl
  · split
    · rename_i later fault hfault
      have hok := Device.buildReports_ok device
      rw [hfault] at hok
      cases hok
    · rw [Configuration.encode_ofRoles]

theorem start_of_initialized {session : Session} (h : session.engine.initialized = true) :
    session.start = ⟨session, .startup (.ok .alreadyRunning), []⟩ :=
  if_pos h

theorem start_of_next {session : Session} (h : session.engine.initialized = false) :
    session.start = match session.platform.next with
      | none => ⟨session.asked, .startup (.error .noInterruptLine), [.granted none]⟩
      | some line => ⟨session.asked.bringUp line, .startup (.ok .started),
          [.granted (some line), .initialized, .enabled line, .armed 1000]⟩ := by
  obtain ⟨hset, -⟩ | ⟨-, fault, hfault, -⟩ | ⟨-, -, hnext, hstart⟩ | ⟨-, -, line, hnext, hstart⟩ :=
    start_cases session
  · rw [h] at hset
    cases hset
  · rw [prepare_ok] at hfault
    cases hfault
  · rw [hstart, hnext]
  · rw [hstart, hnext]
    rfl

/-- **A start answers by the flag and the next line, and does its work in a fixed order.** -/
theorem startsInOrder (session : Session) : StartsInOrder session := by
  have hprepared : session.asked.device.configuration.isSome = true :=
    Device.isPrepared_prepare session.device
  cases hflag : session.engine.initialized with
  | true =>
    have hstart := start_of_initialized hflag
    constructor <;> simp [hstart, hflag, hprepared]
  | false =>
    have hstart := start_of_next hflag
    cases hnext : session.platform.next with
    | none =>
      rw [hnext] at hstart
      constructor <;> simp [hstart, hflag, hnext, hprepared]
    | some line =>
      rw [hnext] at hstart
      constructor
      case withLine =>
        intro other _ hother
        obtain rfl : line = other := Option.some.inj (hnext.symm.trans hother)
        rw [hstart]
        exact ⟨rfl, session.asked, rfl, hprepared, rfl⟩
      all_goals simp [hstart, hflag, hnext, hprepared]

/-! ### Everything but a start -/

/-- Nothing that belongs to a start happens, and the line stays as it is, also for whoever looks at
the controller meanwhile. -/
structure NoStart (first : Session) (log : List Occurrence) (second : Session) : Prop where
  quiet : ∀ o ∈ log, o.ofStart = false
  line : second.line = first.line
  inits : second.engine.inits = first.engine.inits
  shown : ∀ started ∈ log.filterMap shownStarted?, started = first.isStarted

theorem NoStart.isStarted_eq {first second : Session} {log : List Occurrence}
    (h : NoStart first log second) : second.isStarted = first.isStarted := by
  rw [isStarted, h.line, isStarted]

theorem NoStart.refl (session : Session) : NoStart session [] session :=
  ⟨by simp, rfl, rfl, by simp⟩

theorem NoStart.trans {first second third : Session} {log rest : List Occurrence}
    (h : NoStart first log second) (h' : NoStart second rest third) :
    NoStart first (log ++ rest) third := by
  refine ⟨?_, h'.line.trans h.line, h'.inits.trans h.inits, ?_⟩
  · intro o ho
    rcases List.mem_append.mp ho with ho | ho
    · exact h.quiet o ho
    · exact h'.quiet o ho
  · intro started hstarted
    rw [List.filterMap_append, List.mem_append] at hstarted
    rcases hstarted with hstarted | hstarted
    · exact h.shown started hstarted
    · rw [h'.shown started hstarted, h.isStarted_eq]

/-- Events that belong to no start, with the line and the count of initializations kept. -/
theorem noStart_events {first second : Session} {events : List Event}
    (hquiet : ∀ event ∈ events, (Occurrence.event event).ofStart = false)
    (line : second.line = first.line) (inits : second.engine.inits = first.engine.inits) :
    NoStart first (events.map .event) second := by
  have hshown : (events.map Occurrence.event).filterMap shownStarted? = [] := by
    rw [List.filterMap_map, List.filterMap_eq_nil_iff]
    intro event _
    rfl
  refine ⟨?_, line, inits, by simp [hshown]⟩
  intro o ho
  obtain ⟨event, hevent, rfl⟩ := List.mem_map.mp ho
  exact hquiet event hevent

/-- An occurrence that is not a start's and shows nothing of the controller. -/
theorem noStart_single {first second : Session} {occurrence : Occurrence}
    (hquiet : occurrence.ofStart = false) (hshown : occurrence.shownStarted? = none)
    (line : second.line = first.line) (inits : second.engine.inits = first.engine.inits) :
    NoStart first [occurrence] second :=
  ⟨by simp [hquiet], line, inits, by simp [hshown]⟩

theorem ofStart_answerAll (board : BoardId) (requests : List Request) (device : Device) :
    ∀ event ∈ (answerAll board requests device).2, (Occurrence.event event).ofStart = false := by
  induction requests generalizing device with
  | nil =>
    intro event hevent
    cases hevent
  | cons request rest ih =>
    intro event hevent
    simp only [answerAll, List.mem_append, List.mem_map, List.mem_cons] at hevent
    rcases hevent with ⟨effect, -, rfl⟩ | rfl | hevent
    · rfl
    · rfl
    · exact ih _ event hevent

theorem noStart_runTask (session : Session) :
    NoStart session (session.runTask.2.map .event) session.runTask.1 := by
  refine noStart_events ?_ rfl rfl
  intro event hevent
  simp only [runTask, List.cons_append, List.mem_cons, List.mem_append, List.not_mem_nil,
    or_false] at hevent
  rcases hevent with rfl | hevent | rfl
  · rfl
  · exact ofStart_answerAll _ _ _ event hevent
  · rfl

theorem noStart_runTasks (count : Nat) (session : Session) :
    NoStart session ((runTasks count session).2.map .event) (runTasks count session).1 := by
  induction count generalizing session with
  | zero => exact .refl session
  | succ count ih =>
    simp only [runTasks, List.map_append]
    exact (noStart_runTask session).trans (ih _)

theorem noStart_effects (effects : List Effect) (session : Session) :
    NoStart session ((effects.map Event.effect).map .event) session := by
  refine noStart_events ?_ rfl rfl
  intro event hevent
  obtain ⟨effect, -, rfl⟩ := List.mem_map.mp hevent
  rfl

/-- **No operation is a start.** -/
theorem noStart_operate (session : Session) (operation : Operation) :
    NoStart session (session.operate operation).log (session.operate operation).session := by
  cases hdrives : session.drives operation with
  | true =>
    rw [operate_of_drives hdrives]
    refine (noStart_runTask session).trans (noStart_single ?_ ?_ rfl rfl)
    · split <;> rfl
    · split <;> rfl
  | false =>
    cases operation with
    | request request => exact (noStart_effects _ _).trans (noStart_single rfl rfl rfl rfl)
    | mediumReady lun => exact (noStart_effects _ _).trans (noStart_single rfl rfl rfl rfl)
    | inspect =>
      refine ⟨by simp [operate, Result.log, Entry.log, ofStart], rfl, rfl, ?_⟩
      intro started hstarted
      exact List.mem_singleton.mp hstarted
    | alarm =>
      have hquiet : ∀ event ∈ (session.line.map Event.pended).toList,
          (Occurrence.event event).ofStart = false := by
        intro event hevent
        obtain ⟨line, -, rfl⟩ := Option.map_eq_some_iff.mp (Option.mem_toList.mp hevent)
        rfl
      have hpended : NoStart session ((session.line.map Event.pended).toList.map .event) session :=
        noStart_events hquiet rfl rfl
      exact hpended.trans (noStart_single rfl rfl rfl rfl)
    | interrupt =>
      rw [operate_interrupt_of_not_drives hdrives]
      exact noStart_single rfl rfl rfl rfl
    | inspectEngine =>
      simp only [operate]
      split <;> exact noStart_single rfl rfl rfl rfl
    | adjustEngine initialized initResult script =>
      simp only [operate]
      split <;> exact noStart_single rfl rfl rfl rfl
    | runInline =>
      rw [operate_runInline_of_not_drives hdrives]
      exact noStart_single rfl rfl rfl rfl
    | _ => exact noStart_single rfl rfl rfl rfl

/-- A hold that is refused leaves its answer alone. -/
theorem noStart_refuse (session : Session) (mode : HoldMode) :
    NoStart session [.answer (refusal mode)] session := by
  cases mode <;> exact noStart_single rfl rfl rfl rfl

/-- Under a hold no action is a start. -/
theorem noStart_performAll {session : Session} (held : session.token.held = true)
    (body : List Action) :
    NoStart session (Entry.logAll (performAll body session).2) (performAll body session).1 := by
  induction body generalizing session with
  | nil => exact .refl session
  | cons action rest ih =>
    cases action with
    | single operation =>
      have hheld : (session.operate operation).session.token.held = true := by
        rw [operate_held, held]
      exact (noStart_operate session operation).trans (ih hheld)
    | hold mode inner =>
      simp only [performAll, perform_hold_of_held held, Entry.logAll]
      exact (noStart_refuse session mode).trans (ih held)

/-- **No action is a start**, whatever is held and whatever waits. -/
theorem noStart_perform (session : Session) (action : Action) :
    NoStart session (perform action session).2.log (perform action session).1 := by
  cases action with
  | single operation => exact noStart_operate session operation
  | hold mode body =>
    cases hheld : session.token.held with
    | true =>
      rw [perform_hold_of_held hheld]
      exact noStart_refuse session mode
    | false =>
      rw [perform_hold_of_free hheld]
      have htaken : NoStart session [.taken] session.take := noStart_single rfl rfl rfl rfl
      have hinside := noStart_performAll session.take_held body
      have hreleased : NoStart (performAll body session.take).1 [.released]
          { (performAll body session.take).1 with token := .free } :=
        noStart_single rfl rfl rfl rfl
      exact (htaken.trans hinside).trans (hreleased.trans (noStart_runTasks _ _))

/-- **No step but a start has an effect of one**, and no other step changes the line. -/
theorem noStart_step (session : Session) {step : Step} (h : step ≠ .setup .start) :
    NoStart session (session.step step).2.log (session.step step).1 := by
  cases step with
  | action action => exact noStart_perform session action
  | setup setup =>
    cases setup with
    | start => exact absurd rfl h
    | _ => exact noStart_single rfl rfl rfl rfl

/-! ### Counting over a session -/

/-- The effects of starts tally with their answers: every start that brought the engine up initialized
it, enabled a line and armed the alarm, each once; and the platform was asked for a line by these and
by those that were given none. -/
structure StartsBalanced (log : List Occurrence) : Prop where
  inits : effects .init log = startups (.ok .started) log
  enables : effects .enable log = startups (.ok .started) log
  arms : effects .arm log = startups (.ok .started) log
  asks : effects .ask log =
    startups (.ok .started) log + startups (.error .noInterruptLine) log

theorem StartsBalanced.append {log rest : List Occurrence} (h : StartsBalanced log)
    (h' : StartsBalanced rest) : StartsBalanced (log ++ rest) := by
  constructor
  · rw [effects_append, startups_append, h.inits, h'.inits]
  · rw [effects_append, startups_append, h.enables, h'.enables]
  · rw [effects_append, startups_append, h.arms, h'.arms]
  · rw [effects_append, startups_append, startups_append, h.asks, h'.asks]
    omega

/-- Where nothing belongs to such a start, all that a start is answered is that the engine runs. -/
theorem alreadyRunning_of_quiet {log : List Occurrence} (quiet : ∀ o ∈ log, o.ofStart = false)
    {outcome : Except Fault Startup} (h : .answer (.startup outcome) ∈ log) :
    outcome = .ok .alreadyRunning := by
  have hquiet := quiet _ h
  cases outcome with
  | error fault => cases hquiet
  | ok startup =>
    cases startup with
    | started => cases hquiet
    | alreadyRunning => rfl

theorem startups_of_quiet {log : List Occurrence} (quiet : ∀ o ∈ log, o.ofStart = false)
    {outcome : Except Fault Startup} (h : outcome ≠ .ok .alreadyRunning) :
    startups outcome log = 0 :=
  List.count_eq_zero_of_not_mem fun hmem => h (alreadyRunning_of_quiet quiet hmem)

theorem effects_of_quiet {log : List Occurrence} (quiet : ∀ o ∈ log, o.ofStart = false)
    (effect : StartEffect) : effects effect log = 0 := by
  rw [effects, List.countP_eq_zero]
  intro o ho heffect
  have hofStart := ofStart_of_startEffect? (of_decide_eq_true heffect)
  rw [quiet o ho] at hofStart
  cases hofStart

/-- A log in which nothing belongs to such a start tallies. -/
theorem startsBalanced_of_quiet {log : List Occurrence} (quiet : ∀ o ∈ log, o.ofStart = false) :
    StartsBalanced log := by
  have hstarted : startups (.ok .started) log = 0 := startups_of_quiet quiet (by decide)
  have hunavailable : startups (.error .noInterruptLine) log = 0 :=
    startups_of_quiet quiet (by decide)
  constructor
  · rw [effects_of_quiet quiet, hstarted]
  · rw [effects_of_quiet quiet, hstarted]
  · rw [effects_of_quiet quiet, hstarted]
  · rw [effects_of_quiet quiet, hstarted, hunavailable]

theorem startups_result (result : Result) (outcome : Except Fault Startup) :
    startups outcome result.log = if result.answer = .startup outcome then 1 else 0 := by
  have hevents : startups outcome (result.events.map .event) = 0 := by
    apply List.count_eq_zero_of_not_mem
    intro hmem
    obtain ⟨event, -, hevent⟩ := List.mem_map.mp hmem
    cases hevent
  rw [Result.log, Entry.log, startups_append, hevents, startups, List.count_singleton]
  simp

/-- The log of a start tallies. -/
theorem startsBalanced_start (session : Session) : StartsBalanced session.start.log := by
  cases hflag : session.engine.initialized with
  | true =>
    rw [start_of_initialized hflag]
    exact ⟨rfl, rfl, rfl, rfl⟩
  | false =>
    rw [start_of_next hflag]
    cases session.platform.next with
    | none => exact ⟨rfl, rfl, rfl, rfl⟩
    | some line => exact ⟨rfl, rfl, rfl, rfl⟩

/-- **Over a session the effects of starts tally with their answers.** -/
theorem startsBalanced_log (session : Session) (steps : List Step) :
    StartsBalanced (session.log steps) := by
  induction steps generalizing session with
  | nil => exact startsBalanced_of_quiet (by simp [Session.log, run, Entry.logAll])
  | cons step rest ih =>
    have hstep : StartsBalanced (session.step step).2.log := by
      by_cases hstart : step = .setup .start
      · rw [hstart]
        exact startsBalanced_start session
      · exact startsBalanced_of_quiet (noStart_step session hstart).quiet
    exact hstep.append (ih _)

/-! ### While the flag is set -/

/-- **A step that finds the flag set brings nothing up**, not even a start. -/
theorem noStart_of_set {session : Session} (h : session.engine.initialized = true) (step : Step) :
    NoStart session (session.step step).2.log (session.step step).1 := by
  by_cases hstart : step = .setup .start
  · rw [hstart]
    show NoStart session session.start.log session.start.session
    rw [start_of_initialized h]
    exact noStart_single rfl rfl rfl rfl
  · exact noStart_step session hstart

/-- Steps that all find the flag set bring nothing up. -/
theorem noStart_run {session : Session} {steps : List Step}
    (h : ∀ before step after, steps = before ++ step :: after →
      (session.run before).1.engine.initialized = true) :
    NoStart session (session.log steps) (session.run steps).1 := by
  induction steps generalizing session with
  | nil => exact .refl session
  | cons step rest ih =>
    have hfirst := noStart_of_set (h [] step rest rfl) step
    have hset : ∀ before later after, rest = before ++ later :: after →
        ((session.step step).1.run before).1.engine.initialized = true :=
      fun before later after hsplit =>
        h (step :: before) later after (by rw [hsplit, List.cons_append])
    exact hfirst.trans (ih hset)

/-- No step clears the flag. -/
def NeverCleared (session : Session) (steps : List Step) : Prop :=
  ∀ before step after, steps = before ++ step :: after →
    (session.run before).1.engine.initialized = true →
      ((session.run before).1.step step).1.engine.initialized = true

theorem NeverCleared.tail {session : Session} {step : Step} {rest : List Step}
    (h : NeverCleared session (step :: rest)) : NeverCleared (session.step step).1 rest :=
  fun before later after hsplit =>
    h (step :: before) later after (by rw [hsplit, List.cons_append])

theorem NeverCleared.front {session : Session} {before after : List Step}
    (h : NeverCleared session (before ++ after)) : NeverCleared session before :=
  fun first step rest hsplit =>
    h first step (rest ++ after) (by rw [hsplit, List.append_assoc, List.cons_append])

/-- **A flag that is set and never cleared is set for good.** -/
theorem NeverCleared.set {session : Session} {steps : List Step} (h : NeverCleared session steps)
    (hset : session.engine.initialized = true) {before after : List Step}
    (hsplit : steps = before ++ after) : (session.run before).1.engine.initialized = true := by
  induction before generalizing session steps with
  | nil => exact hset
  | cons step before ih =>
    subst hsplit
    exact ih h.tail (h [] step _ rfl hset) rfl

/-- Steps in which nothing clears a flag that is set bring nothing up. -/
theorem NeverCleared.noStart {session : Session} {steps : List Step}
    (h : NeverCleared session steps) (hset : session.engine.initialized = true) :
    NoStart session (session.log steps) (session.run steps).1 :=
  noStart_run fun _ _ _ hsplit => h.set hset hsplit

/-! ### A flag that initializing sets -/

/-- In a step, initializing the engine sets its flag and nothing else changes it. -/
def StepSetsByInit (session : Session) (step : Step) : Prop :=
  (.event .initialized ∈ (session.step step).2.log →
    (session.step step).1.engine.initialized = true) ∧
  (.event .initialized ∉ (session.step step).2.log →
    (session.step step).1.engine.initialized = session.engine.initialized)

instance (session : Session) (step : Step) : Decidable (StepSetsByInit session step) :=
  inferInstanceAs (Decidable (_ ∧ _))

/-- Along steps, initializing the engine sets its flag and nothing else changes it. -/
def SetByInit (session : Session) (steps : List Step) : Prop :=
  ∀ before step after, steps = before ++ step :: after →
    StepSetsByInit (session.run before).1 step

theorem setByInit_nil (session : Session) : SetByInit session [] := by
  intro before step after hsplit
  cases before <;> cases hsplit

theorem setByInit_cons_iff {session : Session} {step : Step} {rest : List Step} :
    SetByInit session (step :: rest) ↔
      StepSetsByInit session step ∧ SetByInit (session.step step).1 rest := by
  constructor
  · intro h
    refine ⟨h [] step rest rfl, fun before later after hsplit => ?_⟩
    exact h (step :: before) later after (by rw [hsplit, List.cons_append])
  · rintro ⟨hfirst, hrest⟩ before later after hsplit
    cases before with
    | nil =>
      cases hsplit
      exact hfirst
    | cons first before =>
      cases hsplit
      exact hrest before later after rfl

theorem SetByInit.behind {session : Session} {before after : List Step}
    (h : SetByInit session (before ++ after)) : SetByInit (session.run before).1 after := by
  induction before generalizing session with
  | nil => exact h
  | cons step before ih => exact ih (setByInit_cons_iff.mp h).2

theorem SetByInit.neverCleared {session : Session} {steps : List Step}
    (h : SetByInit session steps) : NeverCleared session steps := by
  intro before step after hsplit hset
  obtain ⟨hinit, hother⟩ := h before step after hsplit
  by_cases hmem : .event .initialized ∈ ((session.run before).1.step step).2.log
  · exact hinit hmem
  · rw [hother hmem, hset]

/-- Behind a start that brought the engine up, nothing is brought up again. -/
theorem SetByInit.noStart_behind {session : Session} {rest : List Step}
    (h : SetByInit session (.setup .start :: rest))
    (hstarted : session.start.answer = .startup (.ok .started)) :
    NoStart session.start.session (session.start.session.log rest)
      (session.start.session.run rest).1 := by
  obtain ⟨hflag, hnext⟩ := (startsInOrder session).started.mp hstarted
  obtain ⟨line, hline⟩ := Option.ne_none_iff_exists'.mp hnext
  have hinit : .event .initialized ∈ (session.step (.setup .start)).2.log := by
    show Occurrence.event .initialized ∈ session.start.log
    rw [start_of_next hflag, hline]
    simp [Result.log, Entry.log]
  obtain ⟨hfirst, hrest⟩ := setByInit_cons_iff.mp h
  exact hrest.neverCleared.noStart (hfirst.1 hinit)

/-- **At most one start brings the engine up.** -/
theorem SetByInit.startups_le_one {session : Session} {steps : List Step}
    (h : SetByInit session steps) : startups (.ok .started) (session.log steps) ≤ 1 := by
  induction steps generalizing session with
  | nil => exact Nat.zero_le _
  | cons step rest ih =>
    have hlog : session.log (step :: rest) =
        (session.step step).2.log ++ (session.step step).1.log rest := rfl
    have hrest := ih (setByInit_cons_iff.mp h).2
    rw [hlog, startups_append]
    by_cases hstart : step = .setup .start
    · subst hstart
      have hfirst := startups_result session.start (.ok .started)
      by_cases hstarted : session.start.answer = .startup (.ok .started)
      · have hbehind : startups (.ok .started) (session.start.session.log rest) = 0 :=
          startups_of_quiet (h.noStart_behind hstarted).quiet (by decide)
        rw [if_pos hstarted] at hfirst
        exact Nat.le_of_eq (congrArg₂ Nat.add hfirst hbehind)
      · rw [if_neg hstarted] at hfirst
        show startups _ session.start.log + _ ≤ 1
        rw [hfirst, Nat.zero_add]
        exact hrest
    · have hnone : startups (.ok .started) (session.step step).2.log = 0 :=
        startups_of_quiet (noStart_step session hstart).quiet (by decide)
      rw [hnone, Nat.zero_add]
      exact hrest

/-- **A start is the only way up, in one fixed order.** In every session a start answers by the
engine's flag and by the line that the platform gives next, and its effects come in one order, behind
the preparation of the device. No other step has such an effect. Over a whole session the effects of
starts tally with their answers. If initializing sets the flag and nothing else changes it, at most
one start brings the engine up, whatever the flag was at first, and behind it all starts answer that
it runs. And if the flag is set at first and nothing clears it, no start ever does anything and the
controller is never seen as started. -/
theorem start_only_way_up (scenario : Scenario) (steps : List Step) :
    let session := scenario.session
    (∀ now : Session, StartsInOrder now) ∧
    (∀ (now : Session) (step : Step), step ≠ .setup .start →
      NoStart now (now.step step).2.log (now.step step).1) ∧
    StartsBalanced (session.log steps) ∧
    (SetByInit session steps →
      startups (.ok .started) (session.log steps) ≤ 1 ∧
      ∀ before after, steps = before ++ .setup .start :: after →
        (session.run before).1.start.answer = .startup (.ok .started) →
          ∀ outcome, .answer (.startup outcome) ∈
            (session.run before).1.start.session.log after → outcome = .ok .alreadyRunning) ∧
    (scenario.initialized = true → NeverCleared session steps →
      NoStart session (session.log steps) (session.run steps).1 ∧
      (∀ outcome, .answer (.startup outcome) ∈ session.log steps →
        outcome = .ok .alreadyRunning) ∧
      (∀ before after, steps = before ++ after → (session.run before).1.isStarted = false) ∧
      ∀ started ∈ (session.log steps).filterMap shownStarted?, started = false) := by
  intro session
  refine ⟨startsInOrder, fun now step => noStart_step now, startsBalanced_log session steps, ?_, ?_⟩
  · intro hset
    refine ⟨hset.startups_le_one, ?_⟩
    intro before after hsplit hstarted outcome houtcome
    subst hsplit
    exact alreadyRunning_of_quiet (hset.behind.noStart_behind hstarted).quiet houtcome
  · intro hflag hkept
    have hdown := hkept.noStart hflag
    refine ⟨hdown, fun _ houtcome => alreadyRunning_of_quiet hdown.quiet houtcome, ?_, hdown.shown⟩
    intro before after hsplit
    subst hsplit
    exact (hkept.front.noStart hflag).isStarted_eq

/-- A keyboard whose engine keeps its flag starts once, on the line that there is, and a second start
finds it running. With an engine that was initialized before, it never starts. -/
theorem start_only_way_up_keyboard :
    let steps := [Step.setup .start, .setup .start]
    let session := Scenario.keyboard.session
    let set : Scenario := { Scenario.keyboard with initialized := true }
    SetByInit session steps ∧ NeverCleared set.session steps ∧
      startups (.ok .started) (session.log steps) = 1 ∧
      (∀ outcome, .answer (.startup outcome) ∈ session.start.session.log [.setup .start] →
        outcome = .ok .alreadyRunning) ∧
      (set.session.run steps).1.isStarted = false := by
  intro steps session set
  have hset : SetByInit session steps := by
    rw [setByInit_cons_iff, setByInit_cons_iff]
    exact ⟨by decide +kernel, by decide +kernel, setByInit_nil _⟩
  have hkept : NeverCleared set.session steps := by
    apply SetByInit.neverCleared
    rw [setByInit_cons_iff, setByInit_cons_iff]
    exact ⟨by decide +kernel, by decide +kernel, setByInit_nil _⟩
  have hstarted : session.start.answer = .startup (.ok .started) := by decide +kernel
  have hcount : 0 < startups (.ok .started) (session.log steps) := by decide +kernel
  obtain ⟨-, -, -, hunset, -⟩ := start_only_way_up Scenario.keyboard steps
  obtain ⟨-, -, -, -, hdown⟩ := start_only_way_up set steps
  obtain ⟨hle, hlater⟩ := hunset hset
  refine ⟨hset, hkept, Nat.le_antisymm hle hcount, ?_, ?_⟩
  · exact hlater [] [.setup .start] rfl hstarted
  · exact (hdown rfl hkept).2.2.1 steps [] rfl

end Session

end UsbComposite
