import UsbComposite.Proofs.Session.Builds

/-!
# A start that fails can be retried

A start that finds no interrupt line has prepared the device and has asked the platform for a line,
and has done nothing else. So it is a preparation, on a platform that was asked once more.

What that difference comes to later is told by a comparison of two sessions that are alike but for
their platforms. Of all steps only a start looks at the platform, and only if it finds the engine not
initialized.

* `start_of_unavailable`: a start that finds no line is a preparation, but for the platform;
* `alike_step`, `alike_run`: sessions that are alike but for the platform stay so with the same
  entries, up to a start that is given one line here and another there;
* `Platform.SameFuture.next`: platforms with the same future give the same lines for good;
* `start_retried`: starts that fail make no difference to a start behind them.
-/

namespace UsbComposite

/-! ### Answers -/

/-- The answer that an occurrence is. -/
def Occurrence.answer? : Occurrence → Option Answer
  | .answer given => some given
  | _ => none

theorem Entry.answers_eq (entries : List Entry) :
    answers entries = (logAll entries).filterMap Occurrence.answer? := rfl

/-- The answers of a list of entries begin with that of the first. -/
theorem Entry.answers_answered (answer : Answer) (events : List Event) (rest : List Entry) :
    answers (.answered answer events :: rest) = answer :: answers rest := by
  have hevents : (events.map Occurrence.event).filterMap Occurrence.answer? = [] := by
    rw [List.filterMap_map, List.filterMap_eq_nil_iff]
    intro event _
    rfl
  simp only [answers_eq, logAll, log, List.filterMap_append, hevents, List.filterMap_cons,
    Occurrence.answer?, List.filterMap_nil, List.nil_append, List.singleton_append]

/-! ### Platforms -/

namespace Platform

/-- Two platforms give the same lines from now on, whatever is offered later: the same entries lie
ahead of both, and as many entries that come later are passed over. -/
structure SameFuture (first second : Platform) : Prop where
  ahead : first.lines.drop first.asked = second.lines.drop second.asked
  passed : first.asked - first.lines.length = second.asked - second.lines.length

theorem next_eq (platform : Platform) :
    platform.next = (platform.lines.drop platform.asked).head?.join := by
  rw [next, List.head?_drop]

theorem SameFuture.next {first second : Platform} (h : first.SameFuture second) :
    first.next = second.next := by
  rw [next_eq, next_eq, h.ahead]

theorem SameFuture.ask {first second : Platform} (h : first.SameFuture second) :
    first.ask.SameFuture second.ask := by
  have hlength := congrArg List.length h.ahead
  have hpassed := h.passed
  rw [List.length_drop, List.length_drop] at hlength
  constructor
  · show first.lines.drop (first.asked + 1) = second.lines.drop (second.asked + 1)
    rw [← List.drop_drop, ← List.drop_drop, h.ahead]
  · show first.asked + 1 - first.lines.length = second.asked + 1 - second.lines.length
    omega

theorem SameFuture.offer {first second : Platform} (h : first.SameFuture second)
    (line : Option Line) : (first.offer line).SameFuture (second.offer line) := by
  have hpassed := h.passed
  constructor
  · show (first.lines ++ [line]).drop first.asked = (second.lines ++ [line]).drop second.asked
    rw [List.drop_append, List.drop_append, h.ahead, h.passed]
  · show first.asked - (first.lines ++ [line]).length =
      second.asked - (second.lines ++ [line]).length
    rw [List.length_append, List.length_append]
    omega

/-- A platform that was asked has the future of one without the entry that it gave. -/
theorem sameFuture_eraseIdx {platform : Platform} (h : platform.asked < platform.lines.length) :
    SameFuture ⟨platform.lines.eraseIdx platform.asked, platform.asked⟩ platform.ask := by
  constructor
  · show (platform.lines.eraseIdx platform.asked).drop platform.asked =
      platform.lines.drop (platform.asked + 1)
    rw [List.eraseIdx_eq_take_drop_succ, List.drop_append, List.length_take,
      Nat.min_eq_left (Nat.le_of_lt h), Nat.sub_self, List.drop_zero,
      List.drop_of_length_le (by rw [List.length_take]; omega), List.nil_append]
  · show platform.asked - (platform.lines.eraseIdx platform.asked).length =
      platform.asked + 1 - platform.lines.length
    rw [List.length_eraseIdx_of_lt h]
    omega

end Platform

namespace Session

/-- The session on another platform. -/
def withPlatform (session : Session) (platform : Platform) : Session :=
  { session with platform := platform }

/-! ### Sessions that are alike but for the platform -/

/-- Two sessions differ in their platforms at most, and these are related. -/
structure Alike (related : Platform → Platform → Prop) (first second : Session) : Prop where
  same : second = first.withPlatform second.platform
  platforms : related first.platform second.platform

/-- A relation of platforms that asking and offering keep. -/
structure Lasting (related : Platform → Platform → Prop) : Prop where
  ask : ∀ {p q : Platform}, related p q → related p.ask q.ask
  offer : ∀ {p q : Platform} (line : Option Line), related p q → related (p.offer line) (q.offer line)

theorem lasting_sameFuture : Lasting Platform.SameFuture :=
  ⟨fun h => h.ask, fun line h => h.offer line⟩

/-- No relation at all. -/
theorem lasting_true : Lasting fun _ _ => True :=
  ⟨fun _ => trivial, fun _ _ => trivial⟩

variable {related : Platform → Platform → Prop}

/-- Two results with the same answer and the same events, in sessions that are alike. -/
structure AlikeResults (related : Platform → Platform → Prop) (first second : Result) : Prop where
  session : Alike related first.session second.session
  answer : second.answer = first.answer
  events : second.events = first.events

/-- Two sessions with the same entries behind them, alike themselves. -/
structure AlikeRuns {E : Type} (related : Platform → Platform → Prop)
    (first second : Session × E) : Prop where
  session : Alike related first.1 second.1
  entries : second.2 = first.2

theorem alike_runTasks {first second : Session} (h : Alike related first second) (count : Nat) :
    AlikeRuns related (runTasks count first) (runTasks count second) := by
  induction count generalizing first second with
  | zero => exact ⟨h, rfl⟩
  | succ count ih =>
    obtain ⟨platform, hplatform⟩ : ∃ platform, second = first.withPlatform platform :=
      ⟨_, h.same⟩
    have hfirst : Alike related first.runTask.1 second.runTask.1 := by
      subst hplatform
      exact ⟨rfl, h.platforms⟩
    have hevents : second.runTask.2 = first.runTask.2 := by
      subst hplatform
      rfl
    obtain ⟨hsession, hentries⟩ := ih hfirst
    refine ⟨hsession, ?_⟩
    simp only [runTasks, hentries, hevents]

/-- **No operation looks at the platform.** -/
theorem alike_operate (lasting : Lasting related) {first second : Session}
    (h : Alike related first second) (operation : Operation) :
    AlikeResults related (first.operate operation) (second.operate operation) := by
  obtain ⟨hsame, hplatforms⟩ := h
  generalize second.platform = platform at hsame hplatforms
  subst hsame
  cases operation with
  | offerLine line => exact ⟨⟨rfl, lasting.offer line hplatforms⟩, rfl, rfl⟩
  | interrupt =>
    simp only [operate, interrupt]
    show AlikeResults related _ (if first.isStarted then if first.token.held then _ else _ else _)
    split
    · split <;> exact ⟨⟨rfl, hplatforms⟩, rfl, rfl⟩
    · exact ⟨⟨rfl, hplatforms⟩, rfl, rfl⟩
  | inspectEngine =>
    simp only [operate]
    show AlikeResults related _ (if first.token.held then _ else _)
    split <;> exact ⟨⟨rfl, hplatforms⟩, rfl, rfl⟩
  | adjustEngine initialized initResult script =>
    simp only [operate]
    show AlikeResults related _ (if first.token.held then _ else _)
    split <;> exact ⟨⟨rfl, hplatforms⟩, rfl, rfl⟩
  | runInline =>
    simp only [operate, runInline]
    show AlikeResults related _ (if first.token.held then _ else _)
    split <;> exact ⟨⟨rfl, hplatforms⟩, rfl, rfl⟩
  | _ => exact ⟨⟨rfl, hplatforms⟩, rfl, rfl⟩

theorem Alike.held_eq {first second : Session} (h : Alike related first second) :
    second.token.held = first.token.held := by
  rw [h.same]
  rfl

theorem alike_performAll (lasting : Lasting related) {first second : Session}
    (h : Alike related first second) (held : first.token.held = true) (body : List Action) :
    AlikeRuns related (performAll body first) (performAll body second) := by
  induction body generalizing first second with
  | nil => exact ⟨h, rfl⟩
  | cons action rest ih =>
    cases action with
    | single operation =>
      obtain ⟨hsession, hanswer, hevents⟩ := alike_operate lasting h operation
      obtain ⟨hlater, hentries⟩ := ih hsession (by rw [operate_held, held])
      refine ⟨hlater, ?_⟩
      simp only [performAll, perform, hanswer, hevents, hentries]
    | hold mode inner =>
      obtain ⟨hlater, hentries⟩ := ih h held
      simp only [performAll, perform_hold_of_held held,
        perform_hold_of_held (h.held_eq.trans held)]
      exact ⟨hlater, by rw [hentries]⟩

/-- No action looks at the platform. -/
theorem alike_perform (lasting : Lasting related) {first second : Session}
    (h : Alike related first second) (action : Action) :
    AlikeRuns related (perform action first) (perform action second) := by
  cases action with
  | single operation =>
    obtain ⟨hsession, hanswer, hevents⟩ := alike_operate lasting h operation
    exact ⟨hsession, by simp only [perform, hanswer, hevents]⟩
  | hold mode body =>
    cases hheld : first.token.held with
    | true =>
      rw [perform_hold_of_held hheld, perform_hold_of_held (h.held_eq.trans hheld)]
      exact ⟨h, rfl⟩
    | false =>
      rw [perform_hold_of_free hheld, perform_hold_of_free (h.held_eq.trans hheld)]
      have htaken : Alike related first.take second.take := by
        rw [h.same]
        exact ⟨rfl, h.platforms⟩
      obtain ⟨hinside, hentries⟩ := alike_performAll lasting htaken rfl body
      -- both sessions have the same runs waiting, and release the token alike
      have hwaiting : (performAll body second.take).1.token.waiting =
          (performAll body first.take).1.token.waiting := by
        rw [hinside.same]
        rfl
      have hfree : Alike related
          { (performAll body first.take).1 with token := .free }
          { (performAll body second.take).1 with token := .free } := by
        rw [hinside.same]
        exact ⟨rfl, hinside.platforms⟩
      obtain ⟨hreleased, hevents⟩ :=
        alike_runTasks hfree (performAll body first.take).1.token.waiting
      simp only [release, hwaiting]
      exact ⟨hreleased, by rw [hentries, hevents]⟩

/-- Two sessions ask their platforms for a line and are given different ones. -/
structure PartAtStart (first second : Session) : Prop where
  engine : first.engine.initialized = false
  lines : second.platform.next ≠ first.platform.next

/-- **A start that is given the same line is the same start.** -/
theorem alike_start (lasting : Lasting related) {first second : Session}
    (h : Alike related first second) (hsame : ¬ PartAtStart first second) :
    AlikeResults related first.start second.start := by
  obtain ⟨platform, hplatform⟩ : ∃ platform, second = first.withPlatform platform := ⟨_, h.same⟩
  subst hplatform
  cases hflag : first.engine.initialized with
  | true =>
    have hflag' : (first.withPlatform platform).engine.initialized = true := hflag
    rw [start_of_initialized hflag, start_of_initialized hflag']
    exact ⟨h, rfl, rfl⟩
  | false =>
    have hflag' : (first.withPlatform platform).engine.initialized = false := hflag
    have hnext : (first.withPlatform platform).platform.next = first.platform.next :=
      Decidable.not_not.mp fun hother => hsame ⟨hflag, hother⟩
    rw [start_of_next hflag, start_of_next hflag', hnext]
    cases first.platform.next with
    | none => exact ⟨⟨rfl, lasting.ask h.platforms⟩, rfl, rfl⟩
    | some line => exact ⟨⟨rfl, lasting.ask h.platforms⟩, rfl, rfl⟩

/-- **A step keeps sessions alike and has the same entry in both**, unless they part at a start. -/
theorem alike_step (lasting : Lasting related) {first second : Session}
    (h : Alike related first second) (step : Step)
    (hsame : step = .setup .start → ¬ PartAtStart first second) :
    AlikeRuns related (first.step step) (second.step step) := by
  cases step with
  | action action => exact alike_perform lasting h action
  | setup setup =>
    have hresults : AlikeResults related (first.performSetup setup)
        (second.performSetup setup) := by
      cases setup with
      | start => exact alike_start lasting h (hsame rfl)
      | _ =>
        rw [h.same]
        exact ⟨⟨rfl, h.platforms⟩, rfl, rfl⟩
    obtain ⟨hsession, hanswer, hevents⟩ := hresults
    exact ⟨hsession, by simp only [Session.step, hanswer, hevents]⟩

/-- **Sessions that are alike but for the platform stay so, with the same entries**, or else they part
at a start, with the same entries up to it. -/
theorem alike_run (lasting : Lasting related) {first second : Session}
    (h : Alike related first second) (steps : List Step) :
    AlikeRuns related (first.run steps) (second.run steps) ∨
      ∃ before after, steps = before ++ .setup .start :: after ∧
        AlikeRuns related (first.run before) (second.run before) ∧
        PartAtStart (first.run before).1 (second.run before).1 := by
  induction steps generalizing first second with
  | nil => exact .inl ⟨h, rfl⟩
  | cons step rest ih =>
    by_cases hpart : step = .setup .start ∧ PartAtStart first second
    · obtain ⟨rfl, hpart⟩ := hpart
      exact .inr ⟨[], rest, rfl, ⟨h, rfl⟩, hpart⟩
    · have hstep := alike_step lasting h step fun hstart hparting => hpart ⟨hstart, hparting⟩
      obtain hrest | ⟨before, after, rfl, hbefore, hparting⟩ := ih hstep.session
      · exact .inl ⟨hrest.session, by simp only [run, hstep.entries, hrest.entries]⟩
      · refine .inr ⟨step :: before, after, rfl, ⟨hbefore.session, ?_⟩, hparting⟩
        simp only [run, hstep.entries, hbefore.entries]

/-- On platforms with the same future sessions never part. -/
theorem alike_run_of_sameFuture {first second : Session}
    (h : Alike Platform.SameFuture first second) (steps : List Step) :
    AlikeRuns Platform.SameFuture (first.run steps) (second.run steps) := by
  obtain hrun | ⟨before, after, -, hbefore, hparting⟩ := alike_run lasting_sameFuture h steps
  · exact hrun
  · exact absurd hbefore.session.platforms.next.symm hparting.lines

/-! ### Starts that find no line -/

/-- **A start that finds no line is a preparation**, but that the platform was asked. -/
theorem start_of_unavailable {session : Session}
    (h : session.start.answer = .startup (.error .noInterruptLine)) :
    session.start =
      ⟨(session.performSetup .prepare).session.withPlatform session.platform.ask,
        .startup (.error .noInterruptLine), [.granted none]⟩ := by
  obtain ⟨hflag, hnext⟩ := (startsInOrder session).unavailable.mp h
  rw [start_of_next hflag, hnext]
  rfl

/-- Preparing first makes no difference to a start that finds the engine not initialized. -/
theorem start_behind_prepare {session : Session} (h : session.engine.initialized = false) :
    (session.performSetup .prepare).session.start = session.start := by
  have hasked : (session.performSetup .prepare).session.asked = session.asked := by
    have hkept := Device.prepare_of_isPrepared (Device.isPrepared_prepare session.device)
    show { session with
      device := session.device.prepare.1.prepare.1
      platform := session.platform.ask } = session.asked
    rw [hkept]
    rfl
  have hprepared : (session.performSetup .prepare).session.engine.initialized = false := h
  rw [start_of_next hprepared, start_of_next h, hasked]
  rfl

/-- A number of starts in a row. -/
def starts (count : Nat) : List Step :=
  List.replicate count (.setup .start)

/-- A number of starts in a row that all find no line. -/
def AllUnavailable (session : Session) (count : Nat) : Prop :=
  Entry.answers (session.run (starts count)).2 =
    List.replicate count (.startup (.error .noInterruptLine))

theorem answers_start_cons (session : Session) (count : Nat) :
    Entry.answers (session.run (starts (count + 1))).2 =
      session.start.answer :: Entry.answers (session.start.session.run (starts count)).2 :=
  Entry.answers_answered _ _ _

/-- **Starts that fail make no difference to a start behind them**, on whatever platform that is. -/
theorem start_retried {session : Session} (h : session.engine.initialized = false) {count : Nat}
    (unavailable : session.AllUnavailable count) (platform : Platform) :
    ((session.run (starts count)).1.withPlatform platform).start =
      (session.withPlatform platform).start := by
  induction count generalizing session with
  | zero => rfl
  | succ count ih =>
    have hanswers := (answers_start_cons session count).symm.trans unavailable
    obtain ⟨hfirst, hrest⟩ := List.cons.inj hanswers
    have hstart := start_of_unavailable hfirst
    have hfailed : session.start.session =
        (session.performSetup .prepare).session.withPlatform session.platform.ask := by
      rw [hstart]
    have hengine : session.start.session.engine.initialized = false := by
      rw [hfailed]
      exact h
    calc
      ((session.run (starts (count + 1))).1.withPlatform platform).start
        = ((session.start.session.run (starts count)).1.withPlatform platform).start := rfl
      _ = (session.start.session.withPlatform platform).start := ih hengine hrest
      _ = ((session.withPlatform platform).performSetup .prepare).session.start := by
          rw [hfailed]
          rfl
      _ = (session.withPlatform platform).start :=
          start_behind_prepare (show (session.withPlatform platform).engine.initialized = false
            from h)

/-! ### All of it together -/

/-- A start that found no line is a preparation on a platform that was asked once more. -/
structure FailedAsPrepared (now : Session) : Prop where
  answer : (now.performSetup .prepare).answer = .outcome (.ok ())
  events : now.start.events = [.granted none] ∧ (now.performSetup .prepare).events = []
  /-- All else is the same: engine, line, device, board and token. -/
  session : now.start.session =
    (now.performSetup .prepare).session.withPlatform now.platform.ask
  /-- So is everything that follows, if the platform gives the same lines from then on. -/
  continued : ∀ platform : Platform, platform.SameFuture now.platform.ask → ∀ steps,
    AlikeRuns Platform.SameFuture (now.start.session.run steps)
      (((now.performSetup .prepare).session.withPlatform platform).run steps)
  /-- It does without the entry that the start was given. -/
  without : now.platform.asked < now.platform.lines.length → ∀ steps,
    AlikeRuns Platform.SameFuture (now.start.session.run steps)
      (((now.performSetup .prepare).session.withPlatform
        ⟨now.platform.lines.eraseIdx now.platform.asked, now.platform.asked⟩).run steps)
  /-- With that entry still to come, all is the same up to a start that is given another line. -/
  unasked : ∀ steps,
    AlikeRuns (fun _ _ => True) (now.start.session.run steps)
        ((now.performSetup .prepare).session.run steps) ∨
      ∃ before after, steps = before ++ .setup .start :: after ∧
        AlikeRuns (fun _ _ => True) (now.start.session.run before)
          ((now.performSetup .prepare).session.run before) ∧
        PartAtStart (now.start.session.run before).1
          ((now.performSetup .prepare).session.run before).1

theorem failedAsPrepared {now : Session}
    (h : now.start.answer = .startup (.error .noInterruptLine)) : now.FailedAsPrepared := by
  have hstart := start_of_unavailable h
  have hsession : now.start.session =
      (now.performSetup .prepare).session.withPlatform now.platform.ask := by
    rw [hstart]
  have hcontinued : ∀ platform : Platform, platform.SameFuture now.platform.ask → ∀ steps,
      AlikeRuns Platform.SameFuture (now.start.session.run steps)
        (((now.performSetup .prepare).session.withPlatform platform).run steps) := by
    intro platform hfuture steps
    apply alike_run_of_sameFuture
    rw [hsession]
    exact ⟨rfl, ⟨hfuture.ahead.symm, hfuture.passed.symm⟩⟩
  constructor
  case answer => exact congrArg Answer.outcome (prepare_ok now.device)
  case events => exact ⟨by rw [hstart], rfl⟩
  case session => exact hsession
  case continued => exact hcontinued
  case without => exact fun hlt => hcontinued _ (Platform.sameFuture_eraseIdx hlt)
  case unasked =>
    intro steps
    apply alike_run lasting_true
    rw [hsession]
    exact ⟨rfl, trivial⟩

/-- **A start that fails is a preparation, and can be retried.** In every session, a start that finds
no interrupt line leaves what a preparation leaves, but that the platform was asked; so all that
follows is the same, answers and events, whatever the steps are, if the platform gives the same lines
from then on.

From every session whose engine is not initialized, starts in a row that find no line, with a start
behind them that gets one, leave but for the platform what one start leaves that gets that line at
once, and the last of them has the same answer and the same events. -/
theorem failed_start_prepares :
    (∀ now : Session, now.start.answer = .startup (.error .noInterruptLine) →
      now.FailedAsPrepared) ∧
    ∀ (now : Session) (count : Nat) (line : Line) (platform : Platform),
      now.engine.initialized = false → now.AllUnavailable count →
      (now.run (starts count)).1.platform.next = some line → platform.next = some line →
      let last := (now.run (starts count)).1.start
      let once := (now.withPlatform platform).start
      last.answer = .startup (.ok .started) ∧ once.answer = last.answer ∧
        once.events = last.events ∧
        once.session = last.session.withPlatform once.session.platform := by
  refine ⟨fun now => failedAsPrepared, ?_⟩
  intro now count line platform hflag hunavailable hline hplatform last once
  have hlast : last = (now.withPlatform (now.run (starts count)).1.platform).start :=
    start_retried hflag hunavailable (now.run (starts count)).1.platform
  have hnotpart : ¬ PartAtStart (now.withPlatform (now.run (starts count)).1.platform)
      (now.withPlatform platform) := by
    intro hpart
    exact hpart.lines (hplatform.trans hline.symm)
  have halike : AlikeResults (fun _ _ => True) last once := by
    rw [hlast]
    exact alike_start lasting_true ⟨rfl, trivial⟩ hnotpart
  have hstarted : last.answer = .startup (.ok .started) := by
    rw [hlast]
    refine (startsInOrder _).started.mpr ⟨hflag, ?_⟩
    show (now.run (starts count)).1.platform.next ≠ none
    rw [hline]
    simp
  exact ⟨hstarted, halike.answer, halike.events, halike.session.same⟩

/-- A keyboard gets a line at the third start. Behind the first, all is as behind a preparation on a
platform that gives what is left; and the third start is the first on a platform that gives the line at
once. -/
theorem failed_start_prepares_keyboard :
    let now := Scenario.session { Scenario.keyboard with lines := [none, none, some 26] }
    let prepared := (now.performSetup .prepare).session.withPlatform ⟨[none, some 26], 0⟩
    let steps := [Step.setup .start, .setup .start, .action (.single .interrupt)]
    let last := (now.run (starts 2)).1.start
    let once := (now.withPlatform ⟨[some 26], 0⟩).start
    now.start.answer = .startup (.error .noInterruptLine) ∧
      Entry.answers (now.start.session.run steps).2 =
        [.startup (.error .noInterruptLine), .startup (.ok .started), .cycle .ran] ∧
      (prepared.run steps).2 = (now.start.session.run steps).2 ∧
      now.AllUnavailable 2 ∧ last.answer = .startup (.ok .started) ∧ once.answer = last.answer ∧
      once.events = last.events ∧
      once.session = last.session.withPlatform once.session.platform := by
  intro now prepared steps last once
  have hfailed : now.start.answer = .startup (.error .noInterruptLine) := by decide +kernel
  have hfuture : Platform.SameFuture ⟨[none, some 26], 0⟩ now.platform.ask := ⟨rfl, rfl⟩
  have hanswers : Entry.answers (now.start.session.run steps).2 =
      [.startup (.error .noInterruptLine), .startup (.ok .started), .cycle .ran] := by
    decide +kernel
  have hunavailable : now.AllUnavailable 2 := by
    show Entry.answers (now.run (starts 2)).2 = List.replicate 2 _
    decide +kernel
  have hline : (now.run (starts 2)).1.platform.next = some 26 := by decide +kernel
  obtain ⟨hprepares, hretried⟩ := failed_start_prepares
  have hrest := (hprepares now hfailed).continued _ hfuture steps
  have honce := hretried now 2 26 ⟨[some 26], 0⟩ rfl hunavailable hline rfl
  exact ⟨hfailed, hanswers, hrest.entries, hunavailable, honce⟩

/-- **A start that fails is no preparation on the same platform.** Here the platform has no line for the
first to ask and one for the next. So a start behind one that failed gets that line, where a start
behind a preparation finds none. -/
theorem failed_start_unlike_prepare :
    let now := Scenario.session { Scenario.keyboard with lines := [none, some 26] }
    let prepared := (now.performSetup .prepare).session
    now.start.answer = .startup (.error .noInterruptLine) ∧
      Entry.answers (now.start.session.run [.setup .start]).2 = [.startup (.ok .started)] ∧
      Entry.answers (prepared.run [.setup .start]).2 = [.startup (.error .noInterruptLine)] ∧
      Entry.events (now.start.session.run [.setup .start]).2 =
        [.granted (some 26), .initialized, .enabled 26, .armed 1000] ∧
      Entry.events (prepared.run [.setup .start]).2 = [.granted none] ∧
      ¬ ∀ steps, Entry.answers (now.start.session.run steps).2 =
        Entry.answers (prepared.run steps).2 := by
  intro now prepared
  have hretried : Entry.answers (now.start.session.run [.setup .start]).2 =
      [.startup (.ok .started)] := by decide +kernel
  have hprepared : Entry.answers (prepared.run [.setup .start]).2 =
      [.startup (.error .noInterruptLine)] := by decide +kernel
  refine ⟨by decide +kernel, hretried, hprepared, by decide +kernel, by decide +kernel, ?_⟩
  intro hsame
  have hlast := hsame [.setup .start]
  rw [hretried, hprepared] at hlast
  cases hlast

end Session

end UsbComposite
