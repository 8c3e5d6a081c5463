import UsbComposite.Session.State

/-!
# Running a session

The rules of the token:

* an **interrupt** never waits: while the token is held it skips its task;
* a **run in turn** waits: it is counted, and its task runs after the holder has released the token;
* looking at the engine or changing it fails while the token is held, and so does trying to hold it;
* a hold that would have to wait inside another hold never happens.

A start brings the engine up in a fixed order: the descriptors are built, the platform is asked for a
line, the engine is initialized, the line is enabled and the alarm is armed. Without a line the engine
stays as it is. An engine that is initialized already is left alone altogether.
-/

namespace UsbComposite

namespace Session

/-! ### Tasks -/

/-- Put requests to a device one after the other: the device afterwards, and for each request its
effects followed by the reply. -/
def answerAll (board : BoardId) : List Request → Device → Device × List Event
  | [], device => (device, [])
  | request :: rest, device =>
    let response := device.respond board request
    let later := answerAll board rest response.device
    (later.1, response.effects.map .effect ++ .answered request response.reply :: later.2)

/-- Run the engine's task once. -/
def runTask (session : Session) : Session × List Event :=
  let count := session.engine.tasks + 1
  let answered := answerAll session.board session.engine.script session.device
  ({ session with
      engine := { session.engine with tasks := count }
      device := answered.1 },
    .taskBegan count :: answered.2 ++ [.taskEnded])

/-- Run the engine's task a number of times. -/
def runTasks : Nat → Session → Session × List Event
  | 0, session => (session, [])
  | count + 1, session =>
    let ran := session.runTask
    let later := runTasks count ran.1
    (later.1, ran.2 ++ later.2)

/-! ### Setup -/

/-- What a step leaves behind. -/
structure Result where
  session : Session
  answer : Answer
  events : List Event

/-- A step on the device alone, with an outcome and without events. -/
def onDevice (session : Session) (changed : Device × Except Fault Unit) : Result :=
  ⟨{ session with device := changed.1 }, .outcome changed.2, []⟩

/-- Bring the engine up. -/
def start (session : Session) : Result :=
  if session.engine.initialized then ⟨session, .startup (.ok .alreadyRunning), []⟩
  else
    match session.device.prepare with
    | (device, .error fault) => ⟨{ session with device := device }, .startup (.error fault), []⟩
    | (device, .ok ()) =>
      let asked := { session with device := device, platform := session.platform.ask }
      match session.platform.next with
      | none => ⟨asked, .startup (.error .noInterruptLine), [.granted none]⟩
      | some line =>
        ⟨{ asked with engine := session.engine.init, line := some line },
          .startup (.ok .started),
          [.granted (some line), .initialized, .enabled line, .armed taskInterval]⟩

/-- Perform a step that needs the controller for itself. -/
def performSetup (session : Session) : Setup → Result
  | .replaceIdentity identity => session.onDevice (session.device.replaceIdentity identity)
  | .buildReports => session.onDevice session.device.buildReports
  | .buildConfiguration => session.onDevice session.device.buildConfiguration
  | .prepare => session.onDevice session.device.prepare
  | .start => session.start

/-! ### Operations -/

/-- Handle an interrupt. -/
def interrupt (session : Session) : Result :=
  if session.isStarted then
    if session.token.held then ⟨session, .cycle .skipped, []⟩
    else
      let ran := session.runTask
      ⟨ran.1, .cycle .ran, ran.2⟩
  else ⟨session, .cycle .idle, []⟩

/-- Run the engine's task in turn. -/
def runInline (session : Session) : Result :=
  if session.token.held then
    ⟨{ session with token := { session.token with waiting := session.token.waiting + 1 } },
      .pending, []⟩
  else
    let ran := session.runTask
    ⟨ran.1, .ran, ran.2⟩

/-- Perform an operation. -/
def operate (session : Session) : Operation → Result
  | .request request =>
    let response := session.device.respond session.board request
    ⟨{ session with device := response.device }, .reply request response.reply,
      response.effects.map .effect⟩
  | .inspect => ⟨session, .snapshot session.snapshot, []⟩
  | .subscribe listener => session.onDevice (session.device.subscribe listener)
  | .frame report buffer =>
    let framed := report.frameInto session.device.numbers buffer
    ⟨session, .framed framed.1 framed.2, []⟩
  | .changeBoard board => ⟨{ session with board := board }, .silent, []⟩
  | .mediumReady lun =>
    ⟨session, .ready session.device.medium.unitReady,
      (session.device.mediumEffects (.unitReady lun)).map .effect⟩
  | .offerLine line => ⟨{ session with platform := session.platform.offer line }, .silent, []⟩
  | .alarm => ⟨session, .interval taskInterval, (session.line.map Event.pended).toList⟩
  | .interrupt => session.interrupt
  | .inspectEngine =>
    if session.token.held then ⟨session, .engine (.error .tokenHeld), []⟩
    else ⟨session, .engine (.ok session.engine.view), []⟩
  | .adjustEngine initialized initResult script =>
    if session.token.held then ⟨session, .outcome (.error .tokenHeld), []⟩
    else
      ⟨{ session with engine := session.engine.adjust initialized initResult script },
        .outcome (.ok ()), []⟩
  | .runInline => session.runInline

/-! ### Holds -/

/-- The answer of a hold that finds the token held. -/
def refusal : HoldMode → Answer
  | .waiting => .pending
  | .trying => .outcome (.error .tokenHeld)

/-- The session with the token taken. -/
def take (session : Session) : Session :=
  { session with token := ⟨true, 0⟩ }

/-- Release the token and let every waiting run have its turn. -/
def release (session : Session) : Session × List Event :=
  runTasks session.token.waiting { session with token := .free }

mutual

/-- Perform an action. -/
def perform : Action → Session → Session × Entry
  | .single operation, session =>
    let result := session.operate operation
    (result.session, .answered result.answer result.events)
  | .hold mode body, session =>
    if session.token.held then (session, .answered (refusal mode) [])
    else
      let inside := performAll body session.take
      let released := inside.1.release
      (released.1, .held inside.2 released.2)

/-- Perform actions in turn. -/
def performAll : List Action → Session → Session × List Entry
  | [], session => (session, [])
  | action :: rest, session =>
    let first := perform action session
    let later := performAll rest first.1
    (later.1, first.2 :: later.2)

end

/-- Perform a step. -/
def step (session : Session) : Step → Session × Entry
  | .setup setup =>
    let result := session.performSetup setup
    (result.session, .answered result.answer result.events)
  | .action action => perform action session

/-- Perform steps in turn: the session afterwards, and an entry for each step. -/
def run (session : Session) : List Step → Session × List Entry
  | [] => (session, [])
  | step :: rest =>
    let first := session.step step
    let later := first.1.run rest
    (later.1, first.2 :: later.2)

end Session

end UsbComposite
