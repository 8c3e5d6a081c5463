import UsbComposite.Session.Event

/-!
# The state of a session

A session keeps the engine, the platform, the device, the interrupt line obtained at the start, and
the token. While the token is held, runs that wait for it are counted; they all do the same thing,
so their number is all there is to remember.
-/

namespace UsbComposite

/-- The engine that a controller drives. -/
structure Engine where
  initialized : Bool
  /-- The flag that initializing leaves behind. -/
  initResult : Bool
  inits : Nat
  tasks : Nat
  /-- The requests that each task makes. -/
  script : List Request
deriving DecidableEq

/-- The engine after initializing. -/
def Engine.init (engine : Engine) : Engine :=
  { engine with initialized := engine.initResult, inits := engine.inits + 1 }

/-- What the engine shows of itself. -/
def Engine.view (engine : Engine) : EngineView :=
  ⟨engine.initialized, engine.inits, engine.tasks⟩

/-- The engine with some of its settings replaced. -/
def Engine.adjust (engine : Engine) (initialized initResult : Option Bool)
    (script : Option (List Request)) : Engine :=
  { engine with
    initialized := initialized.getD engine.initialized
    initResult := initResult.getD engine.initResult
    script := script.getD engine.script }

/-- The interrupt lines that the platform gives: whoever asks first gets the first entry, and so on.
Asking past the end gives none and counts all the same, so an entry added later can be passed over. -/
structure Platform where
  lines : List (Option Line)
  /-- How often a line was asked for. -/
  asked : Nat
deriving DecidableEq

/-- What the platform gives when it is asked next. -/
def Platform.next (platform : Platform) : Option Line :=
  (platform.lines[platform.asked]?).join

/-- The platform after it was asked. -/
def Platform.ask (platform : Platform) : Platform :=
  { platform with asked := platform.asked + 1 }

/-- The platform with one more entry. -/
def Platform.offer (platform : Platform) (line : Option Line) : Platform :=
  { platform with lines := platform.lines ++ [line] }

/-- The access token. -/
structure Token where
  held : Bool
  /-- How many runs wait for the token. -/
  waiting : Nat
deriving DecidableEq

/-- The token while nobody holds it. -/
def Token.free : Token :=
  ⟨false, 0⟩

/-- The state of a session. -/
structure Session where
  engine : Engine
  platform : Platform
  device : Device
  /-- The line of the last start, none before the first. -/
  line : Option Line
  /-- What the board answers. -/
  board : BoardId
  token : Token
deriving DecidableEq

namespace Session

/-- Microseconds between two runs of the engine's task. -/
def taskInterval : UInt32 := 1000

/-- A session before its first step. -/
def make (engine : Engine) (lines : List (Option Line)) (device : Device) (board : BoardId) :
    Session where
  engine := engine
  platform := ⟨lines, 0⟩
  device := device
  line := none
  board := board
  token := .free

/-- Whether a start has succeeded. -/
def isStarted (session : Session) : Bool :=
  session.line.isSome

/-- What the controller and its device show of themselves. -/
def snapshot (session : Session) : Snapshot where
  prepared := session.device.isPrepared
  started := session.isStarted
  roles := session.device.roles
  identity := session.device.identity
  numbers := session.device.numbers
  instances := session.device.instances
  shared := session.device.sharedReport
  raw := session.device.rawReport
  configuration := session.device.configuration

end Session

end UsbComposite
