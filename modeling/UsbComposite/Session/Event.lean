import UsbComposite.Device.Request
import UsbComposite.Report.Frame

/-!
# Steps, answers and events of a session

In a **session** a device stands behind a controller. The controller's engine is guarded by one
access token; it is driven by interrupts, by application code in turn, and it can be held.

A session is a list of steps. A step is either **setup**, which needs the controller for itself, or an
**action**, which can also happen while the token is held. Holding takes a list of further actions,
to any depth. Every step has an answer and the events that came with it.
-/

namespace UsbComposite

/-- An interrupt line of the platform. -/
abbrev Line := Nat

/-- A step that needs the controller for itself. -/
inductive Setup
  | replaceIdentity (identity : Identity)
  | buildReports
  | buildConfiguration
  | prepare
  | start
deriving DecidableEq

/-- A step that can also happen while the token is held. -/
inductive Operation
  /-- The host's request, put to the device directly. -/
  | request (request : Request)
  /-- Look at the controller and its device. -/
  | inspect
  | subscribe (listener : Listener)
  /-- Frame a report with the device's numbers. -/
  | frame (report : InputReport) (buffer : List UInt8)
  /-- Change what the board answers. -/
  | changeBoard (board : BoardId)
  /-- Ask the medium itself whether it is ready. -/
  | mediumReady (lun : UInt8)
  /-- Let the platform have one more entry in its list of lines. -/
  | offerLine (line : Option Line)
  | alarm
  | interrupt
  /-- Look at the engine, without waiting for the token. -/
  | inspectEngine
  /-- Change the engine, without waiting for the token. -/
  | adjustEngine (initialized initResult : Option Bool) (script : Option (List Request))
  /-- Run the engine's task in turn. -/
  | runInline
deriving DecidableEq

/-- How a holder goes about a token that is held already. -/
inductive HoldMode
  | waiting
  | trying
deriving DecidableEq

/-- An operation, or a hold around a list of actions. -/
inductive Action
  | single (operation : Operation)
  | hold (mode : HoldMode) (body : List Action)

/-- A step of a session. -/
inductive Step
  | setup (setup : Setup)
  | action (action : Action)

/-- The outcome of a start. -/
inductive Startup
  | started
  /-- The engine was initialized already, and nothing was done. -/
  | alreadyRunning
deriving DecidableEq

/-- The outcome of an interrupt. -/
inductive Cycle
  | ran
  /-- The token was held. -/
  | skipped
  /-- The controller is not started. -/
  | idle
deriving DecidableEq

/-- What the controller and its device show of themselves. -/
structure Snapshot where
  prepared : Bool
  started : Bool
  roles : RoleSet
  identity : Identity
  numbers : ReportNumbers
  instances : HidInstances
  shared : Option (List UInt8)
  raw : Option (List UInt8)
  configuration : Option (List UInt8)
deriving DecidableEq

/-- What the engine shows of itself. -/
structure EngineView where
  initialized : Bool
  inits : Nat
  tasks : Nat
deriving DecidableEq

/-- The answer of a step that is not a hold around further actions. -/
inductive Answer
  /-- Done, and nothing to tell. -/
  | silent
  | outcome (outcome : Except Fault Unit)
  | startup (outcome : Except Fault Startup)
  /-- The reply to a request. -/
  | reply (request : Request) (reply : Reply)
  | snapshot (snapshot : Snapshot)
  | framed (length : Option Nat) (buffer : List UInt8)
  | ready (isReady : Bool)
  /-- Microseconds to the next alarm. -/
  | interval (microseconds : UInt32)
  | cycle (cycle : Cycle)
  | engine (view : Except Fault EngineView)
  /-- The task ran. -/
  | ran
  /-- The token is held, and the step waits for it. -/
  | pending
deriving DecidableEq

/-- Something that happens during a session besides the answers. -/
inductive Event
  /-- An effect of an answer of the device. -/
  | effect (effect : Effect)
  /-- The platform was asked for an interrupt line and gave one, or none. -/
  | granted (line : Option Line)
  | enabled (line : Line)
  | pended (line : Line)
  | armed (microseconds : UInt32)
  /-- The engine was initialized. -/
  | initialized
  /-- A task began; it is the engine's `count`-th. -/
  | taskBegan (count : Nat)
  /-- The device answered a request of the running task. -/
  | answered (request : Request) (reply : Reply)
  | taskEnded
deriving DecidableEq

/-- What is recorded of a step. -/
inductive Entry
  | answered (answer : Answer) (events : List Event)
  /-- A hold: the entries of the actions inside, and the events after the release. -/
  | held (inside : List Entry) (events : List Event)

end UsbComposite
