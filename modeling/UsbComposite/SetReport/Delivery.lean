import UsbComposite.Fault
import UsbComposite.Report.Keyboard
import UsbComposite.Report.Kind

/-!
# Deliveries and listeners

A report that the host sends is a **delivery**. Listeners are called with it, and a call is known by
what it makes visible, its **notices**: most listeners pass on what they got, the lamp listener
shows the lamps of output reports and stays silent otherwise.
-/

namespace UsbComposite

/-- A report sent by the host to a HID instance. -/
structure Delivery where
  instanceNumber : UInt8
  reportId : UInt8
  kind : ReportKind
  data : List UInt8
deriving DecidableEq

/-- Somebody to be called with deliveries. -/
inductive Listener
  /-- Passes on what it gets. -/
  | first
  /-- Passes on what it gets. -/
  | second
  /-- Shows the lamps. -/
  | lamps
  /-- Passes on what it gets; where it can, it subscribes `second` as well. -/
  | growing
  /-- Passes on what it gets; where it can, it delivers the data behind the first byte again. -/
  | repeating
deriving DecidableEq

/-- Whether a listener acts on the table when it is called. -/
def Listener.acts : Listener → Bool
  | growing | repeating => true
  | first | second | lamps => false

/-- Something that a call makes visible. -/
inductive Notice
  | received (listener : Listener) (delivery : Delivery)
  | lamps (state : Option Lamps)
  | subscribed (outcome : Except Fault Unit)
deriving DecidableEq

/-- What a listener makes visible when it is called with a delivery. -/
def Listener.notices (listener : Listener) (delivery : Delivery) : List Notice :=
  match listener with
  | lamps => if delivery.kind = .output then [.lamps (Lamps.ofReport? delivery.data)] else []
  | first | second | growing | repeating => [.received listener delivery]

end UsbComposite
