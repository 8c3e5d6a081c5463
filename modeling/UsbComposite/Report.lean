import UsbComposite.Report.Consumer
import UsbComposite.Report.Gamepad
import UsbComposite.Report.Keyboard
import UsbComposite.Report.Mouse
import UsbComposite.Role

/-!
# Input reports

An **input report** is a report of one of the four shared roles. Its payload is written to the front
of a buffer that has room for it; a buffer that is too small stays as it is, and nothing is written.
-/

namespace UsbComposite

/-- A report of one of the shared roles. -/
inductive InputReport
  | keyboard (report : KeyboardReport)
  | mouse (report : MouseReport)
  | gamepad (report : GamepadReport)
  | consumer (report : ConsumerReport)
deriving DecidableEq

namespace InputReport

/-- The role that sends the report. -/
def role : InputReport → Role
  | keyboard _ => .keyboard
  | mouse _ => .mouse
  | gamepad _ => .joystick
  | consumer _ => .consumerControl

/-- The length of the payload in bytes. -/
def size : InputReport → Nat
  | keyboard _ => KeyboardReport.size
  | mouse _ => MouseReport.size
  | gamepad _ => GamepadReport.size
  | consumer _ => ConsumerReport.size

/-- The bytes of the report, without a report number. -/
def payload : InputReport → List UInt8
  | keyboard report => report.payload
  | mouse report => report.payload
  | gamepad report => report.payload
  | consumer report => report.payload

/-- The report of a role that bytes stand for. -/
def ofPayload? (role : Role) (bytes : List UInt8) : Option InputReport :=
  match role with
  | .keyboard => (KeyboardReport.ofPayload? bytes).map keyboard
  | .mouse => (MouseReport.ofPayload? bytes).map mouse
  | .joystick => (GamepadReport.ofPayload? bytes).map gamepad
  | .consumerControl => (ConsumerReport.ofPayload? bytes).map consumer
  | .serial | .massStorage | .rawHid => none

/-- Whether the report says that nothing is pressed or moved; for a gamepad this is left open, since
its axes have no position of rest. -/
def isIdle? : InputReport → Option Bool
  | keyboard report => some report.isEmpty
  | mouse report => some report.isIdle
  | gamepad _ => none
  | consumer report => some report.isEmpty

/-- Whether the report is the one with every value zero. -/
def isNeutral : InputReport → Bool
  | keyboard report => report == .empty
  | mouse report => report == .empty
  | gamepad report => report == .empty
  | consumer report => report == .empty

/-- Write the payload to the front of a buffer. The result is the number of bytes written, zero if
the buffer is too small, and the whole buffer afterwards. -/
def writeTo (report : InputReport) (buffer : List UInt8) : Nat × List UInt8 :=
  if report.size ≤ buffer.length then
    (report.size, report.payload ++ buffer.drop report.size)
  else (0, buffer)

@[simp] theorem length_payload (report : InputReport) : report.payload.length = report.size := by
  cases report <;> simp only [payload, size, KeyboardReport.length_payload,
    MouseReport.length_payload, GamepadReport.length_payload, ConsumerReport.length_payload]

/-- **A report is read back from its payload** by whoever knows its role. -/
theorem ofPayload?_payload (report : InputReport) :
    ofPayload? report.role report.payload = some report := by
  cases report with
  | keyboard report => exact congrArg (Option.map keyboard) report.ofPayload?_payload
  | mouse report => exact congrArg (Option.map mouse) report.ofPayload?_payload
  | gamepad report => exact congrArg (Option.map gamepad) report.ofPayload?_payload
  | consumer report => exact congrArg (Option.map consumer) report.ofPayload?_payload

/-- No report is empty, so a count of zero always means failure. -/
theorem size_pos (report : InputReport) : 0 < report.size := by
  cases report <;>
    simp [size, KeyboardReport.size, MouseReport.size, GamepadReport.size, ConsumerReport.size]

/-- Writing keeps the length of the buffer. -/
@[simp] theorem length_writeTo (report : InputReport) (buffer : List UInt8) :
    (report.writeTo buffer).2.length = buffer.length := by
  unfold writeTo
  split
  · simp only [List.length_append, length_payload, List.length_drop]
    omega
  · rfl

end InputReport

end UsbComposite
