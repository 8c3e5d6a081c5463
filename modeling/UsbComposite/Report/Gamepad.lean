import UsbComposite.Report.Template

/-!
# Gamepad reports

A joystick is shown to the host as a gamepad. Its input report has eleven bytes: six signed axes, the
position of the hat switch, and thirty-two buttons, lowest byte first.
-/

namespace UsbComposite

/-- The position of a hat switch, clockwise from the north. -/
inductive Hat
  | centered
  | up
  | upRight
  | right
  | downRight
  | down
  | downLeft
  | left
  | upLeft
deriving DecidableEq

namespace Hat

/-- The byte of a position. -/
def code : Hat → UInt8
  | centered => 0
  | up => 1
  | upRight => 2
  | right => 3
  | downRight => 4
  | down => 5
  | downLeft => 6
  | left => 7
  | upLeft => 8

/-- The positions in the order of their bytes. -/
def all : List Hat :=
  [centered, up, upRight, right, downRight, down, downLeft, left, upLeft]

/-- The position of a byte. -/
def ofCode? (code : UInt8) : Option Hat :=
  all.find? fun hat => hat.code == code

@[simp] theorem ofCode?_code (hat : Hat) : ofCode? hat.code = some hat := by
  cases hat <;> rfl

end Hat

/-- The axes, hat switch and buttons of a gamepad. -/
structure GamepadReport where
  x : Int8 := 0
  y : Int8 := 0
  z : Int8 := 0
  rz : Int8 := 0
  rx : Int8 := 0
  ry : Int8 := 0
  hat : Hat := .centered
  /-- One bit per button. -/
  buttons : UInt32 := 0
deriving DecidableEq

namespace GamepadReport

/-- The length of the report in bytes. -/
def size : Nat := 11

/-- The report of a gamepad at rest. -/
def empty : GamepadReport := {}

/-- The bytes of the report. -/
def payload (report : GamepadReport) : List UInt8 :=
  [report.x.toUInt8, report.y.toUInt8, report.z.toUInt8, report.rz.toUInt8, report.rx.toUInt8,
    report.ry.toUInt8, report.hat.code] ++ LittleEndian.ofUInt32 report.buttons

/-- The report that bytes stand for, none if the hat switch has no such position. -/
def ofPayload? : List UInt8 → Option GamepadReport
  | [x, y, z, rz, rx, ry, hat, b₀, b₁, b₂, b₃] =>
    (Hat.ofCode? hat).map fun hat =>
      ⟨x.toInt8, y.toInt8, z.toInt8, rz.toInt8, rx.toInt8, ry.toInt8, hat,
        LittleEndian.toUInt32 b₀ b₁ b₂ b₃⟩
  | _ => none

@[simp] theorem length_payload (report : GamepadReport) : report.payload.length = size := rfl

theorem ofPayload?_payload (report : GamepadReport) : ofPayload? report.payload = some report := by
  simp only [payload, LittleEndian.ofUInt32, List.cons_append, List.nil_append, ofPayload?,
    Hat.ofCode?_code, Option.map_some, Int8.toInt8_toUInt8, LittleEndian.toUInt32_bytes]

/-- The report descriptor: six axes between -127 and 127, a hat switch with eight positions over
315 degrees, and thirty-two buttons. -/
def items : List Item :=
  [.short .usagePage 0x01, .short .usage 0x05, .short .collection 0x01,
    -- axes
    .short .usagePage 0x01, .short .usage 0x30, .short .usage 0x31, .short .usage 0x32,
    .short .usage 0x35, .short .usage 0x33, .short .usage 0x34,
    .short .logicalMinimum 0x81, .short .logicalMaximum 0x7F,
    .short .reportCount 6, .short .reportSize 8, .short .input 0x02,
    -- hat switch
    .short .usagePage 0x01, .short .usage 0x39,
    .short .logicalMinimum 1, .short .logicalMaximum 8,
    .short .physicalMinimum 0, .wide .physicalMaximum 315,
    .short .reportCount 1, .short .reportSize 8, .short .input 0x02,
    -- buttons
    .short .usagePage 0x09, .short .usageMinimum 1, .short .usageMaximum 32,
    .short .logicalMinimum 0, .short .logicalMaximum 1,
    .short .reportCount 32, .short .reportSize 1, .short .input 0x02,
    .bare .endCollection]

/-- The template of the gamepad's report descriptor. -/
def template : Template :=
  ⟨Item.encodeAll items, by decide⟩

end GamepadReport

end UsbComposite
