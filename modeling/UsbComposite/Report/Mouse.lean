import UsbComposite.Report.Template

/-!
# Mouse reports

The input report has five bytes: the buttons, the movement in both directions, the wheel and the
horizontal pan. Movements are signed bytes in two's complement.
-/

namespace UsbComposite

/-- The buttons that are down and the movement since the last report. -/
structure MouseReport where
  /-- One bit per button: left, right, middle, back, forward. -/
  buttons : UInt8 := 0
  x : Int8 := 0
  y : Int8 := 0
  wheel : Int8 := 0
  pan : Int8 := 0
deriving DecidableEq

namespace MouseReport

/-- The length of the report in bytes. -/
def size : Nat := 5

/-- The report of a mouse at rest. -/
def empty : MouseReport := {}

/-- The bytes of the report. -/
def payload (report : MouseReport) : List UInt8 :=
  [report.buttons, report.x.toUInt8, report.y.toUInt8, report.wheel.toUInt8, report.pan.toUInt8]

/-- The report that bytes stand for. -/
def ofPayload? : List UInt8 → Option MouseReport
  | [buttons, x, y, wheel, pan] =>
    some ⟨buttons, x.toInt8, y.toInt8, wheel.toInt8, pan.toInt8⟩
  | _ => none

/-- Whether no button is down and nothing moved. -/
def isIdle (report : MouseReport) : Bool :=
  report.buttons == 0 && report.x == 0 && report.y == 0 && report.wheel == 0 && report.pan == 0

@[simp] theorem length_payload (report : MouseReport) : report.payload.length = size := rfl

theorem ofPayload?_payload (report : MouseReport) : ofPayload? report.payload = some report := by
  simp only [payload, ofPayload?, Int8.toInt8_toUInt8]

/-- The report descriptor: five buttons with padding, two axes, a wheel and a horizontal pan, all
movements relative and between -127 and 127. -/
def items : List Item :=
  [.short .usagePage 0x01, .short .usage 0x02, .short .collection 0x01,
    .short .usage 0x01, .short .collection 0x00,
    -- buttons and padding
    .short .usagePage 0x09, .short .usageMinimum 1, .short .usageMaximum 5,
    .short .logicalMinimum 0, .short .logicalMaximum 1,
    .short .reportCount 5, .short .reportSize 1, .short .input 0x02,
    .short .reportCount 1, .short .reportSize 3, .short .input 0x01,
    -- movement
    .short .usagePage 0x01, .short .usage 0x30, .short .usage 0x31,
    .short .logicalMinimum 0x81, .short .logicalMaximum 0x7F,
    .short .reportSize 8, .short .reportCount 2, .short .input 0x06,
    -- wheel
    .short .usage 0x38, .short .logicalMinimum 0x81, .short .logicalMaximum 0x7F,
    .short .reportSize 8, .short .reportCount 1, .short .input 0x06,
    -- horizontal pan
    .short .usagePage 0x0C, .wide .usage 0x0238,
    .short .logicalMinimum 0x81, .short .logicalMaximum 0x7F,
    .short .reportSize 8, .short .reportCount 1, .short .input 0x06,
    .bare .endCollection, .bare .endCollection]

/-- The template of the mouse's report descriptor. -/
def template : Template :=
  ⟨Item.encodeAll items, by decide⟩

end MouseReport

end UsbComposite
