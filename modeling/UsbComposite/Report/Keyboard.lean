import UsbComposite.Report.Template

/-!
# Keyboard reports

The input report has eight bytes in the layout of the boot protocol: the modifier keys, a reserved
byte, and up to six key codes. The host answers with an output report of one byte that tells which
**lamps** are lit.
-/

namespace UsbComposite

/-- The keys that are down. -/
structure KeyboardReport where
  /-- One bit per modifier key. -/
  modifier : UInt8 := 0
  /-- Zero in the boot protocol, but any byte is carried. -/
  reserved : UInt8 := 0
  keycodes : Vector UInt8 6 := Vector.replicate 6 0
deriving DecidableEq

namespace KeyboardReport

/-- The length of the report in bytes. -/
def size : Nat := 8

/-- The report with every key up. -/
def empty : KeyboardReport := {}

/-- The bytes of the report. -/
def payload (report : KeyboardReport) : List UInt8 :=
  report.modifier :: report.reserved :: report.keycodes.toList

/-- The report that bytes stand for. -/
def ofPayload? : List UInt8 → Option KeyboardReport
  | [modifier, reserved, k₀, k₁, k₂, k₃, k₄, k₅] =>
    some ⟨modifier, reserved, #v[k₀, k₁, k₂, k₃, k₄, k₅]⟩
  | _ => none

/-- Whether no key is down; the reserved byte is not a key. -/
def isEmpty (report : KeyboardReport) : Bool :=
  report.modifier == 0 && report.keycodes.toList.all (· == 0)

@[simp] theorem length_payload (report : KeyboardReport) : report.payload.length = size := by
  simp [payload, size]

theorem ofPayload?_payload (report : KeyboardReport) : ofPayload? report.payload = some report := by
  obtain ⟨modifier, reserved, ⟨⟨keycodes⟩, hsize⟩⟩ := report
  match keycodes, hsize with
  | [_, _, _, _, _, _], _ => rfl

/-- The report descriptor: eight modifier bits, a reserved byte, five lamps with padding, and six
key codes. -/
def items : List Item :=
  [.short .usagePage 0x01, .short .usage 0x06, .short .collection 0x01,
    -- modifier keys
    .short .usagePage 0x07, .short .usageMinimum 0xE0, .short .usageMaximum 0xE7,
    .short .logicalMinimum 0, .short .logicalMaximum 1,
    .short .reportCount 8, .short .reportSize 1, .short .input 0x02,
    -- reserved byte
    .short .reportCount 1, .short .reportSize 8, .short .input 0x01,
    -- lamps and padding
    .short .usagePage 0x08, .short .usageMinimum 1, .short .usageMaximum 5,
    .short .reportCount 5, .short .reportSize 1, .short .output 0x02,
    .short .reportCount 1, .short .reportSize 3, .short .output 0x01,
    -- key codes
    .short .usagePage 0x07, .short .usageMinimum 0, .wide .usageMaximum 0x00FF,
    .short .logicalMinimum 0, .wide .logicalMaximum 0x00FF,
    .short .reportCount 6, .short .reportSize 8, .short .input 0x00,
    .bare .endCollection]

/-- The template of the keyboard's report descriptor. -/
def template : Template :=
  ⟨Item.encodeAll items, by decide⟩

end KeyboardReport

/-- The lamps that the host wants lit. -/
structure Lamps where
  bits : UInt8
deriving DecidableEq

namespace Lamps

/-- The lamps told by an output report: the five low bits of its first byte. A report without bytes
tells nothing. -/
def ofReport? : List UInt8 → Option Lamps
  | [] => none
  | byte :: _ => some ⟨byte &&& 0x1F⟩

/-- Whether the Num Lock lamp is lit. -/
def numLock (lamps : Lamps) : Bool :=
  lamps.bits &&& 0x01 != 0

/-- Whether the Caps Lock lamp is lit. -/
def capsLock (lamps : Lamps) : Bool :=
  lamps.bits &&& 0x02 != 0

end Lamps

end UsbComposite
