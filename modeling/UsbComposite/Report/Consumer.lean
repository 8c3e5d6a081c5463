import UsbComposite.Report.Template

/-!
# Consumer control reports

Media keys, browser keys and the like. The input report is one usage of the consumer page as a
two-byte number; zero means that no key is down.
-/

namespace UsbComposite

/-- The usages of the consumer page that have a name here. -/
inductive ConsumerUsage
  | none
  | playPause
  | nextTrack
  | prevTrack
  | stop
  | volumeUp
  | volumeDown
  | mute
  | browserHome
  | browserBack
  | browserForward
  | browserRefresh
  | sleep
deriving DecidableEq

/-- The number of a usage. -/
def ConsumerUsage.code : ConsumerUsage → UInt16
  | none => 0x0000
  | playPause => 0x00CD
  | nextTrack => 0x00B5
  | prevTrack => 0x00B6
  | stop => 0x00B7
  | volumeUp => 0x00E9
  | volumeDown => 0x00EA
  | mute => 0x00E2
  | browserHome => 0x0223
  | browserBack => 0x0224
  | browserForward => 0x0225
  | browserRefresh => 0x0227
  | sleep => 0x0032

/-- The media key that is down. -/
structure ConsumerReport where
  usage : UInt16 := 0
deriving DecidableEq

namespace ConsumerReport

/-- The length of the report in bytes. -/
def size : Nat := 2

/-- The report with no key down. -/
def empty : ConsumerReport := {}

/-- The report of one named key. -/
def ofUsage (usage : ConsumerUsage) : ConsumerReport :=
  ⟨usage.code⟩

/-- The bytes of the report. -/
def payload (report : ConsumerReport) : List UInt8 :=
  LittleEndian.ofUInt16 report.usage

/-- The report that bytes stand for. -/
def ofPayload? : List UInt8 → Option ConsumerReport
  | [low, high] => some ⟨LittleEndian.toUInt16 low high⟩
  | _ => none

/-- Whether no key is down. -/
def isEmpty (report : ConsumerReport) : Bool :=
  report.usage == 0

@[simp] theorem length_payload (report : ConsumerReport) : report.payload.length = size := rfl

theorem ofPayload?_payload (report : ConsumerReport) : ofPayload? report.payload = some report := by
  simp only [payload, ofPayload?, LittleEndian.ofUInt16, LittleEndian.toUInt16_bytes]

/-- The report descriptor: one usage between 1 and 1023. -/
def items : List Item :=
  [.short .usagePage 0x0C, .short .usage 0x01, .short .collection 0x01,
    .short .logicalMinimum 1, .wide .logicalMaximum 1023,
    .short .usageMinimum 1, .wide .usageMaximum 1023,
    .short .reportCount 1, .short .reportSize 16, .short .input 0x00,
    .bare .endCollection]

/-- The template of the consumer control's report descriptor. -/
def template : Template :=
  ⟨Item.encodeAll items, by decide⟩

end ConsumerReport

end UsbComposite
