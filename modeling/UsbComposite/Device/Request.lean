import UsbComposite.Device
import UsbComposite.StringDescriptor

/-!
# Requests

While a device runs it answers the **requests** of its host, which the controller hands on. A request
that is answered with data brings a buffer along, and the **reply** holds that buffer as it was
filled. Of everything a device holds, only the generated serial number can change on the way: the
first request for the serial number string reads the board's identifier, if the identity has no
serial number of its own.
-/

namespace UsbComposite

/-- What a host may ask of a device. -/
inductive Request
  | deviceDescriptor
  /-- There is one configuration, whatever the index. -/
  | configuration (index : UInt8)
  /-- There is one language, whatever is asked for. -/
  | string (index : UInt8) (language : UInt16)
  | reportDescriptor (instanceNumber : UInt8)
  /-- Asking for a report is not supported. -/
  | getReport (instanceNumber reportId : UInt8) (kind : ReportKind) (buffer : List UInt8)
  | setReport (delivery : Delivery)
  | unitReady (lun : UInt8)
  | geometry (lun : UInt8)
  | inquiry (lun : UInt8)
  | read (start : Position) (buffer : List UInt8)
  | write (start : Position) (data : List UInt8)
  | command (lun : UInt8) (bytes : Vector UInt8 16) (buffer : List UInt8)
deriving DecidableEq

/-- The answer to a request. -/
inductive Reply
  | bytes (bytes : List UInt8)
  | optionalBytes (bytes : Option (List UInt8))
  | string (descriptor : Option StringDescriptor)
  | filled (count : Nat) (buffer : List UInt8)
  | accepted
  | ready (isReady : Bool)
  | geometry (geometry : Geometry)
  | inquiry (inquiry : Inquiry)
  | transferred (outcome : Except Fault Nat) (buffer : List UInt8)
  | written (outcome : Except Fault Nat)
deriving DecidableEq

/-- Something that an answer makes visible to the surroundings of a device. -/
inductive Effect
  /-- The board's identifier was read. -/
  | boardRead
  /-- A listener was called. -/
  | notice (notice : Notice)
  /-- A recorder was asked. -/
  | medium (request : MediumRequest)
deriving DecidableEq

/-- A reply, what became visible before it, and the device afterwards. -/
structure Response where
  reply : Reply
  effects : List Effect
  device : Device
deriving DecidableEq

namespace Device

/-- Whether an answer to a request for the serial number string reads the board. -/
def readsBoard (device : Device) : Bool :=
  device.identity.serial.isEmpty && !device.serial.isGenerated

/-- The text of a string slot, for a board that answers `board`. -/
def stringText (device : Device) (board : BoardId) : StringSlot → StringDescriptor
  | .language => .languages
  | .manufacturer => .ofText device.identity.manufacturer
  | .product => .ofText device.identity.productName
  | .serial =>
    if device.identity.serial.isEmpty then .ofText (device.serial.text board)
    else .ofText device.identity.serial
  | .serialLinkLabel => .ofText UsbComposite.serialLinkLabel

/-- The device after the string of a slot was shown. -/
def afterString (device : Device) (board : BoardId) : StringSlot → Device
  | .serial =>
    if device.identity.serial.isEmpty then { device with serial := device.serial.shown board }
    else device
  | .language | .manufacturer | .product | .serialLinkLabel => device

/-- The report descriptor of a HID instance, none if there is no such instance or it is not built. -/
def reportDescriptor (device : Device) (instanceNumber : UInt8) : Option (List UInt8) :=
  if device.instances.shared = some instanceNumber then device.sharedReport
  else if device.instances.raw = some instanceNumber then device.rawReport
  else none

/-- The effects of a request to the medium. -/
def mediumEffects (device : Device) (request : MediumRequest) : List Effect :=
  (device.medium.shows request).map .medium

/-- Answer a request, on a board that answers `board` when its identifier is read. -/
def respond (device : Device) (board : BoardId) : Request → Response
  | .deviceDescriptor => ⟨.bytes device.descriptor, [], device⟩
  | .configuration _ => ⟨.optionalBytes device.configuration, [], device⟩
  | .string index _ =>
    match StringSlot.ofIndex? index with
    | none => ⟨.string none, [], device⟩
    | some slot =>
      ⟨.string (some (device.stringText board slot)),
        if slot = .serial ∧ device.readsBoard then [.boardRead] else [],
        device.afterString board slot⟩
  | .reportDescriptor instanceNumber =>
    ⟨.optionalBytes (device.reportDescriptor instanceNumber), [], device⟩
  | .getReport _ _ _ buffer => ⟨.filled 0 buffer, [], device⟩
  | .setReport delivery =>
    ⟨.accepted, (device.listeners.notices delivery).map .notice, device⟩
  | .unitReady lun =>
    ⟨.ready device.medium.unitReady, device.mediumEffects (.unitReady lun), device⟩
  | .geometry lun =>
    ⟨.geometry device.medium.geometry, device.mediumEffects (.geometry lun), device⟩
  | .inquiry lun =>
    ⟨.inquiry device.medium.inquiry, device.mediumEffects (.inquiry lun), device⟩
  | .read start buffer =>
    ⟨.transferred (device.medium.read start buffer).1 (device.medium.read start buffer).2,
      device.mediumEffects (.read start buffer.length), device⟩
  | .write start data =>
    ⟨.written device.medium.write, device.mediumEffects (.write start data), device⟩
  | .command lun bytes buffer =>
    ⟨.transferred device.medium.command buffer,
      device.mediumEffects (.command lun bytes buffer.length), device⟩

/-- **A report that the host sends is dispatched**, as long as no listener acts on the table: the
notices are those of the dispatch, and the table is the one behind it. -/
theorem respond_setReport {device : Device}
    (passive : ∀ listener ∈ device.listeners.listeners, listener.acts = false) (board : BoardId)
    (delivery : Delivery) :
    let dispatched := device.listeners.deliver delivery
    device.respond board (.setReport delivery) =
      ⟨.accepted, (dispatched.2.flatMap ListenerTable.Happening.notices).map .notice,
        { device with listeners := dispatched.1 }⟩ := by
  intro dispatched
  obtain ⟨htable, hnotices⟩ := ListenerTable.deliver_eq_notices passive delivery
  rw [htable, hnotices]
  rfl

end Device

end UsbComposite
