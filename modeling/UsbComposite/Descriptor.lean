import UsbComposite.Bytes.LittleEndian
import UsbComposite.Descriptor.Record
import UsbComposite.StringDescriptor

/-!
# Descriptors

The descriptors that make up a device description, each with the values that vary in this library;
every other byte is fixed by the USB standard or by the choices below. A descriptor is written as a
record and read back from one: `ofRecord?_eq_some_iff` says that a record is read exactly if it was
written, so the reader checks the fixed bytes as well.
-/

namespace UsbComposite

/-- The class, subclass and protocol of a function or interface. -/
structure ClassCode where
  base : UInt8
  sub : UInt8
  protocol : UInt8
deriving DecidableEq

namespace ClassCode

/-- The class of a device whose functions are grouped by association descriptors. -/
def composite : ClassCode := ⟨0xEF, 0x02, 0x01⟩

/-- The control interface of a serial link of the abstract control model. -/
def serialControl : ClassCode := ⟨0x02, 0x02, 0x00⟩

/-- The data interface of a serial link. -/
def serialData : ClassCode := ⟨0x0A, 0x00, 0x00⟩

/-- A HID interface outside the boot protocol. -/
def hid : ClassCode := ⟨0x03, 0x00, 0x00⟩

/-- Mass storage with SCSI commands over the bulk-only transport. -/
def storage : ClassCode := ⟨0x08, 0x06, 0x50⟩

end ClassCode

/-- How an endpoint moves its data. -/
inductive Transfer
  | bulk
  | interrupt
deriving DecidableEq

/-- The byte of a transfer type. -/
def Transfer.code : Transfer → UInt8
  | bulk => 2
  | interrupt => 3

/-- A descriptor with the values that vary. -/
inductive Descriptor
  /-- The whole device, by vendor and product number. -/
  | device (vendor product : UInt16)
  /-- The header of the configuration: bytes in all, and interfaces. -/
  | configuration (totalLength : UInt16) (interfaces : UInt8)
  /-- Interfaces that form one function. -/
  | association (first count : UInt8) (code : ClassCode)
  /-- An interface, its endpoints besides the control endpoint, and the string that labels it. -/
  | interface (number endpoints : UInt8) (code : ClassCode) (label : UInt8)
  /-- An endpoint; `interval` is in milliseconds and zero for bulk endpoints. -/
  | endpoint (address : UInt8) (transfer : Transfer) (packetSize : UInt16) (interval : UInt8)
  /-- The length of the report descriptor of a HID interface. -/
  | hid (reportLength : UInt16)
  /-- The version of the serial link's class. -/
  | serialHeader
  /-- The interface that would carry call management. -/
  | callManagement (dataInterface : UInt8)
  /-- The requests that the serial link supports: line coding and serial state. -/
  | abstractControl
  /-- The control and the data interface of a serial link. -/
  | union (control data : UInt8)
deriving DecidableEq

namespace Descriptor

open LittleEndian (lowByte highByte toUInt16 toUInt16_bytes)

/-- The version of the device itself, as binary-coded decimal. -/
def deviceVersion : UInt16 := 0x0100

/-- The packet size of the control endpoint. -/
def controlPacketSize : UInt8 := 64

/-- The current that the device may draw, in milliamperes. -/
def maxPower : UInt16 := 500

/-- The kind byte of a descriptor. -/
def kind : Descriptor → UInt8
  | device .. => 0x01
  | configuration .. => 0x02
  | association .. => 0x0B
  | interface .. => 0x04
  | endpoint .. => 0x05
  | hid .. => 0x21
  | serialHeader | callManagement .. | abstractControl | union .. => 0x24

/-- The bytes behind the kind byte. -/
def body : Descriptor → List UInt8
  | device vendor product =>
    [0x00, 0x02, ClassCode.composite.base, ClassCode.composite.sub, ClassCode.composite.protocol,
      controlPacketSize, lowByte vendor, highByte vendor, lowByte product, highByte product,
      lowByte deviceVersion, highByte deviceVersion, StringSlot.manufacturer.index,
      StringSlot.product.index, StringSlot.serial.index, 1]
  | configuration totalLength interfaces =>
    [lowByte totalLength, highByte totalLength, interfaces, 1, 0, 0xA0, lowByte (maxPower / 2)]
  | association first count code => [first, count, code.base, code.sub, code.protocol, 0]
  | interface number endpoints code label =>
    [number, 0, endpoints, code.base, code.sub, code.protocol, label]
  | endpoint address transfer packetSize interval =>
    [address, transfer.code, lowByte packetSize, highByte packetSize, interval]
  | hid reportLength =>
    [0x11, 0x01, 0, 1, 0x22, lowByte reportLength, highByte reportLength]
  | serialHeader => [0x00, 0x20, 0x01]
  | callManagement dataInterface => [0x01, 0, dataInterface]
  | abstractControl => [0x02, 2]
  | union control data => [0x06, control, data]

/-- A descriptor as a record. -/
def record (descriptor : Descriptor) : Record where
  kind := descriptor.kind
  body := descriptor.body
  body_lt := by cases descriptor <;> simp [body]

/-- The bytes of a descriptor. -/
def encode (descriptor : Descriptor) : List UInt8 :=
  descriptor.record.encode

/-- The bytes of a list of descriptors. -/
def encodeAll (descriptors : List Descriptor) : List UInt8 :=
  descriptors.flatMap encode

/-- Descriptors are written as records are. -/
theorem encodeAll_eq (descriptors : List Descriptor) :
    encodeAll descriptors = Record.encodeAll (descriptors.map record) := by
  simp only [encodeAll, Record.encodeAll, List.flatMap_map]
  rfl

/-! ### Reading -/

/-- The descriptor that a record of this kind and shape may be, by its varying bytes alone. -/
def sketch? (record : Record) : Option Descriptor :=
  match record.body with
  | [_, _, _, _, _, _, v₀, v₁, p₀, p₁, _, _, _, _, _, _] =>
    some (device (toUInt16 v₀ v₁) (toUInt16 p₀ p₁))
  | [b₀, b₁, b₂, b₃, b₄, b₅, b₆] =>
    if record.kind = 0x02 then some (configuration (toUInt16 b₀ b₁) b₂)
    else if record.kind = 0x04 then some (interface b₀ b₂ ⟨b₃, b₄, b₅⟩ b₆)
    else some (hid (toUInt16 b₅ b₆))
  | [first, count, base, sub, protocol, _] => some (association first count ⟨base, sub, protocol⟩)
  | [address, transfer, s₀, s₁, interval] =>
    some (endpoint address (if transfer = 2 then .bulk else .interrupt) (toUInt16 s₀ s₁) interval)
  | [sub, b₁, b₂] =>
    if sub = 0x00 then some serialHeader
    else if sub = 0x01 then some (callManagement b₂)
    else some (union b₁ b₂)
  | [_, _] => some abstractControl
  | _ => none

/-- The descriptor that a record stands for, none if some fixed byte differs. -/
def ofRecord? (record : Record) : Option Descriptor :=
  (sketch? record).filter fun descriptor => descriptor.record = record

/-- The varying bytes of a written record give the descriptor back. -/
theorem sketch?_record (descriptor : Descriptor) : sketch? descriptor.record = some descriptor := by
  cases descriptor <;> simp [sketch?, record, body, kind, toUInt16_bytes]
  case endpoint transfer _ _ => cases transfer <;> simp [Transfer.code]

/-- **A record is read exactly if it was written.** -/
theorem ofRecord?_eq_some_iff {record : Record} {descriptor : Descriptor} :
    ofRecord? record = some descriptor ↔ descriptor.record = record := by
  rw [ofRecord?, Option.filter_eq_some_iff]
  constructor
  · rintro ⟨-, h⟩
    exact of_decide_eq_true h
  · rintro rfl
    exact ⟨sketch?_record descriptor, decide_eq_true rfl⟩

/-- The descriptors that a list of bytes is made of. -/
def readAll? (bytes : List UInt8) : Option (List Descriptor) :=
  (Record.walk? bytes).bind fun records => records.mapM ofRecord?

/-- Reading what was written gives the descriptors back. -/
@[simp] theorem readAll?_encodeAll (descriptors : List Descriptor) :
    readAll? (encodeAll descriptors) = some descriptors := by
  rw [readAll?, encodeAll_eq, Record.walk?_encodeAll, Option.bind_some]
  induction descriptors with
  | nil => rfl
  | cons descriptor rest ih =>
    rw [List.map_cons, List.mapM_cons, ih, ofRecord?_eq_some_iff.mpr rfl]
    rfl

end Descriptor

end UsbComposite
