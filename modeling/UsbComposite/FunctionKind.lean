import UsbComposite.Descriptor
import UsbComposite.Role.Set

/-!
# Functions of a device

To its host a device offers up to four **functions**, each a run of interfaces with endpoints of its
own: a serial link (two interfaces), the shared HID interface, mass storage, and the raw HID
interface. Endpoint addresses are fixed for each function, and no two functions use the same one.

The **block** of a function is the list of descriptors that describes it in the configuration, given
the number of its first interface.
-/

namespace UsbComposite

/-! ### Endpoints -/

namespace Endpoint

/-- The serial link's notifications. An address has its top bit set if the endpoint sends to the
host. -/
def serialNotify : UInt8 := 0x81

/-- The serial link's data from the host. -/
def serialOut : UInt8 := 0x02

/-- The serial link's data to the host. -/
def serialIn : UInt8 := 0x82

/-- The reports of the shared HID interface. -/
def sharedIn : UInt8 := 0x83

/-- Mass storage, from the host. -/
def storageOut : UInt8 := 0x03

/-- Mass storage, to the host. -/
def storageIn : UInt8 := 0x84

/-- The raw report from the host. -/
def rawOut : UInt8 := 0x05

/-- The raw report to the host. -/
def rawIn : UInt8 := 0x85

/-- The packet size of the serial link's notifications. -/
def notifySize : UInt16 := 8

/-- The packet size of the serial link's data. -/
def serialSize : UInt16 := 64

/-- The packet size of mass storage. -/
def storageSize : UInt16 := 64

/-- The packet size of both HID interfaces. -/
def hidSize : UInt16 := 64

/-- The interval in milliseconds at which the serial link is asked for notifications. -/
def notifyInterval : UInt8 := 16

/-- The interval in milliseconds at which HID interfaces are asked for reports. -/
def hidInterval : UInt8 := 10

end Endpoint

/-- A function that a device may offer. -/
inductive FunctionKind
  | serialLink
  | sharedHid
  | massStorage
  | rawHid
deriving DecidableEq

namespace FunctionKind

/-- The functions in the order of their interfaces. -/
def all : List FunctionKind :=
  [serialLink, sharedHid, massStorage, rawHid]

/-- How many interfaces a function takes. -/
def interfaceCount : FunctionKind → UInt8
  | serialLink => 2
  | sharedHid | massStorage | rawHid => 1

/-- Whether the roles call for a function. -/
def isEnabled (kind : FunctionKind) (roles : RoleSet) : Bool :=
  match kind with
  | serialLink => roles.contains .serial
  | sharedHid => roles.hasShared
  | massStorage => roles.contains .massStorage
  | rawHid => roles.contains .rawHid

/-- The length of a function's block in bytes. -/
def blockLength : FunctionKind → Nat
  | serialLink => 66
  | sharedHid => 25
  | massStorage => 23
  | rawHid => 32

end FunctionKind

/-! ### Blocks -/

namespace Block

open Descriptor

/-- A serial link on the interfaces `first` and `first + 1`. -/
def serialLink (first : UInt8) : List Descriptor :=
  [association first 2 .serialControl,
    interface first 1 .serialControl StringSlot.serialLinkLabel.index,
    serialHeader, callManagement (first + 1), abstractControl, union first (first + 1),
    endpoint Endpoint.serialNotify .interrupt Endpoint.notifySize Endpoint.notifyInterval,
    interface (first + 1) 2 .serialData 0,
    endpoint Endpoint.serialOut .bulk Endpoint.serialSize 0,
    endpoint Endpoint.serialIn .bulk Endpoint.serialSize 0]

/-- The shared HID interface, with one endpoint and a report descriptor of the given length. -/
def sharedHid (first : UInt8) (reportLength : UInt16) : List Descriptor :=
  [interface first 1 .hid 0, hid reportLength,
    endpoint Endpoint.sharedIn .interrupt Endpoint.hidSize Endpoint.hidInterval]

/-- Mass storage. -/
def massStorage (first : UInt8) : List Descriptor :=
  [interface first 2 .storage 0,
    endpoint Endpoint.storageOut .bulk Endpoint.storageSize 0,
    endpoint Endpoint.storageIn .bulk Endpoint.storageSize 0]

/-- The raw HID interface, with an endpoint in each direction. -/
def rawHid (first : UInt8) (reportLength : UInt16) : List Descriptor :=
  [interface first 2 .hid 0, hid reportLength,
    endpoint Endpoint.rawOut .interrupt Endpoint.hidSize Endpoint.hidInterval,
    endpoint Endpoint.rawIn .interrupt Endpoint.hidSize Endpoint.hidInterval]

@[simp] theorem length_serialLink (first : UInt8) :
    (encodeAll (serialLink first)).length = FunctionKind.serialLink.blockLength := rfl

@[simp] theorem length_sharedHid (first : UInt8) (reportLength : UInt16) :
    (encodeAll (sharedHid first reportLength)).length = FunctionKind.sharedHid.blockLength := rfl

@[simp] theorem length_massStorage (first : UInt8) :
    (encodeAll (massStorage first)).length = FunctionKind.massStorage.blockLength := rfl

@[simp] theorem length_rawHid (first : UInt8) (reportLength : UInt16) :
    (encodeAll (rawHid first reportLength)).length = FunctionKind.rawHid.blockLength := rfl

end Block

end UsbComposite
