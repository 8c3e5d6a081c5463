import UsbComposite.Descriptor
import UsbComposite.Role.Set

/-!
# Identities

A device names itself by a vendor number, a product number and three strings. Hosts remember drivers
by these numbers, so as long as the product number is the default one it is varied by the enabled
roles: keyboard, mouse and joystick set a bit each, mass storage and raw HID toggle one each. A
product number chosen otherwise is shown as it is.
-/

namespace UsbComposite

/-- The numbers and strings under which a device shows itself. -/
structure Identity where
  vendor : UInt16 := 0x2E8A
  /-- The product number before it is varied by the roles. -/
  product : UInt16 := 0x000A
  manufacturer : String := "Raspberry Pi"
  productName : String := "PicoArduino"
  /-- The serial number; an empty one stands for the board's identifier. -/
  serial : String := ""
deriving DecidableEq

/-- The label of the serial link's control interface. -/
def serialLinkLabel : String := "Board CDC"

namespace ProductNumber

/-- The product number that is varied by the roles. -/
def default : UInt16 := 0x000A

/-- The bit that a keyboard sets. -/
def keyboardBit : UInt16 := 0x8000

/-- The bit that a mouse sets. -/
def mouseBit : UInt16 := 0x4000

/-- The bit that a joystick sets. -/
def joystickBit : UInt16 := 0x0100

/-- The bit that mass storage toggles. -/
def massStorageBit : UInt16 := 0x2000

/-- The bit that raw HID toggles. -/
def rawHidBit : UInt16 := 0x1000

/-- `number` with a bit set if the role is enabled. -/
def set (roles : RoleSet) (role : Role) (bit number : UInt16) : UInt16 :=
  if roles.contains role then number ||| bit else number

/-- `number` with a bit toggled if the role is enabled. -/
def toggle (roles : RoleSet) (role : Role) (bit number : UInt16) : UInt16 :=
  if roles.contains role then number ^^^ bit else number

/-- The product number shown for a chosen one. -/
def shown (chosen : UInt16) (roles : RoleSet) : UInt16 :=
  if chosen = default then
    toggle roles .rawHid rawHidBit <|
      toggle roles .massStorage massStorageBit <|
        set roles .joystick joystickBit <|
          set roles .mouse mouseBit <| set roles .keyboard keyboardBit chosen
  else chosen

end ProductNumber

/-- The descriptor of a device with this identity and these roles. -/
def Identity.descriptor (identity : Identity) (roles : RoleSet) : Descriptor :=
  .device identity.vendor (ProductNumber.shown identity.product roles)

/-- The bytes of that descriptor. -/
def Identity.deviceDescriptor (identity : Identity) (roles : RoleSet) : List UInt8 :=
  (identity.descriptor roles).encode

end UsbComposite
