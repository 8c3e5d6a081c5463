import UsbComposite.Hid.Item

/-!
# The raw report

The raw HID role has an interface of its own with one vendor-defined report in each direction, of
sixty-four bytes and without a report number.
-/

namespace UsbComposite.VendorReport

/-- The length of the report in bytes, in both directions. -/
def size : UInt8 := 64

/-- The report descriptor. -/
def items : List Item :=
  [.wide .usagePage 0xFF00, .short .usage 0x01, .short .collection 0x01,
    -- to the host
    .short .usage 0x02, .short .logicalMinimum 0, .wide .logicalMaximum 0x00FF,
    .short .reportSize 8, .short .reportCount size, .short .input 0x02,
    -- from the host
    .short .usage 0x03, .short .logicalMinimum 0, .wide .logicalMaximum 0x00FF,
    .short .reportSize 8, .short .reportCount size, .short .output 0x02,
    .bare .endCollection]

/-- The bytes of the report descriptor. -/
def descriptor : List UInt8 :=
  Item.encodeAll items

end UsbComposite.VendorReport
