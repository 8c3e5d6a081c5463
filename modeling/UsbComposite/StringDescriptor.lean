import UsbComposite.Text.Utf16

/-!
# String descriptors

A **string descriptor** is a header word followed by at most nineteen UTF-16 units; longer text is
cut after the nineteenth unit, wherever in a character that falls. The header has the descriptor
type 3 in its high byte and the length in bytes, its own two included, in its low byte. That length
is at most 40, so it never reaches the type.
-/

namespace UsbComposite

/-- The units of a string descriptor, without its header. -/
structure StringDescriptor where
  units : List UInt16
  length_le : units.length ≤ 19

namespace StringDescriptor

/-- The room for a descriptor in words, header included. -/
def capacity : Nat := 20

/-- The descriptor of the first nineteen of the given units. -/
def ofUnits (units : List UInt16) : StringDescriptor where
  units := units.take (capacity - 1)
  length_le := List.length_take_le 19 units

/-- The descriptor of a text. -/
def ofText (text : String) : StringDescriptor :=
  ofUnits (Utf16.encode text.toList)

/-- The list of languages in which the strings are kept: US English alone. -/
def languages : StringDescriptor :=
  ofUnits [0x0409]

/-- How many units follow the header. -/
def length (descriptor : StringDescriptor) : Nat :=
  descriptor.units.length

/-- Whether only the header is left. -/
def isEmpty (descriptor : StringDescriptor) : Bool :=
  descriptor.length == 0

/-- The type in the high byte and the length in bytes in the low byte. -/
def header (descriptor : StringDescriptor) : UInt16 :=
  UInt16.ofNat (0x0300 + (2 * descriptor.length + 2))

/-- The descriptor as it is handed to the host. -/
def words (descriptor : StringDescriptor) : List UInt16 :=
  descriptor.header :: descriptor.units

@[ext] theorem ext {s t : StringDescriptor} (h : s.units = t.units) : s = t := by
  cases s
  cases t
  cases h
  rfl

/-- Descriptors can be compared by their units. -/
instance : DecidableEq StringDescriptor := fun s t =>
  decidable_of_iff (s.units = t.units) ⟨ext, fun h => h ▸ rfl⟩

end StringDescriptor

/-- The strings that a host may ask for. -/
inductive StringSlot
  /-- The list of languages. -/
  | language
  | manufacturer
  | product
  | serial
  /-- The label of the serial link's control interface. -/
  | serialLinkLabel
deriving DecidableEq

namespace StringSlot

/-- The index by which other descriptors refer to a string. -/
def index : StringSlot → UInt8
  | language => 0
  | manufacturer => 1
  | product => 2
  | serial => 3
  | serialLinkLabel => 4

/-- The slots in the order of their indices. -/
def all : List StringSlot :=
  [language, manufacturer, product, serial, serialLinkLabel]

/-- The slot of an index, none past the end of the table. -/
def ofIndex? (index : UInt8) : Option StringSlot :=
  all.find? fun slot => slot.index == index

/-- A slot is found by its own index. -/
theorem ofIndex?_index (slot : StringSlot) : ofIndex? slot.index = some slot := by
  cases slot <;> rfl

end StringSlot

end UsbComposite
