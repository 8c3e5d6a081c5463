/-!
# Roles

A **role** is one logical function that a device may offer to its host. There are seven, kept in
**registry order**. Four of them travel together on one HID interface and are told apart by report
numbers; these are the **shared** roles, and their order below is the order of the numbers.
-/

namespace UsbComposite

/-- One logical function that a device may offer to its host. -/
inductive Role
  /-- A serial link of the communications class. -/
  | serial
  /-- A keyboard on the shared HID interface. -/
  | keyboard
  /-- A relative mouse on the shared HID interface. -/
  | mouse
  /-- A joystick, shown to the host as a gamepad, on the shared HID interface. -/
  | joystick
  /-- Media keys on the shared HID interface. -/
  | consumerControl
  /-- Bulk-only mass storage. -/
  | massStorage
  /-- A vendor-defined report on a HID interface of its own. -/
  | rawHid
deriving DecidableEq

namespace Role

/-- Every role, in registry order. -/
def all : List Role :=
  [serial, keyboard, mouse, joystick, consumerControl, massStorage, rawHid]

/-- The roles on the shared HID interface, in the order of their report numbers. -/
def shared : List Role :=
  [keyboard, mouse, joystick, consumerControl]

/-- A role's place in the registry. -/
def place : Role → Nat
  | serial => 0
  | keyboard => 1
  | mouse => 2
  | joystick => 3
  | consumerControl => 4
  | massStorage => 5
  | rawHid => 6

/-- The name under which a role is listed. -/
def name : Role → String
  | serial => "Serial"
  | keyboard => "Keyboard"
  | mouse => "Mouse"
  | joystick => "Joystick"
  | consumerControl => "ConsumerControl"
  | massStorage => "MassStorage"
  | rawHid => "RawHid"

/-- The role of a given name. -/
def ofName? (text : String) : Option Role :=
  all.find? fun role => role.name == text

/-- The registry has seven places. -/
theorem place_lt (r : Role) : r.place < 7 := by
  cases r <;> decide

/-- No two roles share a place. -/
theorem place_inj {r q : Role} : r.place = q.place ↔ r = q := by
  cases r <;> cases q <;> decide

/-- No role is missing from the registry. -/
theorem mem_all (r : Role) : r ∈ all := by
  cases r <;> decide

/-- A role is found by its own name. -/
theorem ofName?_name (r : Role) : ofName? r.name = some r := by
  cases r <;> rfl

end Role

end UsbComposite
