import UsbComposite.Role.Set

/-!
# Report numbers

The reports of the shared interface are told apart by a number in front. The enabled shared roles get
the numbers 1, 2, … in their fixed order; a disabled role gets none. A table need not come from a
role set: any numbers can be looked up, also repeated ones, and then the first role in the fixed
order owns the number.
-/

namespace UsbComposite

/-- The report number of each shared role, none for a disabled one. -/
structure ReportNumbers where
  keyboard : Option UInt8 := none
  mouse : Option UInt8 := none
  joystick : Option UInt8 := none
  consumer : Option UInt8 := none
deriving DecidableEq

namespace ReportNumbers

/-- The number that an enabled shared role gets: its place among the enabled ones, from 1. -/
def assigned (roles : RoleSet) (role : Role) : Option UInt8 :=
  ((Role.shared.filter roles.contains).idxOf? role).map fun place => UInt8.ofNat (place + 1)

/-- The numbers of the enabled shared roles. -/
def ofRoles (roles : RoleSet) : ReportNumbers where
  keyboard := assigned roles .keyboard
  mouse := assigned roles .mouse
  joystick := assigned roles .joystick
  consumer := assigned roles .consumerControl

/-- The number of a role, none if it is disabled or not shared. -/
def get? (numbers : ReportNumbers) : Role → Option UInt8
  | .keyboard => numbers.keyboard
  | .mouse => numbers.mouse
  | .joystick => numbers.joystick
  | .consumerControl => numbers.consumer
  | .serial | .massStorage | .rawHid => none

/-- The first role that has a number. -/
def owner? (numbers : ReportNumbers) (number : UInt8) : Option Role :=
  Role.shared.find? fun role => numbers.get? role == some number

/-- How many roles have a number. -/
def count (numbers : ReportNumbers) : Nat :=
  Role.shared.countP fun role => (numbers.get? role).isSome

end ReportNumbers

end UsbComposite
