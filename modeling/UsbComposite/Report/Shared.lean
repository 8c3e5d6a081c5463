import UsbComposite.Report
import UsbComposite.Report.Numbers
import UsbComposite.Report.Vendor

/-!
# Report descriptors of a device

A device has at most two HID interfaces. The **shared** one carries the reports of the shared roles,
and its report descriptor is their templates, stamped with their numbers, one after the other. The
**raw** one carries the vendor-defined report. Hosts count HID interfaces as instances 0, 1, …; the
shared one comes first.

Both descriptors are kept in rooms of fixed size. What does not fit is an overflow, and an absent
descriptor is distinct from an empty one.
-/

namespace UsbComposite

/-- The template of a role's report descriptor, none for a role that is not shared. -/
def Role.template? : Role → Option Template
  | .keyboard => some KeyboardReport.template
  | .mouse => some MouseReport.template
  | .joystick => some GamepadReport.template
  | .consumerControl => some ConsumerReport.template
  | .serial | .massStorage | .rawHid => none

/-- The instance numbers of a device's HID interfaces. -/
structure HidInstances where
  shared : Option UInt8
  raw : Option UInt8
deriving DecidableEq

/-- The shared interface is instance 0, and the raw one takes the next number. -/
def HidInstances.ofRoles (roles : RoleSet) : HidInstances where
  shared := if roles.hasShared then some 0 else none
  raw :=
    if roles.contains .rawHid then
      if roles.hasShared then some 1 else some 0
    else none

namespace ReportDescriptor

/-- The room for the shared report descriptor in bytes. -/
def sharedCapacity : Nat := 256

/-- The room for the raw report descriptor in bytes. -/
def rawCapacity : Nat := 64

/-- The templates of the enabled shared roles, each with its number. -/
def numbered (roles : RoleSet) : List (Template × UInt8) :=
  Role.shared.filterMap fun role =>
    match (ReportNumbers.ofRoles roles).get? role, role.template? with
    | some number, some template => some (template, number)
    | _, _ => none

/-- The length of the shared report descriptor in bytes. -/
def sharedLength (roles : RoleSet) : Nat :=
  ((Role.shared.filter roles.contains).filterMap Role.template?).foldr
    (fun template rest => template.stampedLength + rest) 0

/-- Stamp templates one after the other behind the bytes written so far, up to the first that does
not fit. -/
def assemble (written : List UInt8) : List (Template × UInt8) → Except Fault (List UInt8)
  | [] => .ok written
  | (template, number) :: rest =>
    match template.stampInto sharedCapacity number written with
    | (longer, .ok ()) => assemble longer rest
    | (_, .error fault) => .error fault

/-- The shared report descriptor, absent if no shared role is enabled. -/
def shared (roles : RoleSet) : Except Fault (Option (List UInt8)) :=
  if (ReportNumbers.ofRoles roles).count = 0 then .ok none
  else if sharedCapacity < sharedLength roles then .error .descriptorOverflow
  else (assemble [] (numbered roles)).map some

/-- The raw report descriptor, absent if the raw HID role is disabled. -/
def raw (roles : RoleSet) : Except Fault (Option (List UInt8)) :=
  if roles.contains .rawHid then
    if VendorReport.descriptor.length ≤ rawCapacity then .ok (some VendorReport.descriptor)
    else .error .descriptorOverflow
  else .ok none

end ReportDescriptor

end UsbComposite
