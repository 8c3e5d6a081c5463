import UsbComposite.Configuration
import UsbComposite.Identity
import UsbComposite.Medium
import UsbComposite.Report.Shared
import UsbComposite.SerialNumber
import UsbComposite.SetReport.Table

/-!
# Devices

A **device** is made for a set of roles that never changes. Its descriptors are built in the order in
which they depend on each other, the report descriptors first and the configuration, which names
their lengths, second. Each is built once and kept; building it again changes nothing. The identity
can be replaced once, and only before the configuration is built, so a host that has seen the
configuration sees one identity.

The descriptor of the device itself is kept as bytes and renewed with the identity.
-/

namespace UsbComposite

/-- The report descriptors of a device, each absent if no role calls for it. -/
structure ReportDescriptors where
  shared : Option (List UInt8)
  raw : Option (List UInt8)
deriving DecidableEq

/-- A device and everything that it has built so far. -/
structure Device where
  roles : RoleSet
  identity : Identity
  /-- Whether the identity was replaced. -/
  identityReplaced : Bool
  /-- The bytes of the device descriptor. -/
  descriptor : List UInt8
  reports : Option ReportDescriptors
  configuration : Option (List UInt8)
  serial : SerialNumber
  listeners : ListenerTable
  medium : Medium
deriving DecidableEq

namespace Device

/-- A new device with the default identity. -/
def make (roles : RoleSet) (medium : Medium) : Device where
  roles := roles
  identity := {}
  identityReplaced := false
  descriptor := Identity.deviceDescriptor {} roles
  reports := none
  configuration := none
  serial := {}
  listeners := .empty
  medium := medium

/-- Whether every descriptor is built. -/
def isPrepared (device : Device) : Bool :=
  device.configuration.isSome

/-- The numbers of the device's reports. -/
def numbers (device : Device) : ReportNumbers :=
  .ofRoles device.roles

/-- The instance numbers of the device's HID interfaces. -/
def instances (device : Device) : HidInstances :=
  .ofRoles device.roles

/-- The shared report descriptor, none before it is built. -/
def sharedReport (device : Device) : Option (List UInt8) :=
  device.reports.bind ReportDescriptors.shared

/-- The raw report descriptor, none before it is built. -/
def rawReport (device : Device) : Option (List UInt8) :=
  device.reports.bind ReportDescriptors.raw

/-- The lengths of the report descriptors, zero for an absent one. -/
def reportLengths (device : Device) : ReportLengths where
  shared := (device.sharedReport.map List.length).getD 0
  raw := (device.rawReport.map List.length).getD 0

/-! ### Operations

Each gives the device afterwards and the outcome. -/

/-- Replace the identity. -/
def replaceIdentity (device : Device) (identity : Identity) : Device × Except Fault Unit :=
  if device.identityReplaced || device.isPrepared then (device, .error .identityLocked)
  else
    ({ device with
        identity := identity
        identityReplaced := true
        descriptor := identity.deviceDescriptor device.roles },
      .ok ())

/-- Subscribe a listener to the reports that the host sends. -/
def subscribe (device : Device) (listener : Listener) : Device × Except Fault Unit :=
  let (table, outcome) := device.listeners.attempt listener
  ({ device with listeners := table }, outcome)

/-- Build the report descriptors. -/
def buildReports (device : Device) : Device × Except Fault Unit :=
  match device.reports with
  | some _ => (device, .ok ())
  | none =>
    match ReportDescriptor.shared device.roles, ReportDescriptor.raw device.roles with
    | .ok shared, .ok raw => ({ device with reports := some ⟨shared, raw⟩ }, .ok ())
    | .error fault, _ => (device, .error fault)
    | .ok _, .error fault => (device, .error fault)

/-- Build the configuration, and the report descriptors before it. -/
def buildConfiguration (device : Device) : Device × Except Fault Unit :=
  match device.configuration with
  | some _ => (device, .ok ())
  | none =>
    match device.buildReports with
    | (device', .error fault) => (device', .error fault)
    | (device', .ok ()) =>
      match Configuration.encode (.ofRoles device'.roles) device'.reportLengths with
      | .ok bytes => ({ device' with configuration := some bytes }, .ok ())
      | .error fault => (device', .error fault)

/-- Build every descriptor. -/
def prepare (device : Device) : Device × Except Fault Unit :=
  device.buildConfiguration

end Device

end UsbComposite
