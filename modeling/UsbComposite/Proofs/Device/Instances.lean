import UsbComposite.Proofs.Configuration.Interfaces
import UsbComposite.Proofs.Device.Life
import UsbComposite.Proofs.Report.Shared

/-!
# HID interfaces, instances and report descriptors

A host counts the HID interfaces of a configuration from zero and asks for report descriptors by this
instance number. Four things have to agree for that: the numbers that the device gave to its HID
functions, the order in which the layout places them, the report descriptors that were built, and
the lengths that the configuration names.

All four follow one list, the HID functions that the roles call for:

* `get?_ofRoles_iff`: a function's instance number is its place in that list;
* `isPrepared_prepare`: every device can be prepared;
* `exists_reportOf`: a prepared device has a report descriptor for each function in it;
* `instances_agree`: so the four agree in every prepared device.
-/

namespace UsbComposite

/-- The instance number of a HID function. -/
def HidInstances.get? (instances : HidInstances) : FunctionKind → Option UInt8
  | .sharedHid => instances.shared
  | .rawHid => instances.raw
  | .serialLink | .massStorage => none

/-- **Instance numbers count the HID functions**: the number of a function is its place among those
that the roles call for. -/
theorem HidInstances.get?_ofRoles_iff (roles : RoleSet) (kind : FunctionKind) (number : UInt8) :
    (ofRoles roles).get? kind = some number ↔
      (FunctionKind.hidOfRoles roles)[number.toNat]? = some kind := by
  have hzero : (0 : UInt8) = number ↔ number.toNat = 0 := by
    rw [← UInt8.toNat_inj, eq_comm]
    rfl
  have hone : (1 : UInt8) = number ↔ number.toNat = 1 := by
    rw [← UInt8.toNat_inj, eq_comm]
    rfl
  -- there are at most two places, so a number is the first, the second, or past both
  rcases hplace : number.toNat with _ | _ | later <;>
    cases hshared : roles.hasShared <;> cases hraw : roles.contains .rawHid <;> cases kind <;>
    simp [FunctionKind.hidOfRoles, FunctionKind.isEnabled, get?, ofRoles, hshared, hraw, hzero,
      hone, hplace]

namespace Device

open UsbComposite.Configuration (hidInterfaces StandsFor)

/-! ### Report descriptors of HID functions -/

/-- The report descriptor of a HID function, none before it is built. -/
def reportOf (device : Device) : FunctionKind → Option (List UInt8)
  | .sharedHid => device.sharedReport
  | .rawHid => device.rawReport
  | .serialLink | .massStorage => none

/-- **An instance answers with the report descriptor of its function.** -/
theorem reportDescriptor_of_get? {device : Device} {kind : FunctionKind} {number : UInt8}
    (h : device.instances.get? kind = some number) :
    device.reportDescriptor number = device.reportOf kind := by
  cases kind with
  | serialLink => cases h
  | massStorage => cases h
  | sharedHid => exact if_pos h
  | rawHid =>
    have hother : ¬ device.instances.shared = some number := by
      intro hshared
      -- both functions would be at one place
      have hplace := (HidInstances.get?_ofRoles_iff device.roles .sharedHid number).mp hshared
      rw [(HidInstances.get?_ofRoles_iff device.roles .rawHid number).mp h] at hplace
      cases hplace
    rw [reportDescriptor, if_neg hother]
    exact if_pos h

/-- A number past the HID functions of the device has no report descriptor. -/
theorem reportDescriptor_of_past {device : Device} {number : UInt8}
    (h : (FunctionKind.hidOfRoles device.roles)[number.toNat]? = none) :
    device.reportDescriptor number = none := by
  have hnone : ∀ kind, ¬ device.instances.get? kind = some number := by
    intro kind hkind
    rw [(HidInstances.get?_ofRoles_iff device.roles kind number).mp hkind] at h
    cases h
  have hshared : ¬ device.instances.shared = some number := hnone .sharedHid
  have hraw : ¬ device.instances.raw = some number := hnone .rawHid
  rw [reportDescriptor, if_neg hshared, if_neg hraw]

/-- **A prepared device has a report descriptor for each of its HID functions**, and its length fits
into the sixteen bits that the configuration has for it. -/
theorem exists_reportOf {device : Device} (built : device.WellBuilt)
    (prepared : device.isPrepared = true) {kind : FunctionKind}
    (h : kind ∈ FunctionKind.hidOfRoles device.roles) :
    ∃ report, device.reportOf kind = some report ∧ report.length < 65536 := by
  obtain ⟨bytes, hbytes⟩ := Option.isSome_iff_exists.mp prepared
  obtain ⟨reports, hreports⟩ := Option.isSome_iff_exists.mp (built.configuration bytes hbytes).1
  obtain ⟨hshared, hraw⟩ := built.reports reports hreports
  rw [ReportDescriptor.shared_eq] at hshared
  rw [ReportDescriptor.raw_eq] at hraw
  obtain ⟨hmem, henabled⟩ := List.mem_filter.mp h
  cases kind with
  | serialLink => exact absurd hmem (by decide)
  | massStorage => exact absurd hmem (by decide)
  | sharedHid =>
    rw [if_pos (show device.roles.hasShared = true from henabled)] at hshared
    refine ⟨ReportDescriptor.stampedAll (ReportDescriptor.numbered device.roles), ?_, ?_⟩
    · show device.reports.bind ReportDescriptors.shared = _
      rw [hreports]
      exact (Except.ok.inj hshared).symm
    · rw [ReportDescriptor.length_stampedAll_numbered]
      have hlength := ReportDescriptor.sharedLength_le device.roles
      rw [ReportDescriptor.sharedCapacity] at hlength
      omega
  | rawHid =>
    rw [if_pos (show device.roles.contains .rawHid = true from henabled)] at hraw
    refine ⟨VendorReport.descriptor, ?_, by decide⟩
    show device.reports.bind ReportDescriptors.raw = _
    rw [hreports]
    exact (Except.ok.inj hraw).symm

/-- The length that a configuration names for a function is that of its report descriptor. -/
theorem reportLengths_get {device : Device} {kind : FunctionKind} {report : List UInt8}
    (h : device.reportOf kind = some report) : device.reportLengths.get kind = report.length := by
  cases kind with
  | serialLink => cases h
  | massStorage => cases h
  | sharedHid =>
    have hreport : device.sharedReport = some report := h
    simp only [ReportLengths.get, reportLengths, hreport, Option.map_some, Option.getD_some]
  | rawHid =>
    have hreport : device.rawReport = some report := h
    simp only [ReportLengths.get, reportLengths, hreport, Option.map_some, Option.getD_some]

/-! ### Building -/

/-- Building the report descriptors never fails. -/
theorem buildReports_ok (device : Device) : device.buildReports.2 = .ok () := by
  unfold buildReports
  split
  · rfl
  · rw [ReportDescriptor.shared_eq, ReportDescriptor.raw_eq]

/-- **Preparing prepares**, whatever a device has built before. -/
theorem isPrepared_prepare (device : Device) : device.prepare.1.isPrepared = true := by
  unfold prepare buildConfiguration
  split
  · rename_i bytes hbytes
    rw [isPrepared, hbytes]
    rfl
  · split
    · rename_i later fault hfault
      have hok := buildReports_ok device
      rw [hfault] at hok
      cases hok
    · rw [Configuration.encode_ofRoles]
      rfl

/-! ### Agreement -/

/-- The instances of a device agree with the HID interfaces of a configuration. -/
structure InstancesAgree (device : Device) (interfaces : List Interface) : Prop where
  /-- There is a report descriptor for each interface and for no other number. -/
  present : ∀ number : UInt8,
    (device.reportDescriptor number).isSome = true ↔ number.toNat < interfaces.length
  /-- An interface has one HID class descriptor, and the length named there is exact. -/
  length : ∀ (number : UInt8) (report : List UInt8) (interface : Interface),
    device.reportDescriptor number = some report →
      interfaces[number.toNat]? = some interface →
      interface.reportLengths.map UInt16.toNat = [report.length]
  /-- The shared instance has one endpoint and the shared report descriptor. -/
  shared : ∀ number : UInt8, device.instances.shared = some number →
    ∃ interface, interfaces[number.toNat]? = some interface ∧
      interface.endpoints = 1 ∧ interface.endpointCount = 1 ∧
      device.reportDescriptor number = device.sharedReport
  /-- The raw instance has two endpoints and the raw report descriptor. -/
  raw : ∀ number : UInt8, device.instances.raw = some number →
    ∃ interface, interfaces[number.toNat]? = some interface ∧
      interface.endpoints = 2 ∧ interface.endpointCount = 2 ∧
      device.reportDescriptor number = device.rawReport
  shared_lt_raw : ∀ first second : UInt8, device.instances.shared = some first →
    device.instances.raw = some second → first < second

/-- The shared interface comes in front of the raw one. -/
theorem shared_lt_raw_of_instances {device : Device} {first second : UInt8}
    (hfirst : device.instances.shared = some first)
    (hsecond : device.instances.raw = some second) : first < second := by
  simp only [instances, HidInstances.ofRoles] at hfirst hsecond
  split at hfirst
  · rename_i hshared
    rw [if_pos hshared] at hsecond
    split at hsecond
    · cases hfirst
      cases hsecond
      decide
    · cases hsecond
  · cases hfirst

/-- The interface at the number of a HID function stands for that function. -/
theorem exists_interface_of_get? {device : Device} {interfaces : List Interface}
    (h : List.Forall₂ (StandsFor device.reportLengths) interfaces
      (FunctionKind.hidOfRoles device.roles))
    {kind : FunctionKind} {number : UInt8} (hnumber : device.instances.get? kind = some number) :
    ∃ interface, interfaces[number.toNat]? = some interface ∧
      StandsFor device.reportLengths interface kind := by
  have hplace := (HidInstances.get?_ofRoles_iff device.roles kind number).mp hnumber
  obtain ⟨hlt, hkind⟩ := List.getElem?_eq_some_iff.mp hplace
  have hlt' : number.toNat < interfaces.length := by rw [h.length_eq]; exact hlt
  have hstands := h.get hlt' hlt
  rw [List.get_eq_getElem, List.get_eq_getElem] at hstands
  exact ⟨_, List.getElem?_eq_getElem hlt', hkind ▸ hstands⟩

/-- **Interfaces that stand for the HID functions of a prepared device agree with its instances.** -/
theorem instancesAgree_of_standsFor {device : Device} (built : device.WellBuilt)
    (prepared : device.isPrepared = true) {interfaces : List Interface}
    (h : List.Forall₂ (StandsFor device.reportLengths) interfaces
      (FunctionKind.hidOfRoles device.roles)) : device.InstancesAgree interfaces := by
  constructor
  case present =>
    intro number
    rw [h.length_eq]
    cases hplace : (FunctionKind.hidOfRoles device.roles)[number.toNat]? with
    | none =>
      rw [reportDescriptor_of_past hplace]
      have hpast := List.getElem?_eq_none_iff.mp hplace
      simp only [Option.isSome_none, Bool.false_eq_true, false_iff]
      omega
    | some kind =>
      have hnumber := (HidInstances.get?_ofRoles_iff device.roles kind number).mpr hplace
      obtain ⟨report, hreport, -⟩ := exists_reportOf built prepared (List.mem_of_getElem? hplace)
      rw [reportDescriptor_of_get? hnumber, hreport]
      simp only [Option.isSome_some, true_iff]
      exact (List.getElem?_eq_some_iff.mp hplace).1
  case length =>
    intro number report interface hreport hinterface
    cases hplace : (FunctionKind.hidOfRoles device.roles)[number.toNat]? with
    | none =>
      rw [reportDescriptor_of_past hplace] at hreport
      cases hreport
    | some kind =>
      have hnumber := (HidInstances.get?_ofRoles_iff device.roles kind number).mpr hplace
      obtain ⟨found, hfound, hstands⟩ := exists_interface_of_get? h hnumber
      rw [hinterface] at hfound
      cases hfound
      obtain ⟨report', hreport', hlt⟩ := exists_reportOf built prepared (List.mem_of_getElem? hplace)
      rw [reportDescriptor_of_get? hnumber, hreport'] at hreport
      cases hreport
      rw [hstands.reportLengths, reportLengths_get hreport']
      simp only [List.map_cons, List.map_nil, UInt16.toNat_ofNat', Nat.mod_eq_of_lt hlt]
  case shared =>
    intro number hnumber
    have hget : device.instances.get? .sharedHid = some number := hnumber
    obtain ⟨interface, hinterface, hstands⟩ := exists_interface_of_get? h hget
    refine ⟨interface, hinterface, ?_, hstands.attached, reportDescriptor_of_get? hget⟩
    exact UInt8.toNat_inj.mp hstands.endpoints
  case raw =>
    intro number hnumber
    have hget : device.instances.get? .rawHid = some number := hnumber
    obtain ⟨interface, hinterface, hstands⟩ := exists_interface_of_get? h hget
    refine ⟨interface, hinterface, ?_, hstands.attached, reportDescriptor_of_get? hget⟩
    exact UInt8.toNat_inj.mp hstands.endpoints
  case shared_lt_raw => exact fun _ _ => shared_lt_raw_of_instances

/-- **Interfaces, instances and report descriptors agree** in every device of any roles, whatever it
lived through. Once it is prepared, the bytes of its configuration can be walked, and the HID
interfaces found on the way agree with its instances. Before, there is no configuration, and as long
as nothing was built there is no report descriptor either. Preparing it is always possible. -/
theorem instances_agree (roles : RoleSet) (medium : Medium) (acts : List Act) :
    let device := (make roles medium).live acts
    (device.isPrepared = true →
      ∃ bytes descriptors, device.configuration = some bytes ∧
        Descriptor.readAll? bytes = some descriptors ∧
        device.InstancesAgree (hidInterfaces descriptors)) ∧
    (device.isPrepared = false →
      device.configuration = none ∧
        ((∀ act ∈ acts, act.builds = false) →
          ∀ number, device.reportDescriptor number = none)) ∧
    (device.act .prepare).isPrepared = true := by
  intro device
  have built : device.WellBuilt := wellBuilt_live (wellBuilt_make roles medium) acts
  refine ⟨?_, ?_, isPrepared_prepare device⟩
  · intro prepared
    obtain ⟨bytes, hbytes⟩ := Option.isSome_iff_exists.mp prepared
    have hencode := (built.configuration bytes hbytes).2
    rw [Configuration.encode_ofRoles] at hencode
    refine ⟨bytes, Configuration.descriptors (.ofRoles device.roles) device.reportLengths, hbytes,
      ?_, ?_⟩
    · rw [← Except.ok.inj hencode, Descriptor.readAll?_encodeAll]
    · exact instancesAgree_of_standsFor built prepared
        (Configuration.hidInterfaces_descriptors device.roles device.reportLengths)
  · intro hunprepared
    refine ⟨Option.isNone_iff_eq_none.mp (Option.isSome_eq_false_iff.mp hunprepared), ?_⟩
    intro hacts number
    have hreports : device.reports = none := reports_live hacts (make roles medium)
    simp only [reportDescriptor, sharedReport, rawReport, hreports, Option.bind_none, ite_self]

end Device

end UsbComposite
