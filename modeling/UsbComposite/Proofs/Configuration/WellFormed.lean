import Mathlib.Data.List.Flatten
import UsbComposite.Proofs.Configuration.Interfaces

/-!
# Configurations are well formed

The descriptors of a configuration name one another: an interface counts its endpoints, and those of
a serial link name its two interfaces by number. None of these names is computed from what it names.
They fit because every block fits in itself, and because blocks laid out one after the other neither
share a number nor an endpoint address.

* `numbers_place`: placed functions have the interface numbers from the first one on, without gaps;
* `EndpointsDeclared.append`: interfaces that count right still do in front of a block;
* `wellFormed_descriptors`: so the configuration of any roles is well formed.
-/

namespace UsbComposite

namespace Descriptor

/-- The address of an endpoint. -/
def address? : Descriptor → Option UInt8
  | endpoint address .. => some address
  | _ => none

/-- The first interface and the number of interfaces that an association names. -/
def association? : Descriptor → Option (UInt8 × UInt8)
  | association first count _ => some (first, count)
  | _ => none

/-- The interface that call management names. -/
def callManager? : Descriptor → Option UInt8
  | callManagement data => some data
  | _ => none

/-- The control and the data interface that a union names. -/
def union? : Descriptor → Option (UInt8 × UInt8)
  | union control data => some (control, data)
  | _ => none

end Descriptor

namespace FunctionKind

/-- The endpoint addresses of a function. -/
def addresses : FunctionKind → List UInt8
  | serialLink => [Endpoint.serialNotify, Endpoint.serialOut, Endpoint.serialIn]
  | sharedHid => [Endpoint.sharedIn]
  | massStorage => [Endpoint.storageOut, Endpoint.storageIn]
  | rawHid => [Endpoint.rawOut, Endpoint.rawIn]

/-- How many interfaces functions take together. -/
def interfaceTotal (kinds : List FunctionKind) : Nat :=
  kinds.foldr (fun kind rest => kind.interfaceCount.toNat + rest) 0

/-- The functions that the roles call for, in the order of their interfaces. -/
def ofRoles (roles : RoleSet) : List FunctionKind :=
  all.filter fun kind => kind.isEnabled roles

theorem interfaceTotal_le_of_sublist {some all : List FunctionKind} (h : some.Sublist all) :
    interfaceTotal some ≤ interfaceTotal all := by
  induction h with
  | slnil => exact Nat.le_refl _
  | cons kind _ ih => exact Nat.le_trans ih (Nat.le_add_left _ _)
  | cons_cons kind _ ih => exact Nat.add_le_add_left ih _

theorem interfaceTotal_ofRoles_le (roles : RoleSet) : interfaceTotal (ofRoles roles) ≤ 5 :=
  interfaceTotal_le_of_sublist List.filter_sublist

/-- **No two functions share an endpoint address.** -/
theorem nodup_addresses_ofRoles (roles : RoleSet) : ((ofRoles roles).flatMap addresses).Nodup := by
  have hall : (all.flatMap addresses).Nodup := by decide
  have hsublist : ((ofRoles roles).flatMap addresses).Sublist (all.flatMap addresses) :=
    List.filter_sublist.flatMap _
  exact hall.sublist hsublist

end FunctionKind

/-- The number of the control interface, if the slot is a serial link. -/
def Slot.control? : Slot → Option UInt8
  | ⟨.serialLink, first⟩ => some first
  | _ => none

namespace Layout

theorem map_kind_place (next : UInt8) (kinds : List FunctionKind) :
    (place next kinds).map Slot.kind = kinds := by
  induction kinds generalizing next with
  | nil => rfl
  | cons kind rest ih => rw [place, List.map_cons, ih]

/-- The interfaces of placed functions are counted without overflow. -/
theorem interfaceCount_place {kinds : List FunctionKind}
    (h : FunctionKind.interfaceTotal kinds < 256) (next : UInt8) :
    (Layout.mk (place next kinds)).interfaceCount.toNat = FunctionKind.interfaceTotal kinds := by
  induction kinds generalizing next with
  | nil => rfl
  | cons kind rest ih =>
    have htotal : FunctionKind.interfaceTotal (kind :: rest) =
        kind.interfaceCount.toNat + FunctionKind.interfaceTotal rest := rfl
    rw [htotal] at h ⊢
    have hrest := ih (by omega) (next + kind.interfaceCount)
    show (kind.interfaceCount +
      (Layout.mk (place (next + kind.interfaceCount) rest)).interfaceCount).toNat = _
    rw [UInt8.toNat_add, hrest, Nat.mod_eq_of_lt h]

end Layout

namespace Configuration

/-- The numbers of the interfaces of one class. -/
def numbersOf (code : ClassCode) (descriptors : List Descriptor) : List UInt8 :=
  ((interfaces descriptors).filter fun interface => interface.code == code).map Interface.number

/-- How many endpoints come in front of the next interface. -/
def endpointsAhead : List Descriptor → Nat
  | [] => 0
  | .interface .. :: _ => 0
  | .endpoint .. :: rest => endpointsAhead rest + 1
  | _ :: rest => endpointsAhead rest

/-- The descriptors of a configuration fit together. -/
structure WellFormed (descriptors : List Descriptor) : Prop where
  /-- Interfaces are numbered from zero without gaps. -/
  numbers : (interfaces descriptors).map (fun interface => interface.number.toNat) =
    List.range (interfaces descriptors).length
  /-- An interface counts the endpoints up to the next one. -/
  endpoints : ∀ front number endpoints code label rest,
    descriptors = front ++ .interface number endpoints code label :: rest →
      endpoints.toNat = endpointsAhead rest
  addresses : (descriptors.filterMap Descriptor.address?).Nodup
  /-- The data interface of a serial link is the one behind its control interface. -/
  data : numbersOf .serialData descriptors = (numbersOf .serialControl descriptors).map (· + 1)
  associations : descriptors.filterMap Descriptor.association? =
    (numbersOf .serialControl descriptors).map fun control => (control, 2)
  callManagers : descriptors.filterMap Descriptor.callManager? = numbersOf .serialData descriptors
  unions : descriptors.filterMap Descriptor.union? =
    (numbersOf .serialControl descriptors).zip (numbersOf .serialData descriptors)

/-! ### Endpoints -/

/-- Every interface counts the endpoints up to the next one. -/
def EndpointsDeclared : List Descriptor → Prop
  | [] => True
  | .interface _ endpoints _ _ :: rest =>
    endpoints.toNat = endpointsAhead rest ∧ EndpointsDeclared rest
  | _ :: rest => EndpointsDeclared rest

theorem EndpointsDeclared.eq_endpointsAhead {front rest : List Descriptor}
    {number endpoints label : UInt8} {code : ClassCode}
    (h : EndpointsDeclared (front ++ .interface number endpoints code label :: rest)) :
    endpoints.toNat = endpointsAhead rest := by
  induction front with
  | nil => exact h.1
  | cons descriptor front ih =>
    cases descriptor with
    | interface => exact ih h.2
    | _ => exact ih h

theorem endpointsAhead_append {rest : List Descriptor} (hrest : endpointsAhead rest = 0)
    (front : List Descriptor) : endpointsAhead (front ++ rest) = endpointsAhead front := by
  induction front with
  | nil => exact hrest
  | cons descriptor front ih =>
    cases descriptor with
    | interface => rfl
    | endpoint => exact congrArg (· + 1) ih
    | _ => exact ih

/-- **Interfaces count right in front of what starts without endpoints.** -/
theorem EndpointsDeclared.append {front rest : List Descriptor} (hfront : EndpointsDeclared front)
    (hrest : EndpointsDeclared rest) (hahead : endpointsAhead rest = 0) :
    EndpointsDeclared (front ++ rest) := by
  induction front with
  | nil => exact hrest
  | cons descriptor front ih =>
    cases descriptor with
    | interface => exact ⟨hfront.1.trans (endpointsAhead_append hahead front).symm, ih hfront.2⟩
    | _ => exact ih hfront

theorem endpointsDeclared_block (lengths : ReportLengths) (slot : Slot) :
    EndpointsDeclared (block lengths slot) := by
  obtain ⟨kind, first⟩ := slot
  cases kind with
  | serialLink => exact ⟨rfl, rfl, trivial⟩
  | sharedHid => exact ⟨rfl, trivial⟩
  | massStorage => exact ⟨rfl, trivial⟩
  | rawHid => exact ⟨rfl, trivial⟩

theorem endpointsDeclared_flatMap_block (lengths : ReportLengths) (slots : List Slot) :
    EndpointsDeclared (slots.flatMap (block lengths)) ∧
      endpointsAhead (slots.flatMap (block lengths)) = 0 := by
  induction slots with
  | nil => exact ⟨trivial, rfl⟩
  | cons slot rest ih =>
    obtain ⟨hdeclared, hahead⟩ := ih
    have hfirst : endpointsAhead (block lengths slot) = 0 := by
      obtain ⟨kind, first⟩ := slot
      cases kind <;> rfl
    rw [List.flatMap_cons]
    exact ⟨(endpointsDeclared_block lengths slot).append hdeclared hahead,
      (endpointsAhead_append hahead _).trans hfirst⟩

/-! ### Numbers -/

/-- The interfaces of one function have the numbers from its first one on. -/
theorem numbers_block (lengths : ReportLengths) {slot : Slot}
    (h : slot.first.toNat + slot.kind.interfaceCount.toNat < 256) :
    (interfaces (block lengths slot)).map (fun interface => interface.number.toNat) =
      List.range' slot.first.toNat slot.kind.interfaceCount.toNat := by
  obtain ⟨kind, first⟩ := slot
  cases kind with
  | serialLink =>
    have hlt : first.toNat + 2 < 256 := h
    have hsecond : (first + 1).toNat = first.toNat + 1 := by
      rw [UInt8.toNat_add]
      exact Nat.mod_eq_of_lt (Nat.lt_of_succ_lt hlt)
    show [first.toNat, (first + 1).toNat] = [first.toNat, first.toNat + 1]
    rw [hsecond]
  | _ => rfl

/-- **Placed functions are numbered without gaps.** -/
theorem numbers_place (lengths : ReportLengths) {next : UInt8} {kinds : List FunctionKind}
    (h : next.toNat + FunctionKind.interfaceTotal kinds < 256) :
    ((Layout.place next kinds).flatMap fun slot => interfaces (block lengths slot)).map
        (fun interface => interface.number.toNat) =
      List.range' next.toNat (FunctionKind.interfaceTotal kinds) := by
  induction kinds generalizing next with
  | nil => rfl
  | cons kind rest ih =>
    have htotal : FunctionKind.interfaceTotal (kind :: rest) =
        kind.interfaceCount.toNat + FunctionKind.interfaceTotal rest := rfl
    rw [htotal] at h ⊢
    have hnext : (next + kind.interfaceCount).toNat = next.toNat + kind.interfaceCount.toNat := by
      rw [UInt8.toNat_add]
      exact Nat.mod_eq_of_lt (by omega)
    have hslot : (Slot.mk kind next).first.toNat + kind.interfaceCount.toNat < 256 := by
      show next.toNat + kind.interfaceCount.toNat < 256
      omega
    have hroom : (next + kind.interfaceCount).toNat + FunctionKind.interfaceTotal rest < 256 := by
      omega
    have hfirst := numbers_block lengths hslot
    have hrest := ih hroom
    rw [hnext] at hrest
    rw [Layout.place, List.flatMap_cons, List.map_append, hfirst, hrest]
    exact List.range'_append_1

/-! ### What names interfaces -/

/-- A configuration is read block by block. -/
theorem filterMap_descriptors {α : Type} {read : Descriptor → Option α}
    (hheader : ∀ total count, read (.configuration total count) = none) (layout : Layout)
    (lengths : ReportLengths) :
    (descriptors layout lengths).filterMap read =
      layout.slots.flatMap fun slot => (block lengths slot).filterMap read := by
  rw [descriptors, List.filterMap_cons_none (hheader _ _), List.filterMap_flatMap]

/-- What the descriptors of a block name: the two interfaces of a serial link, if it is one. -/
structure Names (block : List Descriptor) (control? : Option UInt8) : Prop where
  controls : numbersOf .serialControl block = control?.toList
  data : numbersOf .serialData block = (control?.map (· + 1)).toList
  associations : block.filterMap Descriptor.association? =
    (control?.map fun control => (control, 2)).toList
  callManagers : block.filterMap Descriptor.callManager? = (control?.map (· + 1)).toList
  unions : block.filterMap Descriptor.union? =
    (control?.map fun control => (control, control + 1)).toList

theorem names_block (lengths : ReportLengths) (slot : Slot) :
    Names (block lengths slot) slot.control? := by
  obtain ⟨kind, first⟩ := slot
  cases kind <;> exact ⟨rfl, rfl, rfl, rfl, rfl⟩

/-- What is read from the blocks of serial links alone, is read once for each. -/
theorem flatMap_control {α : Type} {read : Slot → List α} {value : UInt8 → α}
    (hblock : ∀ slot, read slot = (slot.control?.map value).toList) (slots : List Slot) :
    slots.flatMap read = (slots.filterMap Slot.control?).map value := by
  have hread : read = fun slot => (slot.control?.map value).toList := funext hblock
  rw [List.map_filterMap, List.filterMap_eq_flatMap_toList, hread]

/-- The interfaces of one class, block by block. -/
theorem numbersOf_descriptors (code : ClassCode) (layout : Layout) (lengths : ReportLengths) :
    numbersOf code (descriptors layout lengths) =
      layout.slots.flatMap fun slot => numbersOf code (block lengths slot) := by
  rw [numbersOf, interfaces_descriptors, List.filter_flatMap, List.map_flatMap]
  rfl

theorem numbersOf_serialControl (layout : Layout) (lengths : ReportLengths) :
    numbersOf .serialControl (descriptors layout lengths) =
      layout.slots.filterMap Slot.control? := by
  have hblock : ∀ slot, numbersOf .serialControl (block lengths slot) =
      (slot.control?.map fun control => control).toList := by
    intro slot
    rw [(names_block lengths slot).controls, Option.map_id']
  rw [numbersOf_descriptors, flatMap_control hblock, List.map_id']

theorem numbersOf_serialData (layout : Layout) (lengths : ReportLengths) :
    numbersOf .serialData (descriptors layout lengths) =
      (layout.slots.filterMap Slot.control?).map (· + 1) := by
  rw [numbersOf_descriptors, flatMap_control fun slot => (names_block lengths slot).data]

theorem numbers_descriptors (roles : RoleSet) (lengths : ReportLengths) :
    (interfaces (descriptors (.ofRoles roles) lengths)).map
        (fun interface => interface.number.toNat) =
      List.range (FunctionKind.interfaceTotal (FunctionKind.ofRoles roles)) := by
  have htotal := FunctionKind.interfaceTotal_ofRoles_le roles
  have hroom : (0 : UInt8).toNat + FunctionKind.interfaceTotal (FunctionKind.ofRoles roles) <
      256 := by
    rw [UInt8.toNat_zero]
    omega
  rw [interfaces_descriptors, List.range_eq_range']
  exact numbers_place lengths hroom

/-- The header counts the interfaces. -/
theorem interfaceCount_ofRoles (roles : RoleSet) (lengths : ReportLengths) :
    (Layout.ofRoles roles).interfaceCount.toNat =
      (interfaces (descriptors (.ofRoles roles) lengths)).length := by
  have htotal := FunctionKind.interfaceTotal_ofRoles_le roles
  have hnumbers := congrArg List.length (numbers_descriptors roles lengths)
  rw [List.length_map, List.length_range] at hnumbers
  rw [hnumbers]
  exact Layout.interfaceCount_place (Nat.lt_of_le_of_lt htotal (by decide)) 0

theorem addresses_descriptors (roles : RoleSet) (lengths : ReportLengths) :
    (descriptors (.ofRoles roles) lengths).filterMap Descriptor.address? =
      (FunctionKind.ofRoles roles).flatMap FunctionKind.addresses := by
  have hblock : (fun slot => (block lengths slot).filterMap Descriptor.address?) =
      fun slot => slot.kind.addresses := by
    funext slot
    obtain ⟨kind, first⟩ := slot
    cases kind <;> rfl
  rw [filterMap_descriptors (fun _ _ => rfl), hblock, ← List.flatMap_map, Layout.ofRoles,
    Layout.map_kind_place]
  rfl

/-- **The configuration of any roles is well formed**, whatever lengths it names. -/
theorem wellFormed_descriptors (roles : RoleSet) (lengths : ReportLengths) :
    WellFormed (descriptors (.ofRoles roles) lengths) := by
  have hcontrol := numbersOf_serialControl (.ofRoles roles) lengths
  have hdata := numbersOf_serialData (.ofRoles roles) lengths
  constructor
  case numbers =>
    have hnumbers := numbers_descriptors roles lengths
    have hlength := congrArg List.length hnumbers
    rw [List.length_map, List.length_range] at hlength
    rw [hnumbers, hlength]
  case endpoints =>
    intro front number endpoints code label rest hsplit
    have hdeclared : EndpointsDeclared (descriptors (.ofRoles roles) lengths) :=
      (endpointsDeclared_flatMap_block lengths (Layout.ofRoles roles).slots).1
    rw [hsplit] at hdeclared
    exact hdeclared.eq_endpointsAhead
  case addresses =>
    rw [addresses_descriptors]
    exact FunctionKind.nodup_addresses_ofRoles roles
  case data => rw [hcontrol, hdata]
  case associations =>
    have hread := flatMap_control (fun slot => (names_block lengths slot).associations)
      (Layout.ofRoles roles).slots
    rw [filterMap_descriptors (fun _ _ => rfl), hread, hcontrol]
  case callManagers =>
    have hread := flatMap_control (fun slot => (names_block lengths slot).callManagers)
      (Layout.ofRoles roles).slots
    rw [filterMap_descriptors (fun _ _ => rfl), hread, hdata]
  case unions =>
    have hread := flatMap_control (fun slot => (names_block lengths slot).unions)
      (Layout.ofRoles roles).slots
    have hzip : ∀ controls : List UInt8, controls.zip (controls.map (· + 1)) =
        controls.map fun control => (control, control + 1) := by
      intro controls
      have hboth := List.zip_map' (l := controls) (f := fun control => control) (g := (· + 1))
      rwa [List.map_id'] at hboth
    rw [filterMap_descriptors (fun _ _ => rfl), hread, hcontrol, hdata, hzip]

end Configuration

end UsbComposite
