import Mathlib.Algebra.Order.BigOperators.Group.List
import Mathlib.Algebra.Order.Group.Nat
import Mathlib.Data.List.Forall2
import UsbComposite.Configuration

/-!
# The interfaces of a configuration

Seen from the front, the descriptors of a configuration fall into **interfaces**: each begins with a
descriptor of its own, and what comes behind is **attached** to it, up to the next interface or
association. To see them no layout is needed, only the descriptors.

* `encode_ofRoles`: whatever the roles, the blocks fit into the room for a configuration;
* `interfaces_append`: a block that begins something new is seen alike behind any other;
* `interfaces_descriptors`: a configuration has the interfaces of its blocks, in order;
* `hidInterfaces_descriptors`: its HID interfaces stand for the HID functions of its layout.
-/

namespace UsbComposite

namespace Descriptor

/-- Whether a descriptor begins an interface or a group of interfaces. -/
def opens : Descriptor → Bool
  | interface .. | association .. => true
  | _ => false

def isEndpoint : Descriptor → Bool
  | endpoint .. => true
  | _ => false

/-- The length that a HID class descriptor names. -/
def reportLength? : Descriptor → Option UInt16
  | hid length => some length
  | _ => none

end Descriptor

/-- An interface: the fields of its descriptor, and the descriptors attached to it. -/
structure Interface where
  number : UInt8
  endpoints : UInt8
  code : ClassCode
  label : UInt8
  attached : List Descriptor
deriving DecidableEq

namespace Interface

/-- Whether an interface is of the HID class. -/
def isHid (interface : Interface) : Bool :=
  interface.code.base == ClassCode.hid.base

/-- How many endpoints are attached. -/
def endpointCount (interface : Interface) : Nat :=
  interface.attached.countP Descriptor.isEndpoint

/-- The lengths that the attached HID class descriptors name. -/
def reportLengths (interface : Interface) : List UInt16 :=
  interface.attached.filterMap Descriptor.reportLength?

end Interface

namespace FunctionKind

/-- Whether a function is a HID interface. -/
def isHid : FunctionKind → Bool
  | sharedHid | rawHid => true
  | serialLink | massStorage => false

/-- How many endpoints a HID interface has. -/
def hidEndpoints : FunctionKind → Nat
  | sharedHid => 1
  | rawHid => 2
  | serialLink | massStorage => 0

/-- The HID functions that the roles call for. -/
def hidOfRoles (roles : RoleSet) : List FunctionKind :=
  [sharedHid, rawHid].filter fun kind => kind.isEnabled roles

end FunctionKind

/-- The length of the report descriptor of a HID function. -/
def ReportLengths.get (lengths : ReportLengths) : FunctionKind → Nat
  | .sharedHid => lengths.shared
  | .rawHid => lengths.raw
  | .serialLink | .massStorage => 0

/-! ### The room for a configuration -/

/-- Whatever numbers they start at, placed functions take as many bytes as their blocks. -/
theorem Layout.totalLength_place (next : UInt8) (kinds : List FunctionKind) :
    (Layout.mk (place next kinds)).totalLength =
      9 + kinds.foldr (fun kind rest => kind.blockLength + rest) 0 := by
  have hblocks : (place next kinds).foldr (fun slot rest => slot.kind.blockLength + rest) 0 =
      kinds.foldr (fun kind rest => kind.blockLength + rest) 0 := by
    induction kinds generalizing next with
    | nil => rfl
    | cons kind rest ih => rw [place, List.foldr_cons, ih, List.foldr_cons]
  rw [totalLength, hblocks]

/-- **The blocks of any roles fit**: those of all four functions would. -/
theorem Layout.totalLength_ofRoles_le (roles : RoleSet) :
    (ofRoles roles).totalLength ≤ Configuration.capacity := by
  have hsum (kinds : List FunctionKind) :
      kinds.foldr (fun kind rest => kind.blockLength + rest) 0 =
        (kinds.map FunctionKind.blockLength).sum := by
    rw [List.sum_eq_foldr, List.foldr_map]
  have hsublist : ((FunctionKind.all.filter fun kind => kind.isEnabled roles).map
      FunctionKind.blockLength).Sublist (FunctionKind.all.map FunctionKind.blockLength) :=
    List.filter_sublist.map _
  have hle := hsublist.sum_le_sum fun _ _ => Nat.zero_le _
  have hall : 9 + (FunctionKind.all.map FunctionKind.blockLength).sum ≤ Configuration.capacity := by
    decide
  rw [ofRoles, totalLength_place, hsum]
  omega

namespace Configuration

/-- The configuration of any roles is encoded, whatever lengths it names. -/
theorem encode_ofRoles (roles : RoleSet) (lengths : ReportLengths) :
    encode (.ofRoles roles) lengths =
      .ok (Descriptor.encodeAll (descriptors (.ofRoles roles) lengths)) :=
  if_pos (Layout.totalLength_ofRoles_le roles)

/-! ### Interfaces among descriptors -/

/-- The interfaces among descriptors, in order of appearance. -/
def interfaces : List Descriptor → List Interface
  | [] => []
  | .interface number endpoints code label :: rest =>
    ⟨number, endpoints, code, label, rest.takeWhile (!·.opens)⟩ :: interfaces rest
  | _ :: rest => interfaces rest

/-- The HID interfaces among descriptors, in order of appearance. -/
def hidInterfaces (descriptors : List Descriptor) : List Interface :=
  (interfaces descriptors).filter Interface.isHid

/-- Nothing in front is attached to what begins something new. -/
theorem takeWhile_append_of_opens {rest : List Descriptor} (hrest : rest.takeWhile (!·.opens) = [])
    (front : List Descriptor) :
    (front ++ rest).takeWhile (!·.opens) = front.takeWhile (!·.opens) := by
  rw [List.takeWhile_append]
  split
  · rename_i hall
    rw [hrest, List.append_nil, (List.takeWhile_sublist _).eq_of_length hall]
  · rfl

/-- **What begins something new is seen alike behind any descriptors.** -/
theorem interfaces_append {rest : List Descriptor} (hrest : rest.takeWhile (!·.opens) = [])
    (front : List Descriptor) : interfaces (front ++ rest) = interfaces front ++ interfaces rest := by
  induction front with
  | nil => rfl
  | cons descriptor front ih =>
    cases descriptor with
    | interface number endpoints code label =>
      simp only [List.cons_append, interfaces]
      rw [takeWhile_append_of_opens hrest, ih]
    | _ => exact ih

/-- Every block begins something new, and so does a list of blocks. -/
theorem opens_flatMap_block (lengths : ReportLengths) (slots : List Slot) :
    (slots.flatMap (block lengths)).takeWhile (!·.opens) = [] := by
  cases slots with
  | nil => rfl
  | cons slot rest =>
    obtain ⟨kind, first⟩ := slot
    cases kind <;> rfl

theorem interfaces_flatMap_block (lengths : ReportLengths) (slots : List Slot) :
    interfaces (slots.flatMap (block lengths)) =
      slots.flatMap fun slot => interfaces (block lengths slot) := by
  induction slots with
  | nil => rfl
  | cons slot rest ih =>
    rw [List.flatMap_cons, interfaces_append (opens_flatMap_block lengths rest), ih,
      List.flatMap_cons]

/-- **A configuration has the interfaces of its blocks**, in order. -/
theorem interfaces_descriptors (layout : Layout) (lengths : ReportLengths) :
    interfaces (descriptors layout lengths) =
      layout.slots.flatMap fun slot => interfaces (block lengths slot) :=
  interfaces_flatMap_block lengths layout.slots

/-! ### HID interfaces -/

/-- An interface stands for a HID function: it has the endpoints of that function, and one HID class
descriptor, which names the length of the function's report descriptor. -/
structure StandsFor (lengths : ReportLengths) (interface : Interface) (kind : FunctionKind) :
    Prop where
  endpoints : interface.endpoints.toNat = kind.hidEndpoints
  attached : interface.endpointCount = kind.hidEndpoints
  reportLengths : interface.reportLengths = [UInt16.ofNat (lengths.get kind)]

/-- Whatever number it starts at, a HID function has one interface, which is of the HID class and
stands for it; another function has no such interface. -/
theorem hidInterfaces_block (lengths : ReportLengths) (slot : Slot) :
    List.Forall₂ (StandsFor lengths) (hidInterfaces (block lengths slot))
      (if slot.kind.isHid then [slot.kind] else []) := by
  obtain ⟨kind, first⟩ := slot
  cases kind with
  | serialLink => exact .nil
  | sharedHid => exact .cons ⟨rfl, rfl, rfl⟩ .nil
  | massStorage => exact .nil
  | rawHid => exact .cons ⟨rfl, rfl, rfl⟩ .nil

/-- The HID interfaces of placed functions stand for the HID functions among them, in order. -/
theorem hidInterfaces_place (lengths : ReportLengths) (next : UInt8) (kinds : List FunctionKind) :
    List.Forall₂ (StandsFor lengths)
      (hidInterfaces ((Layout.place next kinds).flatMap (block lengths)))
      (kinds.filter FunctionKind.isHid) := by
  induction kinds generalizing next with
  | nil => exact .nil
  | cons kind rest ih =>
    have hfirst := hidInterfaces_block lengths ⟨kind, next⟩
    have hrest := ih (next + kind.interfaceCount)
    simp only [hidInterfaces] at hfirst hrest ⊢
    rw [Layout.place, List.flatMap_cons, interfaces_append (opens_flatMap_block _ _),
      List.filter_append]
    have hkinds : (kind :: rest).filter FunctionKind.isHid =
        (if kind.isHid then [kind] else []) ++ rest.filter FunctionKind.isHid := by
      rw [List.filter_cons]
      split <;> rfl
    rw [hkinds]
    exact List.rel_append hfirst hrest

/-- The HID functions of a layout are those that its roles call for. -/
theorem filter_isHid_all (roles : RoleSet) :
    (FunctionKind.all.filter fun kind => kind.isEnabled roles).filter FunctionKind.isHid =
      FunctionKind.hidOfRoles roles := by
  rw [List.filter_filter]
  simp only [Bool.and_comm]
  rw [← List.filter_filter]
  rfl

/-- **The HID interfaces of a configuration** stand for the HID functions that the roles call for,
in order. -/
theorem hidInterfaces_descriptors (roles : RoleSet) (lengths : ReportLengths) :
    List.Forall₂ (StandsFor lengths) (hidInterfaces (descriptors (.ofRoles roles) lengths))
      (FunctionKind.hidOfRoles roles) := by
  rw [← filter_isHid_all]
  exact hidInterfaces_place lengths 0 _

end Configuration

end UsbComposite
