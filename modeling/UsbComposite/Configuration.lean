import UsbComposite.Configuration.Layout
import UsbComposite.Fault

/-!
# Configurations

A **configuration** is a header followed by the blocks of the functions of a layout, in order. The
lengths of the two report descriptors are named in it, reduced to sixteen bits; the length for a
function that is not in the layout has no influence.

`read?` goes the other way. It knows nothing of the layout and finds the functions, the numbers of
their interfaces and the report lengths in the bytes alone.
-/

namespace UsbComposite

/-- The lengths of the report descriptors that a configuration names. -/
structure ReportLengths where
  shared : Nat
  raw : Nat
deriving DecidableEq

namespace Configuration

/-- The room for a configuration in bytes. -/
def capacity : Nat := 256

/-- The block of a function. -/
def block (lengths : ReportLengths) (slot : Slot) : List Descriptor :=
  match slot.kind with
  | .serialLink => Block.serialLink slot.first
  | .sharedHid => Block.sharedHid slot.first (UInt16.ofNat lengths.shared)
  | .massStorage => Block.massStorage slot.first
  | .rawHid => Block.rawHid slot.first (UInt16.ofNat lengths.raw)

/-- The descriptors of a configuration. -/
def descriptors (layout : Layout) (lengths : ReportLengths) : List Descriptor :=
  .configuration (UInt16.ofNat layout.totalLength) layout.interfaceCount ::
    layout.slots.flatMap (block lengths)

/-- The bytes of a configuration, an overflow if they do not fit. -/
def encode (layout : Layout) (lengths : ReportLengths) : Except Fault (List UInt8) :=
  if layout.totalLength ≤ capacity then
    .ok (Descriptor.encodeAll (descriptors layout lengths))
  else .error .descriptorOverflow

@[simp] theorem length_block (lengths : ReportLengths) (slot : Slot) :
    (Descriptor.encodeAll (block lengths slot)).length = slot.kind.blockLength := by
  obtain ⟨kind, first⟩ := slot
  cases kind <;> rfl

/-- The bytes are as many as the layout says. -/
theorem length_encodeAll_descriptors (layout : Layout) (lengths : ReportLengths) :
    (Descriptor.encodeAll (descriptors layout lengths)).length = layout.totalLength := by
  obtain ⟨slots⟩ := layout
  have hblocks : (Descriptor.encodeAll (slots.flatMap (block lengths))).length =
      slots.foldr (fun slot rest => slot.kind.blockLength + rest) 0 := by
    induction slots with
    | nil => rfl
    | cons slot rest ih =>
      simp only [Descriptor.encodeAll] at ih
      simp only [Descriptor.encodeAll, List.flatMap_cons, List.flatMap_append, List.length_append,
        ih, List.foldr_cons]
      have := length_block lengths slot
      simp only [Descriptor.encodeAll] at this
      rw [this]
  simp only [Descriptor.encodeAll] at hblocks
  simp only [descriptors, Descriptor.encodeAll, List.flatMap_cons, List.length_append, hblocks,
    Layout.totalLength]
  rfl

/-! ### Reading -/

/-- A function found in a configuration: its slot, and the report length that its HID descriptor
names, if it has one. -/
structure Found where
  slot : Slot
  reportLength : Option UInt16
deriving DecidableEq

/-- The functions that descriptors tell of. A serial link is known by its association, the HID
interfaces by their number of endpoints. -/
def functions : List Descriptor → List Found
  | [] => []
  | .association first _ _ :: rest => ⟨⟨.serialLink, first⟩, none⟩ :: functions rest
  | .interface first endpoints code _ :: .hid length :: rest =>
    if code = .hid then
      ⟨⟨if endpoints = 1 then .sharedHid else .rawHid, first⟩, some length⟩ :: functions rest
    else functions (.hid length :: rest)
  | .interface first _ code _ :: rest =>
    if code = .storage then ⟨⟨.massStorage, first⟩, none⟩ :: functions rest else functions rest
  | _ :: rest => functions rest

/-- What the bytes of a configuration tell. -/
structure Contents where
  totalLength : UInt16
  interfaceCount : UInt8
  functions : List Found
deriving DecidableEq

/-- What a list of bytes tells, none if it is not a header followed by descriptors. -/
def read? (bytes : List UInt8) : Option Contents :=
  match Descriptor.readAll? bytes with
  | some (.configuration totalLength interfaceCount :: rest) =>
    some ⟨totalLength, interfaceCount, functions rest⟩
  | _ => none

end Configuration

end UsbComposite
