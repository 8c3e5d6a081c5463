import UsbComposite.Proofs.Configuration.WellFormed

/-!
# Reading a configuration undoes building it

A reader that knows no layout finds in the bytes of a configuration the functions, where they start,
and the report lengths of the HID functions. A length was reduced to sixteen bits, so this much of it
is found and no more.

* `functions_block_append`: a block is read as its function, and reading goes on behind it;
* `read?_encodeAll`: so the bytes tell the slots of the layout and the lengths;
* `encodeAll_descriptors_inj`: and configurations differ exactly if these do;
* `decoding_undoes_encoding`: all of this for the configuration of any roles.
-/

namespace UsbComposite.Configuration

/-- What there is to find of a function. -/
def found (lengths : ReportLengths) (slot : Slot) : Found where
  slot := slot
  reportLength :=
    if slot.kind.isHid then some (UInt16.ofNat (lengths.get slot.kind)) else none

/-- **A block is read as its function**, whatever is behind it. -/
theorem functions_block_append (lengths : ReportLengths) (slot : Slot) (rest : List Descriptor) :
    functions (block lengths slot ++ rest) = found lengths slot :: functions rest := by
  obtain ⟨kind, first⟩ := slot
  cases kind <;> rfl

theorem functions_flatMap_block (lengths : ReportLengths) (slots : List Slot) :
    functions (slots.flatMap (block lengths)) = slots.map (found lengths) := by
  induction slots with
  | nil => rfl
  | cons slot rest ih => rw [List.flatMap_cons, functions_block_append, ih, List.map_cons]

/-- **The bytes tell the layout and the lengths**, whatever the layout. -/
theorem read?_encodeAll (layout : Layout) (lengths : ReportLengths) :
    read? (Descriptor.encodeAll (descriptors layout lengths)) =
      some ⟨UInt16.ofNat layout.totalLength, layout.interfaceCount,
        layout.slots.map (found lengths)⟩ := by
  rw [read?, Descriptor.readAll?_encodeAll, ← functions_flatMap_block]
  rfl

/-! ### When configurations are equal -/

/-- Two tables of lengths agree on a function modulo the width of a length. -/
def Agree (lengths lengths' : ReportLengths) (kind : FunctionKind) : Prop :=
  lengths.get kind % 2 ^ 16 = lengths'.get kind % 2 ^ 16

theorem agree_iff {lengths lengths' : ReportLengths} {kind : FunctionKind} :
    Agree lengths lengths' kind ↔
      UInt16.ofNat (lengths.get kind) = UInt16.ofNat (lengths'.get kind) := by
  rw [← UInt16.toNat_inj, UInt16.toNat_ofNat', UInt16.toNat_ofNat']
  rfl

theorem found_eq_iff {lengths lengths' : ReportLengths} {slot : Slot} :
    found lengths slot = found lengths' slot ↔
      (slot.kind.isHid = true → Agree lengths lengths' slot.kind) := by
  rw [found, found, Found.mk.injEq, agree_iff]
  by_cases hhid : slot.kind.isHid = true
  · simp only [hhid, if_true, Option.some.injEq, true_and, forall_const]
  · simp only [hhid, if_false, true_and, false_implies, Bool.false_eq_true]

/-- A block says no more than what is found of it. -/
theorem block_eq_of_found_eq {lengths lengths' : ReportLengths} {slot : Slot}
    (h : found lengths slot = found lengths' slot) : block lengths slot = block lengths' slot := by
  obtain ⟨kind, first⟩ := slot
  cases kind with
  | serialLink => rfl
  | massStorage => rfl
  | sharedHid =>
    have hlength := agree_iff.mp (found_eq_iff.mp h rfl)
    exact congrArg (Block.sharedHid first) hlength
  | rawHid =>
    have hlength := agree_iff.mp (found_eq_iff.mp h rfl)
    exact congrArg (Block.rawHid first) hlength

/-- **Configurations are equal exactly if the layouts are and the lengths of their HID functions
agree.** -/
theorem encodeAll_descriptors_inj {layout layout' : Layout} {lengths lengths' : ReportLengths} :
    Descriptor.encodeAll (descriptors layout lengths) =
        Descriptor.encodeAll (descriptors layout' lengths') ↔
      layout = layout' ∧
        ∀ slot ∈ layout.slots, slot.kind.isHid = true → Agree lengths lengths' slot.kind := by
  constructor
  · intro hbytes
    have hread := congrArg read? hbytes
    rw [read?_encodeAll, read?_encodeAll, Option.some.injEq, Contents.mk.injEq] at hread
    have hfound := hread.2.2
    have hslots := congrArg (List.map Found.slot) hfound
    rw [List.map_map, List.map_map] at hslots
    have hslot : ∀ lengths, Found.slot ∘ found lengths = id := fun _ => rfl
    rw [hslot, hslot, List.map_id, List.map_id] at hslots
    have hlayout : layout = layout' := congrArg Layout.mk hslots
    subst hlayout
    refine ⟨rfl, fun slot hslot => ?_⟩
    exact found_eq_iff.mp (List.map_inj_left.mp hfound slot hslot)
  · rintro ⟨rfl, hagree⟩
    have hblocks : layout.slots.flatMap (block lengths) =
        layout.slots.flatMap (block lengths') := by
      apply List.flatMap_congr
      intro slot hslot
      exact block_eq_of_found_eq (found_eq_iff.mpr (hagree slot hslot))
    rw [descriptors, descriptors, hblocks]

/-! ### The configuration of a role set -/

/-- The HID functions that the roles call for are those with a slot in the layout. -/
theorem mem_hidOfRoles_iff {roles : RoleSet} {kind : FunctionKind} :
    kind ∈ FunctionKind.hidOfRoles roles ↔
      ∃ slot ∈ (Layout.ofRoles roles).slots, slot.kind = kind ∧ kind.isHid = true := by
  have hkinds : (Layout.ofRoles roles).slots.map Slot.kind = FunctionKind.ofRoles roles :=
    Layout.map_kind_place 0 _
  rw [← filter_isHid_all, List.mem_filter]
  show kind ∈ FunctionKind.ofRoles roles ∧ _ ↔ _
  rw [← hkinds, List.mem_map]
  constructor
  · rintro ⟨⟨slot, hslot, hkind⟩, hhid⟩
    exact ⟨slot, hslot, hkind, hhid⟩
  · rintro ⟨slot, hslot, hkind, hhid⟩
    exact ⟨⟨slot, hslot, hkind⟩, hhid⟩

theorem encode_ofRoles_eq_iff {roles roles' : RoleSet} {lengths lengths' : ReportLengths} :
    encode (.ofRoles roles) lengths = encode (.ofRoles roles') lengths' ↔
      Layout.ofRoles roles = Layout.ofRoles roles' ∧
        ∀ kind ∈ FunctionKind.hidOfRoles roles, Agree lengths lengths' kind := by
  have hslots : (∀ kind ∈ FunctionKind.hidOfRoles roles, Agree lengths lengths' kind) ↔
      ∀ slot ∈ (Layout.ofRoles roles).slots, slot.kind.isHid = true →
        Agree lengths lengths' slot.kind := by
    constructor
    · intro hagree slot hslot hhid
      exact hagree slot.kind (mem_hidOfRoles_iff.mpr ⟨slot, hslot, rfl, hhid⟩)
    · intro hagree kind hkind
      obtain ⟨slot, hslot, rfl, hhid⟩ := mem_hidOfRoles_iff.mp hkind
      exact hagree slot hslot hhid
  rw [encode_ofRoles, encode_ofRoles, Except.ok.injEq, encodeAll_descriptors_inj, hslots]

/-- The header names the length of the configuration, which fits sixteen bits. -/
theorem toNat_totalLength (roles : RoleSet) :
    (UInt16.ofNat (Layout.ofRoles roles).totalLength).toNat =
      (Layout.ofRoles roles).totalLength := by
  have hle : (Layout.ofRoles roles).totalLength ≤ 256 := Layout.totalLength_ofRoles_le roles
  rw [UInt16.toNat_ofNat']
  exact Nat.mod_eq_of_lt (Nat.lt_of_le_of_lt hle (by decide))

/-- **Reading undoes building.** For any roles and any two lengths the configuration is built. Walked
from one length byte to the next, it ends where its bytes end; its header names their number, which
is that of the layout, and the number of interfaces; and its descriptors fit together. From the bytes
alone the slots of the layout are found, in order, and the lengths of the HID functions as far as
sixteen bits tell them. So two configurations are equal exactly if the layouts are and these lengths
agree, and the length for a function that is not called for has no influence. -/
theorem decoding_undoes_encoding (roles : RoleSet) (lengths : ReportLengths) :
    (∃ bytes total count rest,
      encode (.ofRoles roles) lengths = .ok bytes ∧
      Record.walk? bytes =
        some ((Descriptor.configuration total count :: rest).map Descriptor.record) ∧
      total.toNat = bytes.length ∧ bytes.length = (Layout.ofRoles roles).totalLength ∧
      count.toNat = (interfaces rest).length ∧
      WellFormed (.configuration total count :: rest) ∧
      read? bytes = some ⟨total, count, (Layout.ofRoles roles).slots.map (found lengths)⟩) ∧
    (∀ roles' lengths', encode (.ofRoles roles) lengths = encode (.ofRoles roles') lengths' ↔
      Layout.ofRoles roles = Layout.ofRoles roles' ∧
        ∀ kind ∈ FunctionKind.hidOfRoles roles, Agree lengths lengths' kind) ∧
    ∀ lengths' : ReportLengths,
      (∀ kind ∈ FunctionKind.hidOfRoles roles, lengths.get kind = lengths'.get kind) →
        encode (.ofRoles roles) lengths = encode (.ofRoles roles) lengths' := by
  refine ⟨?_, fun _ _ => encode_ofRoles_eq_iff, ?_⟩
  · have hlength := length_encodeAll_descriptors (.ofRoles roles) lengths
    refine ⟨_, _, _, (Layout.ofRoles roles).slots.flatMap (block lengths),
      encode_ofRoles roles lengths, ?_, ?_, hlength, interfaceCount_ofRoles roles lengths,
      wellFormed_descriptors roles lengths, read?_encodeAll _ lengths⟩
    · rw [Descriptor.encodeAll_eq, Record.walk?_encodeAll]
      rfl
    · rw [hlength, toNat_totalLength]
  · intro lengths' hsame
    refine encode_ofRoles_eq_iff.mpr ⟨rfl, fun kind hkind => ?_⟩
    rw [Agree, hsame kind hkind]

/-- For a mouse alone, the length of a raw report that there is not has no influence; and the length
of the shared report descriptor is the same if it is longer by 65536. -/
theorem decoding_undoes_encoding_mouse :
    let roles := RoleSet.ofList [.mouse]
    (∀ kind ∈ FunctionKind.hidOfRoles roles,
      (ReportLengths.mk 76 0).get kind = (ReportLengths.mk 76 33).get kind) ∧
    encode (.ofRoles roles) ⟨76, 0⟩ = encode (.ofRoles roles) ⟨76, 33⟩ ∧
    encode (.ofRoles roles) ⟨76, 0⟩ = encode (.ofRoles roles) ⟨65612, 33⟩ ∧
    encode (.ofRoles roles) ⟨76, 0⟩ ≠ encode (.ofRoles roles) ⟨77, 0⟩ := by
  intro roles
  have hsame : ∀ kind ∈ FunctionKind.hidOfRoles roles,
      (ReportLengths.mk 76 0).get kind = (ReportLengths.mk 76 33).get kind := by decide
  have hagree : ∀ kind ∈ FunctionKind.hidOfRoles roles, Agree ⟨76, 0⟩ ⟨65612, 33⟩ kind := by
    have hkinds : FunctionKind.hidOfRoles roles = [.sharedHid] := by decide
    rw [hkinds]
    intro kind hkind
    obtain rfl := List.mem_singleton.mp hkind
    rfl
  obtain ⟨-, hiff, hunused⟩ := decoding_undoes_encoding roles ⟨76, 0⟩
  refine ⟨hsame, hunused ⟨76, 33⟩ hsame, (hiff roles ⟨65612, 33⟩).mpr ⟨rfl, hagree⟩, ?_⟩
  intro hequal
  have hlength := ((hiff roles ⟨77, 0⟩).mp hequal).2 .sharedHid (by decide)
  simp [Agree, ReportLengths.get] at hlength

end UsbComposite.Configuration
