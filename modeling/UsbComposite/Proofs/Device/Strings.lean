import UsbComposite.Proofs.Device.SerialNumber

/-!
# The strings of a device can be read

A string descriptor is cut after its nineteenth unit. The host can read what is left unless the cut
falls inside a character, of which it then gets the high half as a last unit. The languages, the label
of the serial link and generated serial numbers are short enough never to be cut, so this happens
only to the strings of an identity.

* `stringText_cases`: what a device shows for a slot;
* `strings_readable_unless_cut`: all of it together;
* `pair_cut_in_two`: an identity with a string that is cut inside a character.
-/

namespace UsbComposite

open Utf16

/-- The strings that an identity chooses. -/
def Identity.strings (identity : Identity) : List String :=
  [identity.manufacturer, identity.productName, identity.serial]

/-- The language list is one unit, which is no surrogate. -/
theorem StringDescriptor.wellFormed_languages : WellFormed languages.units := by
  rw [← isSome_decode?_iff]
  decide

/-- A text that is not cut at all is not cut inside a character. -/
theorem StringDescriptor.wellFormed_ofText_of_le {text : String}
    (h : (encode text.toList).length ≤ 19) : WellFormed (ofText text).units :=
  (wellFormed_ofText_iff text).mpr (not_cutsInside_of_le h)

namespace Device

/-- **What a device shows for a slot is well-formed, or a string of its identity.** -/
theorem stringText_cases {device : Device} (h : device.serial.OfBoard) (board : BoardId)
    (slot : StringSlot) :
    WellFormed (device.stringText board slot).units ∨
      ∃ text ∈ device.identity.strings, device.stringText board slot = .ofText text := by
  cases slot with
  | language => exact .inl StringDescriptor.wellFormed_languages
  | manufacturer => exact .inr ⟨device.identity.manufacturer, by simp [Identity.strings], rfl⟩
  | product => exact .inr ⟨device.identity.productName, by simp [Identity.strings], rfl⟩
  | serial =>
    rw [stringText]
    split
    · obtain ⟨shown, hshown⟩ := h.exists_text board
      left
      rw [hshown]
      apply StringDescriptor.wellFormed_ofText_of_le
      rw [BoardId.length_encode_text]
      decide
    · exact .inr ⟨device.identity.serial, by simp [Identity.strings], rfl⟩
  | serialLinkLabel => exact .inl (StringDescriptor.wellFormed_ofText_of_le (by decide))

/-- A string that a device shows is that of a slot. -/
theorem exists_slot_of_reply {device : Device} {board : BoardId} {index : UInt8}
    {language : UInt16} {descriptor : StringDescriptor}
    (h : (device.respond board (.string index language)).reply = .string (some descriptor)) :
    ∃ slot, descriptor = device.stringText board slot := by
  rw [respond] at h
  cases hslot : StringSlot.ofIndex? index with
  | none =>
    rw [hslot] at h
    cases h
  | some slot =>
    rw [hslot] at h
    cases h
    exact ⟨slot, rfl⟩

/-- **The strings of a device can be read, unless they are cut inside a character.** The descriptor of
a text that is not cut inside a character is well-formed and read as the front of the text. Of any
other text, the descriptor holds the units of the front and the high half of the next character, and
cannot be read. A string that a device shows, whatever its roles and whatever it lived through, can be
read unless it is the descriptor of a string of its identity that is cut inside a character. -/
theorem strings_readable_unless_cut :
    (∀ text : String,
      let payload := (StringDescriptor.ofText text).units
      (¬ CutsInside 19 text.toList →
        WellFormed payload ∧ ∃ kept, kept <+: text.toList ∧ decode? payload = some kept) ∧
      (CutsInside 19 text.toList →
        decode? payload = none ∧
          ∃ kept high low rest, text.toList = kept ++ ofPair high low :: rest ∧
            isHigh high = true ∧ isLow low = true ∧ payload = encode kept ++ [high])) ∧
    ∀ (roles : RoleSet) (medium : Medium) (acts : List Act) (board : BoardId) (index : UInt8)
      (language : UInt16) (descriptor : StringDescriptor),
      let device := (make roles medium).live acts
      (device.respond board (.string index language)).reply = .string (some descriptor) →
        (decode? descriptor.units).isSome = true ∨
          ∃ text ∈ device.identity.strings,
            CutsInside 19 text.toList ∧ descriptor = .ofText text := by
  constructor
  · intro text payload
    constructor
    · intro hbetween
      obtain ⟨kept, hprefix, htake⟩ := take_encode_of_not_cutsInside hbetween
      exact ⟨(StringDescriptor.wellFormed_ofText_iff text).mpr hbetween, kept, hprefix,
        decode?_eq_some_iff.mpr htake⟩
    · intro hinside
      exact ⟨(decode?_take_eq_none_iff 19 text.toList).mpr hinside,
        take_encode_of_cutsInside hinside⟩
  · intro roles medium acts board index language descriptor device hreply
    have hserial : device.serial.OfBoard := ofBoard_live (ofBoard_make roles medium) acts
    obtain ⟨slot, rfl⟩ := exists_slot_of_reply hreply
    obtain hformed | ⟨text, htext, hshown⟩ := stringText_cases hserial board slot
    · exact .inl ((isSome_decode?_iff _).mpr hformed)
    · by_cases hinside : CutsInside 19 text.toList
      · exact .inr ⟨text, htext, hinside, hshown⟩
      · left
        rw [hshown, isSome_decode?_iff, StringDescriptor.wellFormed_ofText_iff]
        exact hinside

/-- A maker whose name is whole and a product whose name is cut inside its last character: the first
is read as its front, and what the device shows of the second can only be a name that is cut. -/
theorem strings_readable_whole_and_cut :
    let whole := "Pico"
    let cut := String.ofList (List.replicate 18 'A' ++ [Char.ofNat 0x1F600])
    let device := (make (.ofList [.mouse]) .absent).live
      [.replaceIdentity { manufacturer := whole, productName := cut }]
    (∃ kept, kept <+: whole.toList ∧ decode? (StringDescriptor.ofText whole).units = some kept) ∧
      decode? (StringDescriptor.ofText cut).units = none ∧
      ∃ text ∈ device.identity.strings,
        CutsInside 19 text.toList ∧ StringDescriptor.ofText cut = .ofText text := by
  intro whole cut device
  have hwhole : ¬ CutsInside 19 whole.toList := by decide
  have hcut : CutsInside 19 cut.toList := by
    rw [String.toList_ofList]
    decide
  have hnone := ((strings_readable_unless_cut.1 cut).2 hcut).1
  refine ⟨((strings_readable_unless_cut.1 whole).1 hwhole).2, hnone, ?_⟩
  obtain hread | hshown := strings_readable_unless_cut.2 (.ofList [.mouse]) .absent
    [.replaceIdentity { manufacturer := whole, productName := cut }] #v[0, 0, 0, 0, 0, 0, 0, 0] 2
    0x0409 (.ofText cut) rfl
  · rw [hnone] at hread
    cases hread
  · exact hshown

/-- Eighteen letters and a character that takes a pair: the descriptor ends with the high half of the
pair, is not well-formed and cannot be read. A device whose product has this name shows it. -/
theorem pair_cut_in_two :
    let text := String.ofList (List.replicate 18 'A' ++ [Char.ofNat 0x1F600])
    let descriptor := StringDescriptor.ofText text
    let device := ((make .empty .absent).act (.replaceIdentity { productName := text }))
    (device.respond #v[0, 0, 0, 0, 0, 0, 0, 0] (.string 2 0x0409)).reply =
        .string (some descriptor) ∧
      descriptor.units = List.replicate 18 65 ++ [0xD83D] ∧
      ¬ WellFormed descriptor.units ∧ decode? descriptor.units = none := by
  intro text descriptor device
  have hunits : descriptor.units = List.replicate 18 65 ++ [0xD83D] := by
    show (encode text.toList).take 19 = _
    rw [String.toList_ofList]
    decide
  have hnone : decode? descriptor.units = none := by
    rw [hunits]
    decide
  refine ⟨rfl, hunits, ?_, hnone⟩
  rw [← isSome_decode?_iff, hnone]
  decide

end Device

end UsbComposite
