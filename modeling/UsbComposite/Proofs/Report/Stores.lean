import UsbComposite.Proofs.Report.Frames

/-!
# What framing does to a buffer

A report writes its payload by a few **stores**, each of some bytes at a fixed place of the caller's
buffer. A store that is not inside the buffer would be a fault of the program, so the length of the
buffer is checked in front of the first one.

* `Store.allInto?_consecutive`: stores side by side write their bytes as one;
* `InputReport.allInto?_stores`: the stores of a report write its payload, and they go out of range
  exactly in buffers that are shorter;
* `InputReport.writeStores?_eq`, `InputReport.frameStores?_eq`: so no store ever goes out of range;
* `InputReport.frame_touches_front`: what is written, and what is left as it was, in every buffer.
-/

namespace UsbComposite

/-! ### Stores -/

/-- Bytes to be written at a place of a buffer. -/
structure Store where
  place : Nat
  bytes : List UInt8

namespace Store

/-- The buffer after a store, none if the store is not inside the buffer. -/
def into? (store : Store) (buffer : List UInt8) : Option (List UInt8) :=
  if store.place + store.bytes.length ≤ buffer.length then
    some (buffer.take store.place ++ store.bytes ++ buffer.drop (store.place + store.bytes.length))
  else none

/-- The buffer after stores one after the other, none if one of them is not inside the buffer. -/
def allInto? : List Store → List UInt8 → Option (List UInt8)
  | [], buffer => some buffer
  | store :: rest, buffer => (store.into? buffer).bind (allInto? rest)

/-- Stores of parts side by side, from a place on. -/
def consecutive (place : Nat) : List (List UInt8) → List Store
  | [] => []
  | part :: rest => ⟨place, part⟩ :: consecutive (place + part.length) rest

/-- A store does not change the length of a buffer. -/
theorem length_of_into? {store : Store} {buffer after : List UInt8}
    (h : store.into? buffer = some after) : after.length = buffer.length := by
  unfold into? at h
  split at h
  · cases h
    rw [List.length_append, List.length_append, List.length_take, List.length_drop]
    omega
  · cases h

/-- **Stores side by side write their bytes as one**, if there is room for all of them. -/
theorem allInto?_consecutive {place : Nat} {parts : List (List UInt8)} {buffer : List UInt8}
    (room : place + parts.flatten.length ≤ buffer.length) :
    allInto? (consecutive place parts) buffer =
      some (buffer.take place ++ parts.flatten ++ buffer.drop (place + parts.flatten.length)) := by
  induction parts generalizing place buffer with
  | nil => simp [allInto?, consecutive]
  | cons part rest ih =>
    rw [List.flatten_cons, List.length_append] at room
    have hfirst : into? ⟨place, part⟩ buffer =
        some (buffer.take place ++ part ++ buffer.drop (place + part.length)) :=
      if_pos (by show place + part.length ≤ buffer.length; omega)
    have hfront : (buffer.take place ++ part).length = place + part.length := by
      rw [List.length_append, List.length_take]
      omega
    rw [consecutive, allInto?, hfirst, Option.bind_some,
      ih (by rw [length_of_into? hfirst]; omega),
      List.take_left' hfront, ← List.drop_drop, List.drop_left' hfront, List.drop_drop]
    simp only [List.flatten_cons, List.length_append, List.append_assoc, Nat.add_assoc]

/-- Without room for all of them, stores side by side go out of range. -/
theorem allInto?_consecutive_of_lt {place : Nat} {parts : List (List UInt8)} {buffer : List UInt8}
    (start : place ≤ buffer.length) (short : buffer.length < place + parts.flatten.length) :
    allInto? (consecutive place parts) buffer = none := by
  induction parts generalizing place buffer with
  | nil => exact absurd short (Nat.not_lt.mpr start)
  | cons part rest ih =>
    rw [List.flatten_cons, List.length_append] at short
    rw [consecutive, allInto?]
    cases hfirst : into? ⟨place, part⟩ buffer with
    | none => exact Option.bind_none _
    | some after =>
      have hpart : place + part.length ≤ buffer.length := by
        by_contra hover
        cases (if_neg hover).symm.trans hfirst
      have hlength := length_of_into? hfirst
      exact ih (by omega) (by omega)

end Store

/-! ### The stores of the reports -/

/-- A keyboard report stores modifier, reserved byte and key codes. -/
def KeyboardReport.stores (report : KeyboardReport) : List Store :=
  [⟨0, [report.modifier]⟩, ⟨1, [report.reserved]⟩, ⟨2, report.keycodes.toList⟩]

/-- A mouse report stores byte by byte. -/
def MouseReport.stores (report : MouseReport) : List Store :=
  [⟨0, [report.buttons]⟩, ⟨1, [report.x.toUInt8]⟩, ⟨2, [report.y.toUInt8]⟩,
    ⟨3, [report.wheel.toUInt8]⟩, ⟨4, [report.pan.toUInt8]⟩]

/-- A gamepad report stores its axes and hat switch byte by byte, and the buttons as one. -/
def GamepadReport.stores (report : GamepadReport) : List Store :=
  [⟨0, [report.x.toUInt8]⟩, ⟨1, [report.y.toUInt8]⟩, ⟨2, [report.z.toUInt8]⟩,
    ⟨3, [report.rz.toUInt8]⟩, ⟨4, [report.rx.toUInt8]⟩, ⟨5, [report.ry.toUInt8]⟩,
    ⟨6, [report.hat.code]⟩, ⟨7, LittleEndian.ofUInt32 report.buttons⟩]

/-- A consumer control report stores its usage. -/
def ConsumerReport.stores (report : ConsumerReport) : List Store :=
  [⟨0, LittleEndian.ofUInt16 report.usage⟩]

namespace InputReport

/-- The stores by which a report writes its payload. -/
def stores : InputReport → List Store
  | keyboard report => report.stores
  | mouse report => report.stores
  | gamepad report => report.stores
  | consumer report => report.stores

/-- The stores of a report are its payload in parts side by side. -/
theorem exists_consecutive_stores (report : InputReport) :
    ∃ parts, report.stores = Store.consecutive 0 parts ∧ parts.flatten = report.payload := by
  cases report with
  | keyboard report =>
    exact ⟨[[report.modifier], [report.reserved], report.keycodes.toList], rfl,
      by simp [payload, KeyboardReport.payload]⟩
  | mouse report =>
    exact ⟨[[report.buttons], [report.x.toUInt8], [report.y.toUInt8], [report.wheel.toUInt8],
      [report.pan.toUInt8]], rfl, rfl⟩
  | gamepad report =>
    exact ⟨[[report.x.toUInt8], [report.y.toUInt8], [report.z.toUInt8], [report.rz.toUInt8],
      [report.rx.toUInt8], [report.ry.toUInt8], [report.hat.code],
      LittleEndian.ofUInt32 report.buttons], rfl, rfl⟩
  | consumer report => exact ⟨[LittleEndian.ofUInt16 report.usage], rfl, rfl⟩

/-- **The stores of a report write its payload** to the front of a buffer, and they go out of range
exactly in buffers that are shorter. -/
theorem allInto?_stores (report : InputReport) (buffer : List UInt8) :
    Store.allInto? report.stores buffer =
      if report.size ≤ buffer.length then some (report.payload ++ buffer.drop report.size)
      else none := by
  obtain ⟨parts, hstores, hparts⟩ := exists_consecutive_stores report
  have hlength : parts.flatten.length = report.size := by rw [hparts, length_payload]
  rw [hstores]
  split
  · rename_i hroom
    rw [Store.allInto?_consecutive (by rw [hlength]; omega), hlength, hparts, List.take_zero,
      List.nil_append, Nat.zero_add]
  · rename_i hshort
    exact Store.allInto?_consecutive_of_lt (Nat.zero_le _) (by rw [hlength]; omega)

/-- Write the payload store by store, none if a store goes out of range. The length of the buffer is
checked first. -/
def writeStores? (report : InputReport) (buffer : List UInt8) : Option (Nat × List UInt8) :=
  if buffer.length < report.size then some (0, buffer)
  else (Store.allInto? report.stores buffer).map fun after => (report.size, after)

/-- Write the frame of a report, none if a store goes out of range. -/
def frameStores? (report : InputReport) (numbers : ReportNumbers) (buffer : List UInt8) :
    Option (Option Nat × List UInt8) :=
  match numbers.get? report.role, buffer with
  | none, _ => some (none, buffer)
  | some _, [] => some (none, [])
  | some number, _ :: room =>
    (report.writeStores? room).map fun written =>
      (if written.1 = 0 then none else some (written.1 + 1), number :: written.2)

/-- **No store of a payload goes out of range.** -/
theorem writeStores?_eq (report : InputReport) (buffer : List UInt8) :
    report.writeStores? buffer = some (report.writeTo buffer) := by
  rw [writeStores?]
  split
  · rename_i hshort
    rw [writeTo_of_lt hshort]
  · rename_i hroom
    rw [allInto?_stores, if_pos (Nat.not_lt.mp hroom), writeTo_of_le (Nat.not_lt.mp hroom)]
    rfl

/-- **No store of a frame goes out of range.** -/
theorem frameStores?_eq (report : InputReport) (numbers : ReportNumbers) (buffer : List UInt8) :
    report.frameStores? numbers buffer = some (report.frameInto numbers buffer) := by
  cases hnumber : numbers.get? report.role with
  | none => simp only [frameStores?, frameInto, hnumber]
  | some number =>
    cases buffer with
    | nil => simp only [frameStores?, frameInto, hnumber]
    | cons byte room =>
      simp only [frameStores?, frameInto, hnumber, writeStores?_eq, Option.map_some]
      obtain ⟨count, after⟩ := report.writeTo room
      cases count <;> rfl

/-! ### What is touched -/

/-- Without a number or without a buffer nothing is touched. -/
theorem frameInto_of_none {report : InputReport} {numbers : ReportNumbers} {buffer : List UInt8}
    (h : numbers.get? report.role = none ∨ buffer = []) :
    report.frameInto numbers buffer = (none, buffer) := by
  rcases h with hnone | rfl
  · simp only [frameInto, hnone]
  · cases hnumber : numbers.get? report.role <;> simp only [frameInto, hnumber]

/-- In a buffer that is too short for the payload the number is written all the same. -/
theorem frameInto_of_lt {report : InputReport} {numbers : ReportNumbers} {number byte : UInt8}
    {room : List UInt8} (hnumber : numbers.get? report.role = some number)
    (short : room.length < report.size) :
    report.frameInto numbers (byte :: room) = (none, number :: room) := by
  simp only [frameInto, hnumber, writeTo_of_lt short]

/-- **What writing and framing touch.** In every buffer, under every table of numbers:

* a frame is written if the role has a number and the buffer has room for number and payload; it is
  the number and the payload in front, and what is behind stays;
* without a number, or in an empty buffer, nothing is touched;
* in a buffer too short for the payload the number is written, and nothing else is touched;
* a payload is written if there is room for it, and what is behind stays; otherwise nothing is touched;
* no store goes out of range. -/
theorem frame_touches_front (numbers : ReportNumbers) (report : InputReport)
    (buffer : List UInt8) :
    ((report.frameInto numbers buffer).1 = some (1 + report.size) ↔
      (∃ number, numbers.get? report.role = some number) ∧ 1 + report.size ≤ buffer.length) ∧
    (∀ number, numbers.get? report.role = some number → 1 + report.size ≤ buffer.length →
      (report.frameInto numbers buffer).2.take (1 + report.size) = number :: report.payload ∧
      (report.frameInto numbers buffer).2.drop (1 + report.size) =
        buffer.drop (1 + report.size)) ∧
    (numbers.get? report.role = none ∨ buffer = [] →
      report.frameInto numbers buffer = (none, buffer)) ∧
    (∀ number, numbers.get? report.role = some number → buffer ≠ [] →
      buffer.length < 1 + report.size →
      report.frameInto numbers buffer = (none, buffer.set 0 number)) ∧
    ((report.writeTo buffer).1 = report.size ∧
      (report.writeTo buffer).2.take report.size = report.payload ∧
      (report.writeTo buffer).2.drop report.size = buffer.drop report.size ↔
        report.size ≤ buffer.length) ∧
    (buffer.length < report.size → report.writeTo buffer = (0, buffer)) ∧
    report.writeStores? buffer = some (report.writeTo buffer) ∧
    report.frameStores? numbers buffer = some (report.frameInto numbers buffer) := by
  refine ⟨?_, ?_, frameInto_of_none, ?_, ?_, writeTo_of_lt, writeStores?_eq report buffer,
    frameStores?_eq report numbers buffer⟩
  · constructor
    · intro hsome
      obtain ⟨number, hnumber, -, hroom, -⟩ := frameInto_eq_some_iff.mp (Prod.ext hsome rfl)
      exact ⟨⟨number, hnumber⟩, hroom⟩
    · rintro ⟨⟨number, hnumber⟩, hroom⟩
      rw [frameInto_of_room hnumber (by omega), Nat.add_comm]
  · intro number hnumber hroom
    have hlength : (report.frame number).length = report.size + 1 := by
      rw [frame, List.length_cons, length_payload]
    rw [frameInto_of_room hnumber (by omega), Nat.add_comm]
    exact ⟨take_frame, List.drop_left' hlength⟩
  · intro number hnumber hbuffer hshort
    cases buffer with
    | nil => exact absurd rfl hbuffer
    | cons byte room =>
      rw [List.length_cons] at hshort
      exact frameInto_of_lt hnumber (by omega)
  · constructor
    · rintro ⟨hcount, -, -⟩
      by_contra hshort
      have hpos := report.size_pos
      rw [writeTo_of_lt (Nat.not_le.mp hshort)] at hcount
      omega
    · intro hroom
      rw [writeTo_of_le hroom]
      exact ⟨rfl, List.take_left' report.length_payload, List.drop_left' report.length_payload⟩

/-- A gamepad whose number is 3, in buffers that are one byte too short, and just long enough. -/
theorem frame_touches_front_gamepad :
    let numbers : ReportNumbers := { joystick := some 3 }
    let report : InputReport := .gamepad { x := -128, hat := .upLeft, buttons := 0x80000102 }
    let short := List.replicate 11 (0xA5 : UInt8)
    let long := List.replicate 12 (0xA5 : UInt8)
    numbers.get? report.role = some 3 ∧ short ≠ [] ∧ short.length < 1 + report.size ∧
      1 + report.size ≤ long.length ∧
      report.frameInto numbers short = (none, 3 :: List.replicate 10 0xA5) ∧
      (report.frameInto numbers long).2.take 12 =
        [3, 0x80, 0, 0, 0, 0, 0, 8, 0x02, 0x01, 0x00, 0x80] := by
  intro numbers report short long
  have hnumber : numbers.get? report.role = some 3 := rfl
  have hshort := (frame_touches_front numbers report short).2.2.2.1 3 hnumber (by decide)
    (by decide)
  have hlong := (frame_touches_front numbers report long).2.1 3 hnumber (by decide)
  exact ⟨hnumber, by decide, by decide, by decide, hshort, hlong.1⟩

end InputReport

end UsbComposite
