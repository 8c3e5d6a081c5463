import UsbComposite.Proofs.Report.Numbers
import UsbComposite.Report.Frame

/-!
# Frames can be told apart

A frame starts with a report number. Whoever knows the table of numbers finds its owner, and with the
owner the layout of the bytes behind it; so the report can be read back, provided that the table does
not give one number to two roles.

* `frameInto_eq_some_iff`: when a frame is written, and what the buffer holds afterwards;
* `ofFrame?_frame`: a frame is read back by a table in which its role owns its number;
* `frames_decodable`: so without repeated numbers frames and reports correspond.
-/

namespace UsbComposite.InputReport

/-- The bytes of a report's frame under a number. -/
def frame (report : InputReport) (number : UInt8) : List UInt8 :=
  number :: report.payload

/-- A payload is written whole if there is room for it. -/
theorem writeTo_of_le {report : InputReport} {buffer : List UInt8}
    (h : report.size ≤ buffer.length) :
    report.writeTo buffer = (report.size, report.payload ++ buffer.drop report.size) :=
  if_pos h

theorem writeTo_of_lt {report : InputReport} {buffer : List UInt8}
    (h : buffer.length < report.size) : report.writeTo buffer = (0, buffer) :=
  if_neg (Nat.not_le.mpr h)

/-- A frame replaces the front of a buffer with room for number and payload; the rest stays. -/
theorem frameInto_of_room {report : InputReport} {numbers : ReportNumbers} {number : UInt8}
    {buffer : List UInt8} (hnumber : numbers.get? report.role = some number)
    (hroom : report.size < buffer.length) :
    report.frameInto numbers buffer =
      (some (report.size + 1), report.frame number ++ buffer.drop (report.size + 1)) := by
  cases buffer with
  | nil => exact absurd hroom (Nat.not_lt_zero _)
  | cons byte room =>
    have hle : report.size ≤ room.length := by
      rw [List.length_cons] at hroom
      omega
    obtain ⟨later, hlater⟩ : ∃ later, report.size = later + 1 :=
      ⟨report.size - 1, by have := report.size_pos; omega⟩
    simp only [frameInto, hnumber, writeTo_of_le hle, hlater]
    rfl

/-- Without room for number and payload there is no frame. -/
theorem frameInto_of_short {report : InputReport} {numbers : ReportNumbers} {buffer : List UInt8}
    (hshort : buffer.length ≤ report.size) : (report.frameInto numbers buffer).1 = none := by
  cases hnumber : numbers.get? report.role with
  | none => simp only [frameInto, hnumber]
  | some number =>
    cases buffer with
    | nil => simp only [frameInto, hnumber]
    | cons byte room =>
      rw [List.length_cons] at hshort
      simp only [frameInto, hnumber, writeTo_of_lt (show room.length < report.size by omega)]

/-- **When a frame is written**, and what the buffer holds afterwards. -/
theorem frameInto_eq_some_iff {report : InputReport} {numbers : ReportNumbers}
    {buffer after : List UInt8} {n : Nat} :
    report.frameInto numbers buffer = (some n, after) ↔
      ∃ number, numbers.get? report.role = some number ∧ n = report.size + 1 ∧
        n ≤ buffer.length ∧ after = report.frame number ++ buffer.drop n := by
  constructor
  · intro h
    have hroom : report.size < buffer.length := by
      by_contra hshort
      have hnone : (report.frameInto numbers buffer).1 = none :=
        frameInto_of_short (Nat.not_lt.mp hshort)
      rw [h] at hnone
      cases hnone
    cases hnumber : numbers.get? report.role with
    | none =>
      simp only [frameInto, hnumber] at h
      cases h
    | some number =>
      rw [frameInto_of_room hnumber hroom] at h
      cases h
      exact ⟨number, rfl, rfl, hroom, rfl⟩
  · rintro ⟨number, hnumber, rfl, hroom, rfl⟩
    exact frameInto_of_room hnumber hroom

/-- What was written is the frame. -/
theorem take_frame {report : InputReport} {number : UInt8} {rest : List UInt8} :
    (report.frame number ++ rest).take (report.size + 1) = report.frame number := by
  have hlength : (report.frame number).length = report.size + 1 := by
    rw [frame, List.length_cons, length_payload]
  rw [← hlength, List.take_left]

/-- **A frame is read back** by a table in which its role owns its number. -/
theorem ofFrame?_frame {report : InputReport} {numbers : ReportNumbers} {number : UInt8}
    (howner : numbers.owner? number = some report.role) :
    ofFrame? numbers (report.frame number) = some report := by
  rw [frame, ofFrame?, howner, Option.bind_some, ofPayload?_payload]

/-- A report is framed if its role has a number and the buffer has room. -/
theorem isSome_frameInto_iff {report : InputReport} {numbers : ReportNumbers}
    {buffer : List UInt8} :
    (report.frameInto numbers buffer).1.isSome = true ↔
      (numbers.get? report.role).isSome = true ∧ report.size < buffer.length := by
  constructor
  · intro hsome
    obtain ⟨n, hn⟩ := Option.isSome_iff_exists.mp hsome
    obtain ⟨number, hnumber, rfl, hroom, -⟩ := frameInto_eq_some_iff.mp (Prod.ext hn rfl)
    exact ⟨by rw [hnumber]; rfl, hroom⟩
  · rintro ⟨hsome, hroom⟩
    obtain ⟨number, hnumber⟩ := Option.isSome_iff_exists.mp hsome
    rw [frameInto_of_room hnumber hroom]
    rfl

/-- Without repeated numbers the first byte of a frame tells its role, and the frame its report. -/
theorem read_frameInto {report : InputReport} {numbers : ReportNumbers}
    (hnodup : numbers.given.Nodup) {buffer after : List UInt8} {n : Nat}
    (hframe : report.frameInto numbers buffer = (some n, after)) :
    after.head?.bind numbers.owner? = some report.role ∧
      ofFrame? numbers (after.take n) = some report := by
  obtain ⟨number, hnumber, rfl, -, rfl⟩ := frameInto_eq_some_iff.mp hframe
  have howner := ReportNumbers.forall_owner?_iff.mpr hnodup report.role number hnumber
  refine ⟨howner, ?_⟩
  rw [take_frame, ofFrame?_frame howner]

/-- One report has one frame under a table, whatever the buffers held. -/
theorem take_frameInto_eq {report : InputReport} {numbers : ReportNumbers}
    {buffer buffer' after after' : List UInt8} {n n' : Nat}
    (hframe : report.frameInto numbers buffer = (some n, after))
    (hframe' : report.frameInto numbers buffer' = (some n', after')) :
    after.take n = after'.take n' := by
  obtain ⟨number, hnumber, rfl, -, rfl⟩ := frameInto_eq_some_iff.mp hframe
  obtain ⟨number', hnumber', rfl, -, rfl⟩ := frameInto_eq_some_iff.mp hframe'
  rw [hnumber] at hnumber'
  rw [take_frame, take_frame, Option.some.inj hnumber']

/-- **Frames are uniquely decodable.** In the table of a role set no number repeats. Whatever the
table, a report is framed in every buffer with room if its role has a number. If no number of the
table repeats, the first byte of a frame tells the role and the frame tells the report, so frames of
different reports differ. And only then does every role own its number; in any table the owner of a
number is the first role that has it. -/
theorem frames_decodable :
    (∀ roles, (ReportNumbers.ofRoles roles).given.Nodup) ∧
    ∀ numbers : ReportNumbers,
      (∀ report buffer, (frameInto report numbers buffer).1.isSome = true ↔
        (numbers.get? report.role).isSome = true ∧ report.size < buffer.length) ∧
      (numbers.given.Nodup →
        (∀ report buffer n after, frameInto report numbers buffer = (some n, after) →
          after.head?.bind numbers.owner? = some report.role ∧
            ofFrame? numbers (after.take n) = some report) ∧
        (∀ first buffer n after second buffer' n' after',
          frameInto first numbers buffer = (some n, after) →
            frameInto second numbers buffer' = (some n', after') →
            (after.take n = after'.take n' ↔ first = second))) ∧
      ((∀ role number, numbers.get? role = some number → numbers.owner? number = some role) ↔
        numbers.given.Nodup) ∧
      (∀ number role, numbers.owner? number = some role ↔ numbers.FirstOwner number role) := by
  refine ⟨ReportNumbers.nodup_given_ofRoles, fun numbers => ⟨fun _ _ => isSome_frameInto_iff, ?_,
    ReportNumbers.forall_owner?_iff, fun _ _ => ReportNumbers.owner?_eq_some_iff⟩⟩
  intro hnodup
  refine ⟨fun _ _ _ _ hframe => read_frameInto hnodup hframe, ?_⟩
  intro first buffer n after second buffer' n' after' hfirst hsecond
  constructor
  · intro hbytes
    have hreport := (read_frameInto hnodup hfirst).2
    rw [hbytes, (read_frameInto hnodup hsecond).2] at hreport
    exact (Option.some.inj hreport).symm
  · rintro rfl
    exact take_frameInto_eq hfirst hsecond

/-- In a table with numbers in no order, a gamepad at its extremes is read back from its frame. -/
theorem frames_decodable_gamepad :
    let numbers : ReportNumbers := { keyboard := some 9, mouse := some 255, joystick := some 2 }
    let report : InputReport := .gamepad
      { x := -128, y := 127, z := -1, hat := .upLeft, buttons := 0x80000102 }
    let buffer := List.replicate 14 0xA5
    let after : List UInt8 :=
      [2, 0x80, 0x7F, 0xFF, 0, 0, 0, 8, 0x02, 0x01, 0x00, 0x80, 0xA5, 0xA5]
    numbers.given.Nodup ∧ report.frameInto numbers buffer = (some 12, after) ∧
      after.head?.bind numbers.owner? = some .joystick ∧
      ofFrame? numbers (after.take 12) = some report := by
  intro numbers report buffer after
  have hnodup : numbers.given.Nodup := by decide
  have hframe : report.frameInto numbers buffer = (some 12, after) := by decide
  obtain ⟨hrole, hreport⟩ :=
    ((frames_decodable.2 numbers).2.1 hnodup).1 report buffer 12 after hframe
  exact ⟨hnodup, hframe, hrole, hreport⟩

end UsbComposite.InputReport
