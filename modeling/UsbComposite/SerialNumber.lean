import UsbComposite.Text.Hexadecimal

/-!
# Generated serial numbers

A device without a serial number of its own shows its board's identifier in hexadecimal. The text is
generated when it is first asked for and kept from then on, so the board is read at most once and a
later change of what it answers is not seen.
-/

namespace UsbComposite

/-- The length of a board's identifier in bytes. -/
def BoardId.length : Nat := 8

/-- A board's unique identifier, most significant byte first. -/
abbrev BoardId := Vector UInt8 8

/-- A board identifier as sixteen hexadecimal digits. -/
def BoardId.text (board : BoardId) : String :=
  String.ofList (Hexadecimal.ofBytes board.toList)

/-- The serial number generated so far, if any. -/
structure SerialNumber where
  generated : Option String := none
deriving DecidableEq

namespace SerialNumber

/-- Whether the text exists already. -/
def isGenerated (serial : SerialNumber) : Bool :=
  serial.generated.isSome

/-- The text shown now, for a board that answers `board`. -/
def text (serial : SerialNumber) (board : BoardId) : String :=
  serial.generated.getD board.text

/-- The state after the text was shown: it is kept. -/
def shown (serial : SerialNumber) (board : BoardId) : SerialNumber :=
  ⟨some (serial.text board)⟩

@[simp] theorem isGenerated_shown (serial : SerialNumber) (board : BoardId) :
    (serial.shown board).isGenerated = true := rfl

/-- Once shown, the text no longer depends on the board. -/
@[simp] theorem text_shown (serial : SerialNumber) (first later : BoardId) :
    (serial.shown first).text later = serial.text first := rfl

end SerialNumber

end UsbComposite
