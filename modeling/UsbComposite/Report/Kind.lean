/-!
# Kinds of reports

A host that asks for a report or sends one names its kind by a number. A number without a meaning
stands for the invalid kind, whose own number is zero.
-/

namespace UsbComposite

/-- The kind of report that a host names. -/
inductive ReportKind
  | invalid
  | input
  | output
  | feature
deriving DecidableEq

namespace ReportKind

/-- The kind of a number. -/
def ofCode (code : UInt8) : ReportKind :=
  if code = 1 then input else if code = 2 then output else if code = 3 then feature else invalid

/-- The number of a kind. -/
def code : ReportKind → UInt8
  | invalid => 0
  | input => 1
  | output => 2
  | feature => 3

@[simp] theorem ofCode_code (kind : ReportKind) : ofCode kind.code = kind := by
  cases kind <;> rfl

end ReportKind

end UsbComposite
