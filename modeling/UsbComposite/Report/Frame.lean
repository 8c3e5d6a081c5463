import UsbComposite.Report
import UsbComposite.Report.Numbers

/-!
# Frames

On the shared interface a report travels as a **frame**: its number, then its payload. A frame is
written to a caller's buffer, and a failure leaves different things behind:

* without a number for the role, or without any room, the buffer stays as it is;
* with room for the number but not for the payload, the number has been written already.

`ofFrame?` reads a frame knowing only the table of numbers.
-/

namespace UsbComposite.InputReport

/-- Write the frame of a report to the front of a buffer. The result is the number of bytes written,
none on failure, and the whole buffer afterwards. -/
def frameInto (report : InputReport) (numbers : ReportNumbers) (buffer : List UInt8) :
    Option Nat × List UInt8 :=
  match numbers.get? report.role, buffer with
  | none, _ => (none, buffer)
  | some _, [] => (none, [])
  | some number, _ :: room =>
    match report.writeTo room with
    | (0, room') => (none, number :: room')
    | (n + 1, room') => (some (n + 2), number :: room')

/-- The report that a frame carries. -/
def ofFrame? (numbers : ReportNumbers) : List UInt8 → Option InputReport
  | [] => none
  | number :: payload => (numbers.owner? number).bind fun role => ofPayload? role payload

end UsbComposite.InputReport
