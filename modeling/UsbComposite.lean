import UsbComposite.Hid.Field
import UsbComposite.Session.Log
import UsbComposite.Proofs.Session.Trace
import UsbComposite.Proofs.Session.Serial
import UsbComposite.Proofs.Session.Hold
import UsbComposite.Proofs.Device.Life
import UsbComposite.Proofs.Session.Stability
import UsbComposite.Proofs.Configuration.Interfaces
import UsbComposite.Proofs.Device.Instances
import UsbComposite.Proofs.Report.Frames
import UsbComposite.Proofs.Hid.Collections
import UsbComposite.Proofs.Report.Description
import UsbComposite.Proofs.Configuration.WellFormed
import UsbComposite.Proofs.Configuration.Decoding
import UsbComposite.Proofs.Session.Start
import UsbComposite.Proofs.Session.Builds
import UsbComposite.Proofs.SetReport.Course
import UsbComposite.Proofs.SetReport.Snapshot
import UsbComposite.Proofs.Device.Asks
import UsbComposite.Proofs.Session.Asks
import UsbComposite.Proofs.Session.BoardRead
import UsbComposite.Proofs.Session.Identity
import UsbComposite.Proofs.SetReport.FirstTwo
import UsbComposite.Proofs.Session.Instants
import UsbComposite.Proofs.Session.Subscriptions
import UsbComposite.Proofs.Session.Retry
import UsbComposite.Proofs.Session.Interrupts
import UsbComposite.Proofs.Session.TasksBehindStart
import UsbComposite.Proofs.Session.Marks
import UsbComposite.Proofs.Session.Omissions
import UsbComposite.Proofs.Report.Stores
import UsbComposite.Proofs.Report.Stamping
import UsbComposite.Proofs.Report.StampedItems
import UsbComposite.Proofs.Text.Truncation
import UsbComposite.Proofs.Device.SerialNumber
import UsbComposite.Proofs.Device.Strings
import UsbComposite.Proofs.Role.Members
import UsbComposite.Proofs.Device.ProductNumber
import UsbComposite.Proofs.Hid.Readings
import UsbComposite.Proofs.Report.Movements
