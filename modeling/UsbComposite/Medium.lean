import UsbComposite.Fault

/-!
# Storage media

The mass storage role needs a medium. It is asked six things: whether it is ready, its geometry, its
inquiry data, to read, to write, and to handle a command that nobody else handles. Without an answer
of its own a medium behaves as **absent**: never ready, no blocks, blank inquiry data, transfers
refused, other commands done without data.

A **RAM disk** answers the first, second and fourth from its contents. A **recorder** answers all six
from a fixed script and makes each request visible.
-/

namespace UsbComposite

/-- The number and size of a medium's blocks. -/
structure Geometry where
  blockCount : UInt32
  blockSize : UInt16
deriving DecidableEq

/-- The names that a medium gives itself. -/
structure Inquiry where
  vendor : Vector UInt8 8
  product : Vector UInt8 16
  revision : Vector UInt8 4
deriving DecidableEq

/-- The place on a medium where a transfer starts: a block and a byte offset. -/
structure Position where
  lun : UInt8
  block : UInt32
  offset : UInt32
deriving DecidableEq

/-- A request to a medium. -/
inductive MediumRequest
  | unitReady (lun : UInt8)
  | geometry (lun : UInt8)
  | inquiry (lun : UInt8)
  | read (start : Position) (size : Nat)
  | write (start : Position) (data : List UInt8)
  | command (lun : UInt8) (bytes : Vector UInt8 16) (size : Nat)
deriving DecidableEq

/-- A disk in memory, with blocks of 512 bytes. -/
structure RamDisk where
  contents : List UInt8
deriving DecidableEq

namespace RamDisk

/-- The size of a block in bytes. -/
def blockSize : Nat := 512

/-- A disk of zero bytes. -/
def blank (size : Nat) : RamDisk :=
  ⟨List.replicate size 0⟩

/-- The disk with data in place from a byte on. -/
def patch (disk : RamDisk) (start : Nat) (data : List UInt8) : RamDisk :=
  ⟨disk.contents.take start ++ data ++ disk.contents.drop (start + data.length)⟩

/-- The bytes at a place, none if the range is not inside the disk; an empty range at the very end
is inside. -/
def range? (disk : RamDisk) (start size : Nat) : Option (List UInt8) :=
  if start + size ≤ disk.contents.length then some ((disk.contents.drop start).take size) else none

end RamDisk

/-- A medium that answers from a fixed script. -/
structure Recorder where
  ready : Bool
  geometry : Geometry
  inquiry : Inquiry
  /-- The count that every transfer reports, none to refuse. -/
  transferred : Option Nat
deriving DecidableEq

/-- What stands behind the mass storage role. -/
inductive Medium
  | absent
  | ram (disk : RamDisk)
  | recorder (script : Recorder)
deriving DecidableEq

namespace Medium

/-- A request made visible: only a recorder shows it. -/
def shows (medium : Medium) (request : MediumRequest) : List MediumRequest :=
  match medium with
  | recorder _ => [request]
  | absent | ram _ => []

/-- Whether the medium is ready. -/
def unitReady (medium : Medium) : Bool :=
  match medium with
  | absent => false
  | ram _ => true
  | recorder script => script.ready

/-- The geometry of the medium. -/
def geometry (medium : Medium) : Geometry :=
  match medium with
  | absent => ⟨0, 0⟩
  | ram disk =>
    ⟨UInt32.ofNat (disk.contents.length / RamDisk.blockSize), UInt16.ofNat RamDisk.blockSize⟩
  | recorder script => script.geometry

/-- The inquiry data of the medium. -/
def inquiry (medium : Medium) : Inquiry :=
  match medium with
  | absent | ram _ => ⟨Vector.replicate 8 0, Vector.replicate 16 0, Vector.replicate 4 0⟩
  | recorder script => script.inquiry

/-- The outcome of a transfer that a script counts. -/
def counted (transferred : Option Nat) (refusal : Fault) : Except Fault Nat :=
  match transferred with
  | some count => .ok count
  | none => .error refusal

/-- Read into a buffer: the number of bytes read, and the buffer afterwards. A recorder numbers the
bytes of the buffer also when it refuses. -/
def read (medium : Medium) (start : Position) (buffer : List UInt8) :
    Except Fault Nat × List UInt8 :=
  match medium with
  | absent => (.error .mediumNotReady, buffer)
  | ram disk =>
    match disk.range? (start.block.toNat * RamDisk.blockSize + start.offset.toNat) buffer.length with
    | some bytes => (.ok buffer.length, bytes)
    | none => (.error .mediumNotReady, buffer)
  | recorder script =>
    (counted script.transferred .mediumNotReady, (List.range buffer.length).map UInt8.ofNat)

/-- Write data: the number of bytes written. -/
def write (medium : Medium) : Except Fault Nat :=
  match medium with
  | absent | ram _ => .error .mediumNotReady
  | recorder script => counted script.transferred .mediumNotReady

/-- Handle another command: the number of bytes answered. Its buffer is left alone. -/
def command (medium : Medium) : Except Fault Nat :=
  match medium with
  | absent | ram _ => .ok 0
  | recorder script => counted script.transferred .descriptorOverflow

end Medium

end UsbComposite
