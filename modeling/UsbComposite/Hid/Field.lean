import UsbComposite.Hid.Item

/-!
# What a report descriptor declares

Items are read in order against a table of **globals** (usage page, ranges, sizes, report number),
which later items inherit also across the ends of collections. A main item (input, output or
feature) declares a **field** under the globals in force and the usages named since the last main
item. So a report descriptor declares a list of fields, and a report of a given number is cut into
the values of its fields bit by bit, lowest bit of each byte first.
-/

namespace UsbComposite

/-- The values that later items inherit. -/
structure Globals where
  usagePage : Nat := 0
  logicalMinimum : Int := 0
  logicalMaximum : Int := 0
  /-- Bits of one value. -/
  reportSize : Nat := 0
  /-- Values of one field. -/
  reportCount : Nat := 0
  reportId : Option UInt8 := none
deriving DecidableEq

/-- The globals after an item. -/
def Globals.after (globals : Globals) (item : Item) : Globals :=
  match item.tag? with
  | some .usagePage => { globals with usagePage := item.unsigned }
  | some .logicalMinimum => { globals with logicalMinimum := item.signed }
  | some .logicalMaximum => { globals with logicalMaximum := item.signed }
  | some .reportSize => { globals with reportSize := item.unsigned }
  | some .reportCount => { globals with reportCount := item.unsigned }
  | some .reportId => { globals with reportId := some (UInt8.ofNat item.unsigned) }
  | _ => globals

/-- The way a field's values travel. -/
inductive Direction
  /-- From the device to the host. -/
  | input
  /-- From the host to the device. -/
  | output
  /-- Both ways, outside the stream of reports. -/
  | feature
deriving DecidableEq

/-- The direction of the field that an item declares, none if it declares no field. -/
def Item.direction? (item : Item) : Option Direction :=
  match item.tag? with
  | some .input => some .input
  | some .output => some .output
  | some .feature => some .feature
  | _ => none

/-- A field of a report: `reportCount` values of `reportSize` bits each. -/
structure Field where
  direction : Direction
  globals : Globals
  /-- The usages named one by one since the last main item, in order. -/
  usages : List Nat
deriving DecidableEq

namespace Field

/-- The bits of a whole field. -/
def width (field : Field) : Nat :=
  field.globals.reportSize * field.globals.reportCount

/-- The fields that items declare when read under given globals and pending usages. -/
def declared (globals : Globals) (usages : List Nat) : List Item → List Field
  | [] => []
  | item :: rest =>
    match item.tag?, item.direction? with
    | _, some direction => ⟨direction, globals, usages⟩ :: declared globals [] rest
    | some .collection, none => declared globals [] rest
    | some .endCollection, none => declared globals [] rest
    | some .usage, none => declared globals (usages ++ [item.unsigned]) rest
    | _, none => declared (globals.after item) usages rest

/-- The fields that a report descriptor declares. -/
def ofItems (items : List Item) : List Field :=
  declared {} [] items

/-- The fields of the input reports of one number. -/
def inputs (reportId : UInt8) (fields : List Field) : List Field :=
  fields.filter fun field =>
    field.direction == .input && field.globals.reportId == some reportId

/-- The bits of all fields of a list. -/
def totalWidth (fields : List Field) : Nat :=
  fields.foldr (fun field rest => field.width + rest) 0

/-! ### Cutting a report into values -/

/-- The bits of a list of bytes, lowest bit of each byte first. -/
def bits (bytes : List UInt8) : List Bool :=
  bytes.flatMap fun byte => (List.range 8).map byte.toNat.testBit

/-- The number written by bits, lowest first, in two's complement of their own width. -/
def signedValue (bits : List Bool) : Int :=
  Int.bmod (bits.foldr (fun bit rest => bit.toNat + 2 * rest) 0) (Nat.pow 2 bits.length)

/-- The values of one field, each with the usage named for it, if any. -/
def values (field : Field) (bits : List Bool) : List (Option Nat × List Bool) :=
  (List.range field.globals.reportCount).map fun i =>
    (field.usages[i]?,
      (bits.drop (i * field.globals.reportSize)).take field.globals.reportSize)

/-- The values of consecutive fields. -/
def cut : List Field → List Bool → List (Field × Option Nat × List Bool)
  | [], _ => []
  | field :: rest, bits =>
    (field.values bits).map (fun value => (field, value)) ++ cut rest (bits.drop field.width)

end Field

/-! ### Collections -/

/-- How many collections are open after the items when `depth` were open before, none if one is
closed that was never opened. -/
def Item.depthAfter? : Nat → List Item → Option Nat
  | depth, [] => some depth
  | depth, item :: rest =>
    match item.tag? with
    | some .collection => depthAfter? (depth + 1) rest
    | some .endCollection =>
      match depth with
      | 0 => none
      | below + 1 => depthAfter? below rest
    | _ => depthAfter? depth rest

/-- Whether every collection that is opened is closed, and no other. -/
def Item.balanced (items : List Item) : Bool :=
  Item.depthAfter? 0 items == some 0

end UsbComposite
