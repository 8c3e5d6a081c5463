import UsbComposite.Proofs.Hid.Readings
import UsbComposite.Proofs.Report.Description

/-!
# Movements and their range

Mouse and gamepad send signed bytes: movements since the last report, and positions of axes. The
report descriptor declares each of them to lie between -127 and 127, so that both directions have the
same reach. A signed byte has one value more, -128, and a report sends its values as they are.

Here a frame is read the way a host reads it, through the shared report descriptor alone: the fields
under the first byte cut the bytes behind it, and usages name the values.

* `movements_of_payload`: the movements that are read are those of the report, each in its range;
* `inRange_iff`: only the lowest value is out of range;
* `movements_inRange_unless_lowest`: both together, for every frame;
* `mouse_below_minimum`: a frame with a movement below its range.
-/

namespace UsbComposite

/-- A movement or an axis. -/
inductive Movement
  | x
  | y
  | z
  | rx
  | ry
  | rz
  | wheel
  | pan
deriving DecidableEq

namespace Movement

/-- Every movement and axis. -/
def all : List Movement :=
  [x, y, z, rx, ry, rz, wheel, pan]

/-- The usage page and the usage by which a host knows a movement: all but the horizontal pan are on
the generic desktop page, the pan is on the consumer page. -/
def usage : Movement → Nat × Nat
  | x => (0x01, 0x30)
  | y => (0x01, 0x31)
  | z => (0x01, 0x32)
  | rx => (0x01, 0x33)
  | ry => (0x01, 0x34)
  | rz => (0x01, 0x35)
  | wheel => (0x01, 0x38)
  | pan => (0x0C, 0x0238)

/-- A movement as it is read under a range with the same reach in both directions. -/
def reading (movement : Movement) (value : Int8) : Reading where
  usagePage := movement.usage.1
  usage := movement.usage.2
  value := value.toInt
  minimum := -127
  maximum := 127

/-- Movements with their values, as they are read. -/
def readings (moved : List (Movement × Int8)) : List Reading :=
  moved.map fun (movement, value) => movement.reading value

/-- **Only the lowest value is out of range.** -/
theorem inRange_iff (movement : Movement) (value : Int8) :
    (movement.reading value).InRange ↔ value ≠ -128 := by
  have hlow := value.le_toInt
  have hhigh := value.toInt_lt
  have hlowest : value = -128 ↔ value.toInt = -128 := Int8.toInt_inj.symm
  rw [Ne, hlowest]
  show -127 ≤ value.toInt ∧ value.toInt ≤ 127 ↔ _
  omega

end Movement

/-- Whether a reading is that of a movement or an axis. -/
def Reading.isMovement (reading : Reading) : Bool :=
  Movement.all.any fun movement => movement.usage == (reading.usagePage, reading.usage)

theorem Movement.filter_isMovement_readings (moved : List (Movement × Int8)) :
    (readings moved).filter Reading.isMovement = readings moved := by
  rw [List.filter_eq_self]
  intro read hread
  obtain ⟨⟨movement, value⟩, -, rfl⟩ := List.mem_map.mp hread
  rw [Reading.isMovement, List.any_eq_true]
  exact ⟨movement, by cases movement <;> decide, beq_self_eq_true _⟩

/-- The movements and axes of a report, in the order of their bytes. -/
def InputReport.movements : InputReport → List (Movement × Int8)
  | mouse report =>
    [(.x, report.x), (.y, report.y), (.wheel, report.wheel), (.pan, report.pan)]
  | gamepad report =>
    [(.x, report.x), (.y, report.y), (.z, report.z), (.rz, report.rz), (.rx, report.rx),
      (.ry, report.ry)]
  | keyboard _ | consumer _ => []

namespace Field

/-- A field of signed bytes with the same reach in both directions, one for each movement. -/
def signedBytes (number : UInt8) (page : Nat) (movements : List Movement) : Field where
  direction := .input
  globals := ⟨page, -127, 127, 8, movements.length, some number⟩
  usages := movements.map fun movement => movement.usage.2

/-- A field of switches, which have no usages of their own. -/
def switches (number : UInt8) (page size count : Nat) : Field where
  direction := .input
  globals := ⟨page, 0, 1, size, count, some number⟩
  usages := []

/-- **Signed bytes are read as the movements that were written**, if all are on the field's page. -/
theorem readings_signedBytes (number : UInt8) {page : Nat} {movements : List Movement}
    {values : List Int8} (hlength : movements.length = values.length)
    (hpage : ∀ movement ∈ movements, movement.usage.1 = page) (rest : List Field)
    (later : List Bool) :
    readings (signedBytes number page movements :: rest) (bits (values.map Int8.toUInt8) ++ later) =
      Movement.readings (movements.zip values) ++ readings rest later := by
  have hcount : (signedBytes number page movements).globals.reportCount =
      (values.map Int8.toUInt8).length := by
    rw [List.length_map, ← hlength]
    rfl
  have husages : (signedBytes number page movements).usages.length =
      (values.map Int8.toUInt8).length := by
    rw [signedBytes, List.length_map, List.length_map, hlength]
  rw [readings_bytes rfl hcount husages]
  congr 1
  show ((movements.map _).zip (values.map Int8.toUInt8)).map _ = _
  rw [List.zip_map, List.map_map, Movement.readings]
  apply List.map_congr_left
  intro entry hentry
  have hmember := hpage entry.1 (List.of_mem_zip hentry).1
  simp only [Function.comp, Prod.map, reading, signedBytes, Movement.reading,
    Int8.toInt8_toUInt8, hmember]

end Field

/-! ### The fields of a report -/

namespace Role

/-- The input fields of a shared role under its number. -/
def inputFields (number : UInt8) : Role → List Field
  | keyboard =>
    -- modifier keys, reserved byte, key codes
    [.switches number 0x07 1 8, .switches number 0x07 8 1,
      ⟨.input, ⟨0x07, 0, 255, 8, 6, some number⟩, []⟩]
  | mouse =>
    -- buttons and padding, movement, wheel, horizontal pan
    [.switches number 0x09 1 5, .switches number 0x09 3 1, .signedBytes number 0x01 [.x, .y],
      .signedBytes number 0x01 [.wheel], .signedBytes number 0x0C [.pan]]
  | joystick =>
    -- axes, hat switch, buttons
    [.signedBytes number 0x01 [.x, .y, .z, .rz, .rx, .ry],
      ⟨.input, ⟨0x01, 1, 8, 8, 1, some number⟩, [0x39]⟩, .switches number 0x09 1 32]
  | consumerControl => [⟨.input, ⟨0x0C, 1, 1023, 16, 1, some number⟩, []⟩]
  | serial | massStorage | rawHid => []

/-- **An application declares the input fields of its role**: each sets all the globals that its
fields need, so nothing depends on what is inherited. -/
theorem inputs_of_application? {role : Role} {application : Application}
    (h : role.application? = some application) (number : UInt8) (inherited : Globals) :
    application.inputs number inherited = role.inputFields number := by
  cases role with
  | serial => cases h
  | massStorage => cases h
  | rawHid => cases h
  | _ =>
    cases h
    rfl

end Role

namespace InputReport

open UsbComposite.Field (bits readings readings_of_unnamed readings_signedBytes readings_bytes)

/-- Behind its buttons a mouse report is read as its movements. -/
theorem readings_mouse (number : UInt8) (report : MouseReport) :
    readings (Role.mouse.inputFields number) (bits report.payload) =
      Movement.readings (mouse report).movements := by
  -- five buttons of one bit and one pad of three fill the first byte
  have hbits : (bits report.payload).drop (1 * 5 + 3 * 1) =
      bits ([report.x, report.y].map Int8.toUInt8) ++
        (bits ([report.wheel].map Int8.toUInt8) ++ (bits ([report.pan].map Int8.toUInt8) ++ [])) := by
    rw [List.append_nil, ← Field.bits_append, ← Field.bits_append]
    exact Field.drop_bits [report.buttons] _
  rw [Role.inputFields, readings_of_unnamed rfl, readings_of_unnamed rfl, List.drop_drop]
  show readings _ ((bits report.payload).drop (1 * 5 + 3 * 1)) = _
  rw [hbits, readings_signedBytes number rfl (by decide), readings_signedBytes number rfl (by decide),
    readings_signedBytes number rfl (by decide)]
  rfl

/-- A gamepad report is read as its axes and the position of the hat switch. -/
theorem readings_gamepad (number : UInt8) (report : GamepadReport) :
    readings (Role.joystick.inputFields number) (bits report.payload) =
      Movement.readings (gamepad report).movements ++
        [⟨0x01, 0x39, report.hat.code.toInt8.toInt, 1, 8⟩] := by
  have hbits : bits report.payload =
      bits ([report.x, report.y, report.z, report.rz, report.rx, report.ry].map Int8.toUInt8) ++
        (bits [report.hat.code] ++ bits (LittleEndian.ofUInt32 report.buttons)) := by
    rw [← Field.bits_append, ← Field.bits_append]
    rfl
  rw [Role.inputFields, hbits, readings_signedBytes number rfl (by decide),
    readings_bytes rfl rfl rfl, readings_of_unnamed rfl]
  rfl

/-- **The movements that are read are those of the report**; keys of either kind are none. -/
theorem movements_of_payload (number : UInt8) (report : InputReport) :
    (readings (report.role.inputFields number) (bits report.payload)).filter Reading.isMovement =
      Movement.readings report.movements := by
  cases report with
  | keyboard report =>
    have hunnamed : ∀ field ∈ Role.keyboard.inputFields number, field.usages = [] := by
      simp [Role.inputFields, Field.switches]
    rw [role, Field.readings_eq_nil hunnamed]
    rfl
  | mouse report => rw [role, payload, readings_mouse, Movement.filter_isMovement_readings]
  | gamepad report =>
    rw [role, payload, readings_gamepad, List.filter_append, Movement.filter_isMovement_readings]
    -- the hat switch has a range of its own and is no movement
    exact List.append_nil _
  | consumer report =>
    have hunnamed : ∀ field ∈ Role.consumerControl.inputFields number, field.usages = [] := by
      simp [Role.inputFields]
    rw [role, Field.readings_eq_nil hunnamed]
    rfl

end InputReport

/-! ### The movements of a frame -/

namespace ReportDescriptor

/-- The movements that a host reads from the bytes behind a number, through the items of a report
descriptor. -/
def movementsRead (items : List Item) (number : UInt8) (payload : List UInt8) : List Reading :=
  (Field.readings (Field.inputs number (Field.ofItems items)) (Field.bits payload)).filter
    Reading.isMovement

/-- **The movements of a frame are those of its report.** -/
theorem movementsRead_of_frameInto {roles : RoleSet} {report : InputReport}
    {buffer after : List UInt8} {n : Nat}
    (hframe : report.frameInto (.ofRoles roles) buffer = (some n, after)) :
    ∃ number payload, after.take n = number :: payload ∧ roles.hasShared = true ∧
      movementsRead (sharedItems roles) number payload = Movement.readings report.movements := by
  obtain ⟨number, hnumber, rfl, -, rfl⟩ := InputReport.frameInto_eq_some_iff.mp hframe
  obtain ⟨application, happlication, -⟩ :=
    Role.exists_application? (ReportNumbers.mem_shared_of_get? hnumber)
  obtain ⟨inherited, hinputs⟩ := exists_inputs_of_get? hnumber happlication
  refine ⟨number, report.payload, InputReport.take_frame,
    ReportNumbers.hasShared_of_get? hnumber, ?_⟩
  rw [movementsRead, hinputs, Role.inputs_of_application? happlication,
    InputReport.movements_of_payload]

/-- **Every movement is in its range unless it has the lowest value.** Whenever a frame is written, the
shared report descriptor is there and is read to its end. The input fields under the first byte of the
frame cut the bytes behind it into values, and the movements and axes among them are exactly those of
the report, each declared to lie between -127 and 127. One is in its range exactly if its value is not
-128, so all are exactly if the report nowhere has that value. -/
theorem movements_inRange_unless_lowest {roles : RoleSet} {report : InputReport}
    {buffer after : List UInt8} {n : Nat}
    (hframe : report.frameInto (.ofRoles roles) buffer = (some n, after)) :
    ∃ bytes items number payload, shared roles = .ok (some bytes) ∧
      Item.parse? bytes = some items ∧ after.take n = number :: payload ∧
      movementsRead items number payload = Movement.readings report.movements ∧
      (∀ reading ∈ movementsRead items number payload,
        reading.InRange ↔ reading.value ≠ -128) ∧
      ((∀ reading ∈ movementsRead items number payload, reading.InRange) ↔
        ∀ entry ∈ report.movements, entry.2 ≠ -128) := by
  obtain ⟨number, payload, hafter, hshared, hread⟩ := movementsRead_of_frameInto hframe
  refine ⟨_, sharedItems roles, number, payload, shared_eq_encodeAll hshared,
    Item.parse?_encodeAll _, hafter, hread, ?_, ?_⟩
  · rw [hread]
    intro reading hreading
    obtain ⟨⟨movement, value⟩, -, rfl⟩ := List.mem_map.mp hreading
    rw [Movement.inRange_iff, Ne, ← Int8.toInt_inj]
    rfl
  · rw [hread, Movement.readings, List.forall_mem_map]
    exact forall₂_congr fun entry _ => Movement.inRange_iff entry.1 entry.2

/-- Beside a keyboard, a gamepad pushed to both ends: only the axis at -128 is out of range. -/
theorem movements_inRange_unless_lowest_gamepad :
    let roles := RoleSet.ofList [.joystick, .keyboard]
    let report : InputReport := .gamepad { x := 127, y := -127, rz := -128, hat := .up }
    let payload : List UInt8 := [0x7F, 0x81, 0, 0x80, 0, 0, 1, 0, 0, 0, 0]
    report.frameInto (.ofRoles roles) (List.replicate 13 0xA5) =
      (some 12, 2 :: payload ++ [0xA5]) ∧
    ∃ bytes items, shared roles = .ok (some bytes) ∧ Item.parse? bytes = some items ∧
      movementsRead items 2 payload =
        [⟨0x01, 0x30, 127, -127, 127⟩, ⟨0x01, 0x31, -127, -127, 127⟩, ⟨0x01, 0x32, 0, -127, 127⟩,
          ⟨0x01, 0x35, -128, -127, 127⟩, ⟨0x01, 0x33, 0, -127, 127⟩, ⟨0x01, 0x34, 0, -127, 127⟩] ∧
      ∀ reading ∈ movementsRead items 2 payload, reading.InRange ↔ reading.value ≠ -128 := by
  intro roles report payload
  have hframe : report.frameInto (.ofRoles roles) (List.replicate 13 0xA5) =
      (some 12, 2 :: payload ++ [0xA5]) := by decide
  obtain ⟨bytes, items, number, payload', hbytes, hitems, hafter, hread, hrange, -⟩ :=
    movements_inRange_unless_lowest hframe
  cases hafter
  exact ⟨hframe, bytes, items, hbytes, hitems, hread, hrange⟩

/-- **A movement below its range.** The fastest movement to the left is sent as -128, which the report
descriptor excludes: it declares -127 as the lowest value. -/
theorem mouse_below_minimum :
    let roles := RoleSet.ofList [.mouse]
    let report : InputReport := .mouse { x := -128 }
    let payload : List UInt8 := [0, 0x80, 0, 0, 0]
    report.frameInto (.ofRoles roles) (List.replicate 6 0) = (some 6, 1 :: payload) ∧
    ∃ bytes items, shared roles = .ok (some bytes) ∧ Item.parse? bytes = some items ∧
      ∃ reading ∈ movementsRead items 1 payload,
        reading = ⟨0x01, 0x30, -128, -127, 127⟩ ∧ ¬ reading.InRange := by
  intro roles report payload
  have hframe : report.frameInto (.ofRoles roles) (List.replicate 6 0) =
      (some 6, 1 :: payload) := by decide
  obtain ⟨number, payload', hafter, hshared, hread⟩ := movementsRead_of_frameInto hframe
  cases hafter
  refine ⟨hframe, _, sharedItems roles, shared_eq_encodeAll hshared, Item.parse?_encodeAll _,
    Movement.x.reading (-128), ?_, rfl, by decide⟩
  show _ ∈ movementsRead (sharedItems roles) 1 (payload.take 5)
  rw [hread]
  exact List.mem_cons_self

end ReportDescriptor

end UsbComposite
