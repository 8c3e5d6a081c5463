import Mathlib.Data.List.Basic
import UsbComposite.Hid.Field

/-!
# What a host reads from a report

A host cuts a report into the values of its fields, bit by bit. A value that has a usage of its own is
a **reading**: it is named by that usage, under the usage page of its field, and is declared to lie in
the range in force for the field.

Fields need not end where bytes end, so everything is said of bits. Where a field does consist of
bytes, its values are these bytes:

* `signedValue_bits`: the bits of one byte are its value in two's complement;
* `readings_of_unnamed`: a field without usages of its own is passed over;
* `readings_bytes`: a field of bytes gives one reading for each.
-/

namespace UsbComposite

/-- A value that a host reads, by its usage, with the range in which it is declared to lie. -/
structure Reading where
  usagePage : Nat
  usage : Nat
  value : Int
  minimum : Int
  maximum : Int
deriving DecidableEq

/-- Whether the value lies in the declared range. -/
def Reading.InRange (reading : Reading) : Prop :=
  reading.minimum ≤ reading.value ∧ reading.value ≤ reading.maximum

instance (reading : Reading) : Decidable reading.InRange :=
  inferInstanceAs (Decidable (_ ∧ _))

namespace Field

/-- A value of a field under a usage of its own. -/
def reading (field : Field) (usage : Nat) (value : Int) : Reading where
  usagePage := field.globals.usagePage
  usage := usage
  value := value
  minimum := field.globals.logicalMinimum
  maximum := field.globals.logicalMaximum

/-- The reading of a value with its sign, none if it has no usage of its own. -/
def reading? (field : Field) (value : Option Nat × List Bool) : Option Reading :=
  value.1.map fun usage => field.reading usage (signedValue value.2)

/-- What a host reads from the bits of a report with these fields. -/
def readings (fields : List Field) (bits : List Bool) : List Reading :=
  (cut fields bits).filterMap fun (field, value) => field.reading? value

/-! ### The bits of bytes -/

theorem bits_append (first second : List UInt8) :
    bits (first ++ second) = bits first ++ bits second :=
  List.flatMap_append

theorem length_bits (bytes : List UInt8) : (bits bytes).length = 8 * bytes.length := by
  induction bytes with
  | nil => rfl
  | cons byte bytes ih =>
    show (_ ++ bits bytes).length = _
    rw [List.length_append, ih, List.length_map, List.length_range, List.length_cons]
    omega

theorem drop_bits (front later : List UInt8) :
    (bits (front ++ later)).drop (8 * front.length) = bits later := by
  rw [bits_append, ← length_bits, List.drop_left]

/-- The lowest bits of a number write its remainder. -/
theorem foldr_testBit (number width : Nat) :
    ((List.range width).map number.testBit).foldr
        (fun bit rest => (bit.toNat + 2 * rest : Int)) 0 = (number % Nat.pow 2 width : Nat) := by
  induction width generalizing number with
  | zero =>
    show (0 : Int) = (number % 1 : Nat)
    rw [Nat.mod_one]
    rfl
  | succ width ih =>
    have hshift : (List.range width).map (number.testBit ∘ Nat.succ) =
        (List.range width).map (number / 2).testBit :=
      List.map_congr_left fun i _ => Nat.testBit_succ number i
    have hlowest : (number.testBit 0).toNat = number % 2 := by
      rw [Nat.testBit_zero]
      rcases Nat.mod_two_eq_zero_or_one number with h | h <;> rw [h] <;> rfl
    have hpow : Nat.pow 2 (width + 1) = 2 * Nat.pow 2 width := Nat.mul_comm _ _
    rw [List.range_succ_eq_map, List.map_cons, List.map_map, List.foldr_cons, hshift, ih, hlowest,
      hpow, Nat.mod_mul]
    push_cast
    rfl

/-- **The bits of one byte are its value in two's complement.** -/
theorem signedValue_bits (byte : UInt8) : signedValue (bits [byte]) = byte.toInt8.toInt := by
  have hlt : byte.toNat < Nat.pow 2 8 := byte.toNat_lt
  rw [signedValue, length_bits, bits, List.flatMap_singleton, foldr_testBit, Nat.mod_eq_of_lt hlt]
  exact (BitVec.toInt_eq_toNat_bmod byte.toBitVec).symm

/-- The bits of each byte are found at its place. -/
theorem take_drop_bits {bytes : List UInt8} {i : Nat} (h : i < bytes.length) (later : List Bool) :
    ((bits bytes ++ later).drop (i * 8)).take 8 = bits [bytes[i]] := by
  have hsplit : bits bytes ++ later =
      bits (bytes.take i) ++ (bits [bytes[i]] ++ (bits (bytes.drop (i + 1)) ++ later)) := by
    rw [← List.append_assoc, ← List.append_assoc, ← bits_append, ← bits_append,
      List.append_assoc, List.singleton_append, ← List.drop_eq_getElem_cons h,
      List.take_append_drop]
  have hfront : (bits (bytes.take i)).length = i * 8 := by
    rw [length_bits, List.length_take]
    omega
  have hbyte : (bits [bytes[i]]).length = 8 := length_bits _
  rw [hsplit, List.drop_left' hfront, List.take_left' hbyte]

/-! ### Reading field by field -/

theorem readings_cons (field : Field) (rest : List Field) (bits : List Bool) :
    readings (field :: rest) bits =
      (field.values bits).filterMap field.reading? ++ readings rest (bits.drop field.width) := by
  rw [readings, cut, List.filterMap_append, List.filterMap_map]
  rfl

/-- **A field without usages of its own is passed over.** -/
theorem readings_of_unnamed {field : Field} (h : field.usages = []) (rest : List Field)
    (bits : List Bool) : readings (field :: rest) bits = readings rest (bits.drop field.width) := by
  have hnone : (field.values bits).filterMap field.reading? = [] := by
    rw [List.filterMap_eq_nil_iff]
    intro value hvalue
    obtain ⟨i, -, rfl⟩ := List.mem_map.mp hvalue
    rw [h]
    rfl
  rw [readings_cons, hnone, List.nil_append]

theorem readings_eq_nil {fields : List Field} (h : ∀ field ∈ fields, field.usages = [])
    (bits : List Bool) : readings fields bits = [] := by
  induction fields generalizing bits with
  | nil => rfl
  | cons field rest ih =>
    obtain ⟨hfield, hrest⟩ := List.forall_mem_cons.mp h
    rw [readings_of_unnamed hfield, ih hrest]

/-- **A field of bytes gives one reading for each.** -/
theorem readings_bytes {field : Field} {bytes : List UInt8} (hsize : field.globals.reportSize = 8)
    (hcount : field.globals.reportCount = bytes.length)
    (husages : field.usages.length = bytes.length) (rest : List Field) (later : List Bool) :
    readings (field :: rest) (bits bytes ++ later) =
      ((field.usages.zip bytes).map fun (usage, byte) => field.reading usage byte.toInt8.toInt) ++
        readings rest later := by
  have hvalues : field.values (bits bytes ++ later) =
      (field.usages.zip bytes).map fun (usage, byte) => (some usage, bits [byte]) := by
    apply List.ext_getElem
    · simp [values, hcount, husages]
    · intro i hi hi'
      have hlt : i < bytes.length := by simpa [values, hcount] using hi
      simp [values, hsize, take_drop_bits hlt, husages, hlt]
  have hread : field.reading? ∘ (fun (usage, byte) => (some usage, bits [byte])) =
      some ∘ fun (usage, byte) => field.reading usage byte.toInt8.toInt := by
    funext ⟨usage, byte⟩
    simp only [Function.comp, reading?, Option.map_some, signedValue_bits]
  have hwidth : (bits bytes).length = field.width := by
    rw [length_bits, width, hsize, hcount]
  rw [readings_cons, ← hwidth, List.drop_left, hvalues, List.filterMap_map, hread,
    List.filterMap_eq_map]

end Field

end UsbComposite
