import Mathlib.Data.List.TakeDrop
import UsbComposite.Proofs.Text.Utf16
import UsbComposite.StringDescriptor

/-!
# The words of a string descriptor

A descriptor is put together in a buffer of twenty words: a place for the header, the units of the
text one by one, and at the end the header, packed from the descriptor type and the length in bytes.
A word that does not fit the buffer is lost without notice, but none is ever pushed that does not fit.

* `words_eq_pushed`: the words of a descriptor are those that are put together in this way;
* `toNat_header`: the length never reaches the type;
* `truncating_encoding`: what a descriptor tells of its text, and when it tells all of it;
* `wellFormed_ofText_iff`: it can be read unless its text is cut inside a character.
-/

namespace UsbComposite.StringDescriptor

/-! ### Putting the words together -/

/-- A word behind those that a buffer holds. One that does not fit is lost. -/
def push (room : Nat) (held : List UInt16) (word : UInt16) : List UInt16 :=
  if held.length < room then held ++ [word] else held

/-- The header in front of so many units: the type shifted to the high byte, and the length. -/
def packed (count : UInt16) : UInt16 :=
  (0x03 : UInt16) <<< (8 : UInt16) ||| (2 * count + 2)

/-- The words of the descriptor of some units, put together one by one. -/
def pushed (units : List UInt16) : List UInt16 :=
  let held := (units.take (capacity - 1)).foldl (push capacity) (push capacity [] 0)
  held.set 0 (packed (UInt16.ofNat (held.length - 1)))

/-- Of the words that are pushed, a buffer keeps those in front, as many as it has room for. -/
theorem foldl_push (room : Nat) (held words : List UInt16) :
    words.foldl (push room) held = held ++ words.take (room - held.length) := by
  induction words generalizing held with
  | nil => rw [List.foldl_nil, List.take_nil, List.append_nil]
  | cons word rest ih =>
    by_cases hroom : held.length < room
    · have hpush : push room held word = held ++ [word] := if_pos hroom
      have hleft : room - held.length = room - (held.length + 1) + 1 := by omega
      rw [List.foldl_cons, hpush, ih, List.length_append, List.length_singleton, hleft,
        List.take_succ_cons, List.append_assoc, List.singleton_append]
    · have hpush : push room held word = held := if_neg hroom
      have hleft : room - held.length = 0 := by omega
      rw [List.foldl_cons, hpush, ih, hleft, List.take_zero, List.take_zero]

/-- Packing the header by shifting is adding, as long as the length stays in its byte. -/
theorem packed_eq {count : Nat} (h : count ≤ 19) :
    packed (UInt16.ofNat count) = UInt16.ofNat (0x0300 + (2 * count + 2)) := by
  have all : ∀ n, n < 20 → packed (UInt16.ofNat n) = UInt16.ofNat (0x0300 + (2 * n + 2)) := by
    decide
  exact all count (Nat.lt_succ_of_le h)

/-- **The words of a descriptor are put together one by one**, and none of them is lost. -/
theorem words_eq_pushed (units : List UInt16) : (ofUnits units).words = pushed units := by
  have hheld : (units.take (capacity - 1)).foldl (push capacity) (push capacity [] 0) =
      0 :: (ofUnits units).units := by
    rw [foldl_push]
    -- behind the place for the header there is room for the nineteen units that are left
    show [0] ++ (units.take 19).take 19 = 0 :: units.take 19
    rw [List.take_take, Nat.min_self, List.singleton_append]
  rw [pushed, hheld, List.set_cons_zero, List.length_cons, Nat.add_sub_cancel,
    packed_eq (ofUnits units).length_le]
  rfl

/-! ### The header -/

/-- The header is the type times 256 and the length in bytes, which is at most 40. -/
theorem toNat_header (descriptor : StringDescriptor) :
    descriptor.header.toNat = 0x0300 + (2 * descriptor.length + 2) := by
  have hle : descriptor.length ≤ 19 := descriptor.length_le
  rw [header, UInt16.toNat_ofNat']
  omega

theorem length_words (descriptor : StringDescriptor) :
    descriptor.words.length = descriptor.length + 1 :=
  List.length_cons

theorem words_injective : Function.Injective words := by
  intro descriptor other h
  exact ext (List.cons.inj h).2

/-! ### The text -/

theorem isEmpty_ofText_iff (text : String) : (ofText text).isEmpty = true ↔ text = "" := by
  rw [isEmpty, beq_iff_eq, length, List.length_eq_zero_iff]
  show (Utf16.encode text.toList).take 19 = [] ↔ text = ""
  rw [List.take_eq_nil_iff, Utf16.encode_eq_nil_iff, String.toList_eq_nil_iff,
    or_iff_right (by decide)]

/-- **A text is read back if and only if its units are not cut.** -/
theorem decode?_ofText_eq_some_iff (text : String) :
    Utf16.decode? (ofText text).units = some text.toList ↔
      (Utf16.encode text.toList).length ≤ 19 := by
  rw [Utf16.decode?_eq_some_iff]
  exact List.take_eq_self_iff _

/-- **A descriptor is well-formed if and only if its text is not cut inside a character.** -/
theorem wellFormed_ofText_iff (text : String) :
    Utf16.WellFormed (ofText text).units ↔ ¬ Utf16.CutsInside 19 text.toList := by
  rw [← Utf16.decode?_take_eq_none_iff, ← Utf16.isSome_decode?_iff, ← Ne,
    Option.isSome_iff_ne_none]
  rfl

/-- **String descriptors are cut UTF-16 with a header that agrees.** The words of a text's descriptor,
put together one by one, are a header and the first nineteen units of the text. The header has the
type 3 in its high byte and twice the number of words in its low byte. The text is read back exactly
if it has no more than nineteen units, and two texts have the same descriptor exactly if their first
nineteen units are the same. -/
theorem truncating_encoding (text : String) :
    let units := Utf16.encode text.toList
    let descriptor := ofText text
    let payload := units.take 19
    descriptor.words = pushed units ∧
    (descriptor.words = descriptor.header :: payload ∧ payload.length = min 19 units.length) ∧
    (descriptor.header.toNat / 256 = 3 ∧
      descriptor.header.toNat % 256 = 2 * descriptor.words.length ∧
      descriptor.words.length ≤ 20) ∧
    descriptor.length = payload.length ∧
    (descriptor.isEmpty = true ↔ text = "") ∧
    (Utf16.decode? payload = some text.toList ↔ units.length ≤ 19) ∧
    ∀ other : String, (ofText other).words = descriptor.words ↔
      (Utf16.encode other.toList).take 19 = payload := by
  intro units descriptor payload
  have hheader := toNat_header descriptor
  have hwords := length_words descriptor
  have hle : descriptor.length ≤ 19 := descriptor.length_le
  refine ⟨words_eq_pushed units, ⟨rfl, List.length_take⟩, ⟨?_, ?_, ?_⟩, rfl,
    isEmpty_ofText_iff text, decode?_ofText_eq_some_iff text, ?_⟩
  · rw [hheader]
    omega
  · rw [hheader, hwords]
    omega
  · rw [hwords]
    omega
  · intro other
    rw [words_injective.eq_iff, StringDescriptor.ext_iff]
    rfl

end UsbComposite.StringDescriptor
