import UsbComposite.Fault
import UsbComposite.Hid.Item

/-!
# Report templates

Several reports can share one HID interface if each carries a number of its own. A **template** is a
report descriptor without such a number; **stamping** it with a number puts a Report ID item behind
its first six bytes, which open the application collection (usage page, usage, collection).

Stamped templates are written one after the other into a buffer of bounded room, in three parts:
the opening, the Report ID item, the remainder. A part that does not fit is left out whole and ends
the writing, so the buffer keeps the parts before it.
-/

namespace UsbComposite

/-- A report descriptor whose first six bytes open its application collection. -/
structure Template where
  body : List UInt8
  six_le : 6 ≤ body.length

namespace Template

/-- The number of bytes in front of the Report ID item. -/
def openingLength : Nat := 6

/-- A template of the given bytes, none if they are too few to open a collection. -/
def ofBody? (body : List UInt8) : Option Template :=
  if h : 6 ≤ body.length then some ⟨body, h⟩ else none

/-- A template written as items, none if they are too few to open a collection. -/
def ofItems? (items : List Item) : Option Template :=
  ofBody? (Item.encodeAll items)

/-- The bytes that open the application collection. -/
def opening (template : Template) : List UInt8 :=
  template.body.take openingLength

/-- The bytes behind the Report ID item. -/
def remainder (template : Template) : List UInt8 :=
  template.body.drop openingLength

/-- The item that gives a report its number. -/
def idItem (id : UInt8) : Item :=
  Item.short .reportId id

/-- The length of a stamped template. -/
def stampedLength (template : Template) : Nat :=
  template.body.length + 2

/-- A template with its number in place. -/
def stamped (template : Template) (id : UInt8) : List UInt8 :=
  template.opening ++ (idItem id).encode ++ template.remainder

/-- Write parts behind the bytes that a buffer of the given room holds already, up to the first
part that does not fit. -/
def writeParts (capacity : Nat) (written : List UInt8) :
    List (List UInt8) → List UInt8 × Except Fault Unit
  | [] => (written, .ok ())
  | part :: rest =>
    if written.length + part.length ≤ capacity then
      writeParts capacity (written ++ part) rest
    else (written, .error .descriptorOverflow)

/-- Write a stamped template behind the bytes that a buffer holds already. -/
def stampInto (template : Template) (capacity : Nat) (id : UInt8) (written : List UInt8) :
    List UInt8 × Except Fault Unit :=
  writeParts capacity written [template.opening, (idItem id).encode, template.remainder]

/-- Write a list of templates, each with its number, one after the other; a failed one does not
stop those behind it. The result lists what the buffer held after each. -/
def stampAll (capacity : Nat) (written : List UInt8) :
    List (Template × UInt8) → List (List UInt8 × Except Fault Unit)
  | [] => []
  | (template, id) :: rest =>
    let result := template.stampInto capacity id written
    result :: stampAll capacity result.1 rest

/-- Stamping adds two bytes. -/
theorem length_stamped (template : Template) (id : UInt8) :
    (template.stamped id).length = template.stampedLength := by
  have h := template.six_le
  simp only [stamped, opening, idItem, Item.encode, Item.short, remainder, openingLength,
    stampedLength, List.length_append, List.length_take, List.length_cons, List.length_nil,
    List.length_drop]
  omega

/-- Parts that all fit are written as they stand. -/
theorem writeParts_of_le {capacity : Nat} {written : List UInt8} {parts : List (List UInt8)}
    (h : written.length + parts.flatten.length ≤ capacity) :
    writeParts capacity written parts = (written ++ parts.flatten, .ok ()) := by
  induction parts generalizing written with
  | nil => simp [writeParts]
  | cons part rest ih =>
    simp only [List.flatten_cons, List.length_append] at h
    rw [writeParts, if_pos (by omega), ih (by simp only [List.length_append]; omega),
      List.flatten_cons, List.append_assoc]

/-- A template that fits is written whole. -/
theorem stampInto_of_le {template : Template} {capacity : Nat} {id : UInt8} {written : List UInt8}
    (h : written.length + template.stampedLength ≤ capacity) :
    template.stampInto capacity id written = (written ++ template.stamped id, .ok ()) := by
  have hflat : [template.opening, (idItem id).encode, template.remainder].flatten =
      template.stamped id := by
    simp [stamped]
  rw [stampInto, writeParts_of_le (by rw [hflat, length_stamped]; exact h), hflat]

end Template

end UsbComposite
