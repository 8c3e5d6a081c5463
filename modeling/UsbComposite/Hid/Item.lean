import UsbComposite.Bytes.LittleEndian

/-!
# HID short items

A HID report descriptor is a sequence of **short items**. An item starts with a lead byte, whose low
two bits give the number of data bytes (0, 1, 2, or, for 3, four) and whose other bits are its tag.

Parsing is the exact inverse of writing:

* `parse?_encode_append`: an item that was written is read back, and reading goes on behind it;
* `eq_encodeAll_of_parse?`: what can be read was written, so a descriptor has one reading.

Parsing therefore respects concatenation, whatever the lengths of the two parts.
-/

namespace UsbComposite

/-- The number of data bytes that a lead byte announces. -/
def Item.dataSize (lead : UInt8) : Nat :=
  match lead.toNat % 4 with
  | 0 => 0
  | 1 => 1
  | 2 => 2
  | _ => 4

/-- A lead byte and as many data bytes as it announces. -/
structure Item where
  lead : UInt8
  data : List UInt8
  data_length : data.length = Item.dataSize lead
deriving DecidableEq

namespace Item

/-- The bytes of an item. -/
def encode (item : Item) : List UInt8 :=
  item.lead :: item.data

/-- The bytes of a list of items. -/
def encodeAll (items : List Item) : List UInt8 :=
  items.flatMap encode

/-- The items that a list of bytes is made of, none if the last one is cut off. -/
def parse? : List UInt8 → Option (List Item)
  | [] => some []
  | lead :: rest =>
    if enough : dataSize lead ≤ rest.length then
      (parse? (rest.drop (dataSize lead))).map
        (⟨lead, rest.take (dataSize lead), List.length_take_of_le enough⟩ :: ·)
    else none
termination_by bytes => bytes.length
decreasing_by
  simp only [List.length_drop, List.length_cons]
  omega

@[simp] theorem parse?_nil : parse? [] = some [] := by
  rw [parse?]

/-- **Reading undoes writing**, one item at a time. -/
@[simp] theorem parse?_encode_append (item : Item) (rest : List UInt8) :
    parse? (item.encode ++ rest) = (parse? rest).map (item :: ·) := by
  obtain ⟨lead, data, hlen⟩ := item
  have htake : (data ++ rest).take (dataSize lead) = data := List.take_left' hlen
  have hdrop : (data ++ rest).drop (dataSize lead) = rest := List.drop_left' hlen
  simp only [encode, List.cons_append, parse?]
  rw [dif_pos (by simp only [List.length_append]; omega), hdrop]
  simp only [htake]

/-- Reading what was written gives the items, followed by the reading of the rest. -/
theorem parse?_encodeAll_append (items : List Item) (rest : List UInt8) :
    parse? (encodeAll items ++ rest) = (parse? rest).map (items ++ ·) := by
  induction items with
  | nil => simp [encodeAll]
  | cons item items ih =>
    simp only [encodeAll] at ih
    simp only [encodeAll, List.flatMap_cons, List.append_assoc, parse?_encode_append, ih,
      Option.map_map]
    rfl

/-- Reading what was written gives the items back. -/
@[simp] theorem parse?_encodeAll (items : List Item) : parse? (encodeAll items) = some items := by
  simpa using parse?_encodeAll_append items []

/-- **What can be read was written.** -/
theorem eq_encodeAll_of_parse? {bytes : List UInt8} {items : List Item}
    (h : parse? bytes = some items) : bytes = encodeAll items := by
  fun_induction parse? bytes generalizing items with
  | case1 =>
    cases h
    rfl
  | case2 lead rest enough ih =>
    obtain ⟨later, hlater, rfl⟩ := Option.map_eq_some_iff.mp h
    have hrest := ih hlater
    simp only [encodeAll] at hrest
    simp only [encodeAll, List.flatMap_cons, encode, ← hrest, List.cons_append,
      List.take_append_drop]
  | case3 => cases h

/-! ### Tags -/

/-- The tags in use here; an item's other bits are its tag. -/
inductive Tag
  | input
  | output
  | feature
  | collection
  | endCollection
  | usagePage
  | logicalMinimum
  | logicalMaximum
  | physicalMinimum
  | physicalMaximum
  | reportSize
  | reportId
  | reportCount
  | usage
  | usageMinimum
  | usageMaximum
deriving DecidableEq

namespace Tag

/-- The lead byte of an item of this tag that carries no data. -/
def code : Tag → UInt8
  | input => 0x80
  | output => 0x90
  | feature => 0xB0
  | collection => 0xA0
  | endCollection => 0xC0
  | usagePage => 0x04
  | logicalMinimum => 0x14
  | logicalMaximum => 0x24
  | physicalMinimum => 0x34
  | physicalMaximum => 0x44
  | reportSize => 0x74
  | reportId => 0x84
  | reportCount => 0x94
  | usage => 0x08
  | usageMinimum => 0x18
  | usageMaximum => 0x28

/-- The tags in use here. -/
def all : List Tag :=
  [input, output, feature, collection, endCollection, usagePage, logicalMinimum, logicalMaximum,
    physicalMinimum, physicalMaximum, reportSize, reportId, reportCount, usage, usageMinimum,
    usageMaximum]

end Tag

/-- An item's tag, if it is one of those in use here. -/
def tag? (item : Item) : Option Tag :=
  Tag.all.find? fun tag => tag.code == item.lead &&& 0xFC

/-- An item without data. -/
def bare (tag : Tag) : Item :=
  ⟨tag.code, [], by cases tag <;> rfl⟩

/-- An item with one data byte. -/
def short (tag : Tag) (byte : UInt8) : Item :=
  ⟨tag.code + 1, [byte], by cases tag <;> rfl⟩

/-- An item with a two-byte number. -/
def wide (tag : Tag) (word : UInt16) : Item :=
  ⟨tag.code + 2, LittleEndian.ofUInt16 word, by cases tag <;> rfl⟩

/-- The upper six bits of the lead byte decide the tag. -/
theorem tag?_of_lead {item : Item} {tag : Tag} (h : item.lead &&& 0xFC = tag.code) :
    item.tag? = some tag := by
  rw [tag?, h]
  cases tag <;> decide

@[simp] theorem tag?_bare (tag : Tag) : (bare tag).tag? = some tag := by
  apply tag?_of_lead
  show tag.code &&& 0xFC = tag.code
  cases tag <;> decide

@[simp] theorem tag?_short (tag : Tag) (byte : UInt8) : (short tag byte).tag? = some tag := by
  apply tag?_of_lead
  show (tag.code + 1) &&& 0xFC = tag.code
  cases tag <;> decide

/-- The data read as a number without sign. -/
def unsigned (item : Item) : Nat :=
  LittleEndian.toNat item.data

@[simp] theorem unsigned_short (tag : Tag) (byte : UInt8) :
    (short tag byte).unsigned = byte.toNat := by
  simp [unsigned, short, LittleEndian.toNat]

/-- The data read as a number in two's complement of its own width. -/
def signed (item : Item) : Int :=
  Int.bmod item.unsigned (Nat.pow 2 (8 * item.data.length))

end Item

end UsbComposite
