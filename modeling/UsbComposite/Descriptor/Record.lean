/-!
# Length-prefixed records

Every USB descriptor is a **record**: a length byte that counts the whole record, a kind byte, and a
body. Records written one after the other are found again by **walking**: each length byte leads to
the next record. The walk fails on a length below two and on a record that is cut off.

* `walk?_encode_append`: a record that was written is found, and the walk goes on behind it;
* `eq_encodeAll_of_walk?`: what can be walked was written, so a walk is the only one.
-/

namespace UsbComposite

/-- A kind and a body that fits behind a length byte. -/
structure Record where
  kind : UInt8
  body : List UInt8
  body_lt : body.length < 254
deriving DecidableEq

namespace Record

/-- The bytes of a record. -/
def encode (record : Record) : List UInt8 :=
  UInt8.ofNat (record.body.length + 2) :: record.kind :: record.body

/-- The bytes of a list of records. -/
def encodeAll (records : List Record) : List UInt8 :=
  records.flatMap encode

/-- The records that a list of bytes is made of. -/
def walk? : List UInt8 → Option (List Record)
  | [] => some []
  | [_] => none
  | length :: kind :: rest =>
    if h : 2 ≤ length.toNat ∧ length.toNat - 2 ≤ rest.length then
      (walk? (rest.drop (length.toNat - 2))).map
        (⟨kind, rest.take (length.toNat - 2), by
          have := length.toNat_lt
          simp only [List.length_take]
          omega⟩ :: ·)
    else none
termination_by bytes => bytes.length
decreasing_by
  simp only [List.length_drop, List.length_cons]
  omega

@[simp] theorem walk?_nil : walk? [] = some [] := by
  rw [walk?]

@[simp] theorem length_encode (record : Record) :
    record.encode.length = record.body.length + 2 := rfl

/-- **Walking undoes writing**, one record at a time. -/
@[simp] theorem walk?_encode_append (record : Record) (rest : List UInt8) :
    walk? (record.encode ++ rest) = (walk? rest).map (record :: ·) := by
  obtain ⟨kind, body, hlt⟩ := record
  have hlen : (UInt8.ofNat (body.length + 2)).toNat - 2 = body.length := by
    simp only [UInt8.toNat_ofNat']
    omega
  have htake : (body ++ rest).take body.length = body := List.take_left' rfl
  have hdrop : (body ++ rest).drop body.length = rest := List.drop_left' rfl
  simp only [encode, List.cons_append, walk?]
  rw [dif_pos ⟨by simp only [UInt8.toNat_ofNat']; omega, by
    rw [hlen]; simp only [List.length_append]; omega⟩]
  simp only [hlen, htake, hdrop]

/-- Walking what was written gives the records back. -/
@[simp] theorem walk?_encodeAll (records : List Record) :
    walk? (encodeAll records) = some records := by
  induction records with
  | nil => simp [encodeAll]
  | cons record records ih =>
    simp only [encodeAll] at ih
    simp only [encodeAll, List.flatMap_cons, walk?_encode_append, ih, Option.map_some]

/-- **What can be walked was written.** -/
theorem eq_encodeAll_of_walk? {bytes : List UInt8} {records : List Record}
    (h : walk? bytes = some records) : bytes = encodeAll records := by
  fun_induction walk? bytes generalizing records with
  | case1 =>
    cases h
    rfl
  | case2 => cases h
  | case3 length kind rest fits ih =>
    obtain ⟨later, hlater, rfl⟩ := Option.map_eq_some_iff.mp h
    have hrest := ih hlater
    have hlen : UInt8.ofNat ((rest.take (length.toNat - 2)).length + 2) = length := by
      have := length.toNat_lt
      apply UInt8.toNat_inj.mp
      simp only [List.length_take, UInt8.toNat_ofNat']
      omega
    simp only [encodeAll] at hrest
    simp only [encodeAll, List.flatMap_cons, encode, hlen, ← hrest, List.cons_append,
      List.take_append_drop]
  | case4 => cases h

end Record

end UsbComposite
