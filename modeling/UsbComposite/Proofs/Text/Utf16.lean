import Mathlib.Data.List.Basic
import UsbComposite.Text.Utf16

/-!
# Reading UTF-16 and cutting it

The decoder reads exactly what the encoder writes. Well-formed units are described without either of
them: each surrogate stands in a pair, a high one followed by a low one.

A text that is cut after so many units loses no more than that, unless the cut falls inside a
character. Then the high half of that character is left over, and what remains cannot be read.

* `decode?_eq_some_iff`: units are read as a text if and only if they are its units;
* `isSome_decode?_iff`: units can be read if and only if they are well-formed;
* `take_encode_of_not_cutsInside`, `take_encode_of_cutsInside`: what a cut leaves;
* `decode?_take_eq_none_iff`: what is left cannot be read if and only if the cut falls inside a
  character.
-/

namespace UsbComposite.Utf16

theorem isHigh_iff (unit : UInt16) :
    isHigh unit = true ↔ 0xD800 ≤ unit.toNat ∧ unit.toNat < 0xDC00 := by
  rw [isHigh, Bool.and_eq_true, decide_eq_true_eq, decide_eq_true_eq]

theorem isLow_iff (unit : UInt16) :
    isLow unit = true ↔ 0xDC00 ≤ unit.toNat ∧ unit.toNat < 0xE000 := by
  rw [isLow, Bool.and_eq_true, decide_eq_true_eq, decide_eq_true_eq]

/-- Whether a unit stands for a character by itself. -/
def Plain (unit : UInt16) : Prop :=
  isHigh unit = false ∧ isLow unit = false

theorem plain_iff (unit : UInt16) :
    Plain unit ↔ unit.toNat < 0xD800 ∨ 0xE000 ≤ unit.toNat := by
  rw [Plain, ← Bool.not_eq_true, ← Bool.not_eq_true, isHigh_iff, isLow_iff]
  omega

/-! ### The units of a character -/

theorem toNat_ofNat_of_isValidChar {number : Nat} (h : number.isValidChar) :
    (Char.ofNat number).toNat = number := by
  rw [Char.ofNat, dif_pos h]
  rfl

/-- The character of a plain unit has the number of the unit. -/
theorem toNat_ofNat_of_plain {unit : UInt16} (h : Plain unit) :
    (Char.ofNat unit.toNat).toNat = unit.toNat := by
  have hlt := unit.toNat_lt
  rw [plain_iff] at h
  apply toNat_ofNat_of_isValidChar
  unfold Nat.isValidChar
  omega

/-- The character of a pair has the number that the two surrogates carry. -/
theorem toNat_ofPair {high low : UInt16} (hhigh : isHigh high = true) (hlow : isLow low = true) :
    (ofPair high low).toNat =
      0x10000 + 0x400 * (high.toNat - 0xD800) + (low.toNat - 0xDC00) := by
  rw [isHigh_iff] at hhigh
  rw [isLow_iff] at hlow
  apply toNat_ofNat_of_isValidChar
  unfold Nat.isValidChar
  omega

theorem units_of_plain {unit : UInt16} (h : Plain unit) :
    units (Char.ofNat unit.toNat) = [unit] := by
  rw [units, toNat_ofNat_of_plain h, if_pos unit.toNat_lt, UInt16.ofNat_toNat]

theorem units_ofPair {high low : UInt16} (hhigh : isHigh high = true) (hlow : isLow low = true) :
    units (ofPair high low) = [high, low] := by
  have hnumber := toNat_ofPair hhigh hlow
  rw [isHigh_iff] at hhigh
  rw [isLow_iff] at hlow
  have hfirst : 0xD800 + ((ofPair high low).toNat - 0x10000) / 0x400 = high.toNat := by omega
  have hsecond : 0xDC00 + ((ofPair high low).toNat - 0x10000) % 0x400 = low.toNat := by omega
  rw [units, if_neg (by omega), hfirst, hsecond, UInt16.ofNat_toNat, UInt16.ofNat_toNat]

/-- **A character is a plain unit or a pair**, and is the character of these units. -/
theorem units_cases (c : Char) :
    (∃ unit, Plain unit ∧ c = Char.ofNat unit.toNat ∧ units c = [unit]) ∨
      ∃ high low, isHigh high = true ∧ isLow low = true ∧ c = ofPair high low ∧
        units c = [high, low] := by
  have hvalid : c.toNat < 0xD800 ∨ 0xDFFF < c.toNat ∧ c.toNat < 0x110000 := c.valid
  by_cases hbasic : c.toNat < 0x10000
  · left
    have hunit : (UInt16.ofNat c.toNat).toNat = c.toNat := by
      rw [UInt16.toNat_ofNat']
      omega
    refine ⟨UInt16.ofNat c.toNat, ?_, ?_, ?_⟩
    · rw [plain_iff, hunit]
      omega
    · rw [hunit, Char.ofNat_toNat]
    · rw [units, if_pos hbasic]
  · right
    have hhigh : (UInt16.ofNat (0xD800 + (c.toNat - 0x10000) / 0x400)).toNat =
        0xD800 + (c.toNat - 0x10000) / 0x400 := by
      rw [UInt16.toNat_ofNat']
      omega
    have hlow : (UInt16.ofNat (0xDC00 + (c.toNat - 0x10000) % 0x400)).toNat =
        0xDC00 + (c.toNat - 0x10000) % 0x400 := by
      rw [UInt16.toNat_ofNat']
      omega
    have hishigh : isHigh (UInt16.ofNat (0xD800 + (c.toNat - 0x10000) / 0x400)) = true := by
      rw [isHigh_iff, hhigh]
      omega
    have hislow : isLow (UInt16.ofNat (0xDC00 + (c.toNat - 0x10000) % 0x400)) = true := by
      rw [isLow_iff, hlow]
      omega
    refine ⟨_, _, hishigh, hislow, ?_, ?_⟩
    · rw [← Char.toNat_inj, toNat_ofPair hishigh hislow, hhigh, hlow]
      omega
    · rw [units, if_neg hbasic]

theorem encode_cons (c : Char) (rest : List Char) : encode (c :: rest) = units c ++ encode rest :=
  List.flatMap_cons

theorem encode_append (text rest : List Char) : encode (text ++ rest) = encode text ++ encode rest :=
  List.flatMap_append

theorem units_ne_nil (c : Char) : units c ≠ [] := by
  obtain ⟨unit, -, -, hunits⟩ | ⟨high, low, -, -, -, hunits⟩ := units_cases c <;> rw [hunits] <;>
    exact List.cons_ne_nil _ _

theorem encode_eq_nil_iff (text : List Char) : encode text = [] ↔ text = [] := by
  cases text with
  | nil => exact iff_of_true rfl rfl
  | cons c rest =>
    rw [encode_cons, List.append_eq_nil_iff]
    exact iff_of_false (fun h => units_ne_nil c h.1) (List.cons_ne_nil _ _)

/-- A text of characters below `0x10000` has as many units as characters. -/
theorem length_encode_of_basic {text : List Char} (h : ∀ c ∈ text, c.toNat < 0x10000) :
    (encode text).length = text.length := by
  induction text with
  | nil => rfl
  | cons c rest ih =>
    obtain ⟨hc, hrest⟩ := List.forall_mem_cons.mp h
    rw [encode_cons, List.length_append, ih hrest, units, if_pos hc, List.length_singleton,
      List.length_cons, Nat.add_comm]

/-! ### Reading -/

/-- Units in which each surrogate stands in a pair. -/
inductive WellFormed : List UInt16 → Prop
  | nil : WellFormed []
  | plain {unit : UInt16} {rest : List UInt16} :
      Plain unit → WellFormed rest → WellFormed (unit :: rest)
  | pair {high low : UInt16} {rest : List UInt16} :
      isHigh high = true → isLow low = true → WellFormed rest → WellFormed (high :: low :: rest)

theorem decode?_plain {unit : UInt16} (h : Plain unit) (rest : List UInt16) :
    decode? (unit :: rest) = (decode? rest).map (Char.ofNat unit.toNat :: ·) := by
  cases rest with
  | nil => simp [decode?, h.1, h.2]
  | cons next rest => simp [decode?, h.1, h.2]

theorem decode?_pair {high low : UInt16} (hhigh : isHigh high = true) (hlow : isLow low = true)
    (rest : List UInt16) :
    decode? (high :: low :: rest) = (decode? rest).map (ofPair high low :: ·) := by
  rw [decode?, if_pos hhigh, if_pos hlow]

theorem decode?_high {high : UInt16} (h : isHigh high = true) : decode? [high] = none := by
  rw [decode?, h, Bool.true_or, if_pos rfl]

/-- The units in front of what follows are read first. -/
theorem decode?_encode_append (text : List Char) (rest : List UInt16) :
    decode? (encode text ++ rest) = (decode? rest).map (text ++ ·) := by
  induction text with
  | nil => exact Option.map_id'.symm
  | cons c text ih =>
    rw [encode_cons, List.append_assoc]
    obtain ⟨unit, hplain, hc, hunits⟩ | ⟨high, low, hhigh, hlow, hc, hunits⟩ := units_cases c
    · rw [hunits, List.singleton_append, decode?_plain hplain, ih, ← hc, Option.map_map]
      rfl
    · rw [hunits, List.cons_append, List.singleton_append, decode?_pair hhigh hlow, ih, ← hc,
        Option.map_map]
      rfl

/-- What is read has the units that it was read from. -/
theorem eq_encode_of_decode? {list : List UInt16} {text : List Char}
    (h : decode? list = some text) : list = encode text := by
  induction list using decode?.induct generalizing text with
  | case1 =>
    cases h
    rfl
  | case2 unit hsurrogate =>
    rw [decode?, if_pos hsurrogate] at h
    cases h
  | case3 unit hplain =>
    rw [decode?, if_neg hplain] at h
    cases h
    have hplain : Plain unit := by simpa [Plain] using hplain
    rw [encode_cons, units_of_plain hplain]
    rfl
  | case4 high low rest hhigh hlow ih =>
    rw [decode?_pair hhigh hlow, Option.map_eq_some_iff] at h
    obtain ⟨read, hread, rfl⟩ := h
    rw [encode_cons, units_ofPair hhigh hlow, ih hread]
    rfl
  | case5 high low rest hhigh hlow =>
    rw [decode?, if_pos hhigh, if_neg hlow] at h
    cases h
  | case6 unit next rest hhigh hlow =>
    rw [decode?, if_neg hhigh, if_pos hlow] at h
    cases h
  | case7 unit next rest hhigh hlow ih =>
    have hplain : Plain unit :=
      ⟨eq_false_of_ne_true hhigh, eq_false_of_ne_true hlow⟩
    rw [decode?_plain hplain, Option.map_eq_some_iff] at h
    obtain ⟨read, hread, rfl⟩ := h
    rw [encode_cons, units_of_plain hplain, ih hread]
    rfl

/-- **Units are read as a text if and only if they are its units.** -/
theorem decode?_eq_some_iff {list : List UInt16} {text : List Char} :
    decode? list = some text ↔ list = encode text := by
  constructor
  · exact eq_encode_of_decode?
  · rintro rfl
    have hread := decode?_encode_append text []
    rwa [List.append_nil, decode?, Option.map_some, List.append_nil] at hread

theorem wellFormed_encode (text : List Char) : WellFormed (encode text) := by
  induction text with
  | nil => exact .nil
  | cons c rest ih =>
    rw [encode_cons]
    obtain ⟨unit, hplain, -, hunits⟩ | ⟨high, low, hhigh, hlow, -, hunits⟩ := units_cases c
    · rw [hunits]
      exact .plain hplain ih
    · rw [hunits]
      exact .pair hhigh hlow ih

/-- **Units can be read if and only if they are well-formed.** -/
theorem isSome_decode?_iff (list : List UInt16) : (decode? list).isSome = true ↔ WellFormed list := by
  constructor
  · intro h
    obtain ⟨text, htext⟩ := Option.isSome_iff_exists.mp h
    rw [eq_encode_of_decode? htext]
    exact wellFormed_encode text
  · intro h
    induction h with
    | nil => rfl
    | plain hplain _ ih => rw [decode?_plain hplain, Option.isSome_map, ih]
    | pair hhigh hlow _ ih => rw [decode?_pair hhigh hlow, Option.isSome_map, ih]

/-! ### Cutting -/

/-- A cut after `count` units falls inside a character of a text. -/
def CutsInside (count : Nat) (text : List Char) : Prop :=
  ∃ before c after, text = before ++ c :: after ∧ (encode before).length < count ∧
    count < (encode before).length + (units c).length

theorem not_cutsInside_of_le {count : Nat} {text : List Char} (h : (encode text).length ≤ count) :
    ¬ CutsInside count text := by
  rintro ⟨before, c, after, rfl, -, hlt⟩
  rw [encode_append, encode_cons, List.length_append, List.length_append] at h
  omega

theorem CutsInside.cons {count : Nat} {rest : List Char} (c : Char)
    (h : CutsInside count rest) : CutsInside ((units c).length + count) (c :: rest) := by
  obtain ⟨before, inside, after, rfl, hlt, hgt⟩ := h
  refine ⟨c :: before, inside, after, rfl, ?_, ?_⟩
  · rw [encode_cons, List.length_append]
    omega
  · rw [encode_cons, List.length_append]
    omega

/-- **A cut between characters leaves the units of the text in front of it.** -/
theorem take_encode_of_not_cutsInside {count : Nat} {text : List Char}
    (h : ¬ CutsInside count text) :
    ∃ kept, kept <+: text ∧ (encode text).take count = encode kept := by
  induction text generalizing count with
  | nil => exact ⟨[], List.nil_prefix, List.take_nil⟩
  | cons c rest ih =>
    by_cases hzero : count = 0
    · exact ⟨[], List.nil_prefix, by rw [hzero, List.take_zero]; rfl⟩
    by_cases hlt : count < (units c).length
    · -- the cut would fall inside the first character
      refine absurd ⟨[], c, rest, rfl, ?_, ?_⟩ h
      · exact Nat.pos_of_ne_zero hzero
      · rwa [encode, List.flatMap_nil, List.length_nil, Nat.zero_add]
    · obtain ⟨further, rfl⟩ := Nat.exists_eq_add_of_le (Nat.not_lt.mp hlt)
      obtain ⟨kept, hkept, htake⟩ := ih fun hinside => h (hinside.cons c)
      refine ⟨c :: kept, (List.prefix_cons_inj c).mpr hkept, ?_⟩
      rw [encode_cons, encode_cons, List.take_length_add_append, htake]

/-- **A cut inside a character leaves its high half over**, behind the units of the text in front. -/
theorem take_encode_of_cutsInside {count : Nat} {text : List Char} (h : CutsInside count text) :
    ∃ kept high low rest, text = kept ++ ofPair high low :: rest ∧ isHigh high = true ∧
      isLow low = true ∧ (encode text).take count = encode kept ++ [high] := by
  obtain ⟨kept, c, rest, rfl, hlt, hgt⟩ := h
  obtain ⟨unit, -, -, hunits⟩ | ⟨high, low, hhigh, hlow, hc, hunits⟩ := units_cases c
  · rw [hunits, List.length_singleton] at hgt
    omega
  · rw [hunits, List.length_cons, List.length_singleton] at hgt
    obtain rfl : count = (encode kept).length + 1 := by omega
    refine ⟨kept, high, low, rest, by rw [hc], hhigh, hlow, ?_⟩
    rw [encode_append, encode_cons, hunits, List.take_length_add_append]
    rfl

/-- **What a cut leaves cannot be read if and only if the cut falls inside a character.** -/
theorem decode?_take_eq_none_iff (count : Nat) (text : List Char) :
    decode? ((encode text).take count) = none ↔ CutsInside count text := by
  constructor
  · intro hnone
    by_contra hbetween
    obtain ⟨kept, -, htake⟩ := take_encode_of_not_cutsInside hbetween
    rw [htake, decode?_eq_some_iff.mpr rfl] at hnone
    cases hnone
  · intro hinside
    obtain ⟨kept, high, low, rest, -, hhigh, -, htake⟩ := take_encode_of_cutsInside hinside
    rw [htake, decode?_encode_append, decode?_high hhigh, Option.map_none]

/-- Reading what is left tells whether a cut falls inside a character. -/
instance (count : Nat) (text : List Char) : Decidable (CutsInside count text) :=
  decidable_of_iff _ (decode?_take_eq_none_iff count text)

end UsbComposite.Utf16
