/-!
# Upper-case hexadecimal text

A byte is written as two digits, high half first; the digits are `0` to `9` and `A` to `F`. The
reader accepts exactly such text and nothing else: no lower case, no odd digit.
-/

namespace UsbComposite.Hexadecimal

/-- The digit of a number below sixteen. -/
def digit (value : Nat) : Char :=
  if value < 10 then Char.ofNat (48 + value) else Char.ofNat (55 + value)

/-- The number that a digit stands for. -/
def value? (c : Char) : Option Nat :=
  if 48 ≤ c.toNat ∧ c.toNat < 58 then some (c.toNat - 48)
  else if 65 ≤ c.toNat ∧ c.toNat < 71 then some (c.toNat - 55)
  else none

/-- The two digits of a byte. -/
def ofByte (byte : UInt8) : List Char :=
  [digit (byte.toNat / 16), digit (byte.toNat % 16)]

/-- The digits of a list of bytes. -/
def ofBytes (bytes : List UInt8) : List Char :=
  bytes.flatMap ofByte

/-- The bytes that a list of digits was written from. -/
def toBytes? : List Char → Option (List UInt8)
  | [] => some []
  | [_] => none
  | high :: low :: rest =>
    match value? high, value? low, toBytes? rest with
    | some h, some l, some bytes => some (UInt8.ofNat (16 * h + l) :: bytes)
    | _, _, _ => none

/-- A digit reads back as its number. -/
theorem value?_digit {value : Nat} (h : value < 16) : value? (digit value) = some value := by
  have all : ∀ n, n < 16 → value? (digit n) = some n := by decide
  exact all value h

/-- Reading the digits of a list of bytes gives the bytes back. -/
@[simp] theorem toBytes?_ofBytes (bytes : List UInt8) : toBytes? (ofBytes bytes) = some bytes := by
  induction bytes with
  | nil => rfl
  | cons byte rest ih =>
    have hlt := byte.toNat_lt
    have hhigh : byte.toNat / 16 < 16 := by omega
    have hlow : byte.toNat % 16 < 16 := by omega
    have hsum : 16 * (byte.toNat / 16) + byte.toNat % 16 = byte.toNat := by omega
    simp only [ofBytes] at ih
    simp only [ofBytes, List.flatMap_cons, ofByte, List.cons_append, List.nil_append, toBytes?,
      value?_digit hhigh, value?_digit hlow, ih, hsum, UInt8.ofNat_toNat]

end UsbComposite.Hexadecimal
