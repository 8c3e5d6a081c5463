/-!
# Little-endian words

Every multi-byte number of the USB formats is written with its lowest byte first. Words are written
by remainder and quotient by 256, so that reading them back is arithmetic on `Nat`.
-/

namespace UsbComposite.LittleEndian

/-- The low byte of a 16-bit word. -/
def lowByte (word : UInt16) : UInt8 :=
  UInt8.ofNat (word.toNat % 256)

/-- The high byte of a 16-bit word. -/
def highByte (word : UInt16) : UInt8 :=
  UInt8.ofNat (word.toNat / 256)

/-- The two bytes of a 16-bit word. -/
def ofUInt16 (word : UInt16) : List UInt8 :=
  [lowByte word, highByte word]

/-- The four bytes of a 32-bit word. -/
def ofUInt32 (word : UInt32) : List UInt8 :=
  [UInt8.ofNat (word.toNat % 256), UInt8.ofNat (word.toNat / 256 % 256),
    UInt8.ofNat (word.toNat / 65536 % 256), UInt8.ofNat (word.toNat / 16777216)]

/-- The number written by a list of bytes of any length. -/
def toNat : List UInt8 → Nat
  | [] => 0
  | byte :: rest => byte.toNat + 256 * toNat rest

/-- The 16-bit word written by two bytes. -/
def toUInt16 (low high : UInt8) : UInt16 :=
  UInt16.ofNat (toNat [low, high])

/-- The 32-bit word written by four bytes. -/
def toUInt32 (b₀ b₁ b₂ b₃ : UInt8) : UInt32 :=
  UInt32.ofNat (toNat [b₀, b₁, b₂, b₃])

@[simp] theorem length_ofUInt16 (word : UInt16) : (ofUInt16 word).length = 2 := rfl

@[simp] theorem length_ofUInt32 (word : UInt32) : (ofUInt32 word).length = 4 := rfl

/-- The low byte is the remainder by 256. -/
theorem toNat_lowByte (word : UInt16) : (lowByte word).toNat = word.toNat % 256 := by
  simp [lowByte]

/-- The high byte is the quotient by 256; a word has no third byte to drop. -/
theorem toNat_highByte (word : UInt16) : (highByte word).toNat = word.toNat / 256 := by
  have h := word.toNat_lt
  simp only [highByte, UInt8.toNat_ofNat']
  omega

/-- Reading the two bytes of a word gives the word back. -/
@[simp] theorem toUInt16_bytes (word : UInt16) :
    toUInt16 (lowByte word) (highByte word) = word := by
  apply UInt16.toNat_inj.mp
  have h := word.toNat_lt
  simp only [toUInt16, toNat, UInt16.toNat_ofNat', toNat_lowByte, toNat_highByte]
  omega

/-- Reading the four bytes of a word gives the word back. -/
@[simp] theorem toUInt32_bytes (word : UInt32) :
    toUInt32 (UInt8.ofNat (word.toNat % 256)) (UInt8.ofNat (word.toNat / 256 % 256))
      (UInt8.ofNat (word.toNat / 65536 % 256)) (UInt8.ofNat (word.toNat / 16777216)) = word := by
  apply UInt32.toNat_inj.mp
  have h := word.toNat_lt
  simp only [toUInt32, toNat, UInt32.toNat_ofNat', UInt8.toNat_ofNat']
  omega

end UsbComposite.LittleEndian
