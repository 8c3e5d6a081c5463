/-!
# UTF-16

A character below `0x10000` is one unit; any other is a **pair**, a high surrogate followed by a low
one, which together carry the twenty bits of its number less `0x10000`. The decoder accepts
well-formed text only: each surrogate must stand in a pair.
-/

namespace UsbComposite.Utf16

/-- The units of one character. -/
def units (c : Char) : List UInt16 :=
  if c.toNat < 0x10000 then [UInt16.ofNat c.toNat]
  else
    [UInt16.ofNat (0xD800 + (c.toNat - 0x10000) / 0x400),
      UInt16.ofNat (0xDC00 + (c.toNat - 0x10000) % 0x400)]

/-- The units of a text, character after character. -/
def encode (text : List Char) : List UInt16 :=
  text.flatMap units

/-- Whether a unit may only open a pair. -/
def isHigh (unit : UInt16) : Bool :=
  0xD800 ≤ unit.toNat && unit.toNat < 0xDC00

/-- Whether a unit may only close a pair. -/
def isLow (unit : UInt16) : Bool :=
  0xDC00 ≤ unit.toNat && unit.toNat < 0xE000

/-- The character that a pair stands for. -/
def ofPair (high low : UInt16) : Char :=
  Char.ofNat (0x10000 + 0x400 * (high.toNat - 0xD800) + (low.toNat - 0xDC00))

/-- The text that well-formed units stand for. -/
def decode? : List UInt16 → Option (List Char)
  | [] => some []
  | [unit] => if isHigh unit || isLow unit then none else some [Char.ofNat unit.toNat]
  | unit :: next :: rest =>
    if isHigh unit then
      if isLow next then (decode? rest).map (ofPair unit next :: ·) else none
    else if isLow unit then none
    else (decode? (next :: rest)).map (Char.ofNat unit.toNat :: ·)

end UsbComposite.Utf16
