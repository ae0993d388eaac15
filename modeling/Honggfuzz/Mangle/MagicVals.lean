import Honggfuzz.Mangle.Basic

/-!
The table of interesting integers `mangle_Magic` draws from: 221 entries of
eight bytes, of which the first `size` (1, 2, 4 or 8) are written, in the
source's groups by width and byte order.
-/

namespace Honggfuzz.Mangle

/-- An entry of `mangleMagicVals`: `val[8]` and the number of its bytes written. -/
structure MagicVal where
  val : List UInt8
  size : Nat
  deriving DecidableEq, Repr

/-- 1B - No endianness -/
def magic1B : List MagicVal :=
  [⟨[0x00, 0x00, 0x00, 0x00, 0x00, 0x00, 0x00, 0x00], 1⟩,
    ⟨[0x01, 0x00, 0x00, 0x00, 0x00, 0x00, 0x00, 0x00], 1⟩,
    ⟨[0x02, 0x00, 0x00, 0x00, 0x00, 0x00, 0x00, 0x00], 1⟩,
    ⟨[0x03, 0x00, 0x00, 0x00, 0x00, 0x00, 0x00, 0x00], 1⟩,
    ⟨[0x04, 0x00, 0x00, 0x00, 0x00, 0x00, 0x00, 0x00], 1⟩,
    ⟨[0x05, 0x00, 0x00, 0x00, 0x00, 0x00, 0x00, 0x00], 1⟩,
    ⟨[0x06, 0x00, 0x00, 0x00, 0x00, 0x00, 0x00, 0x00], 1⟩,
    ⟨[0x07, 0x00, 0x00, 0x00, 0x00, 0x00, 0x00, 0x00], 1⟩,
    ⟨[0x08, 0x00, 0x00, 0x00, 0x00, 0x00, 0x00, 0x00], 1⟩,
    ⟨[0x09, 0x00, 0x00, 0x00, 0x00, 0x00, 0x00, 0x00], 1⟩,
    ⟨[0x0A, 0x00, 0x00, 0x00, 0x00, 0x00, 0x00, 0x00], 1⟩,
    ⟨[0x0B, 0x00, 0x00, 0x00, 0x00, 0x00, 0x00, 0x00], 1⟩,
    ⟨[0x0C, 0x00, 0x00, 0x00, 0x00, 0x00, 0x00, 0x00], 1⟩,
    ⟨[0x0D, 0x00, 0x00, 0x00, 0x00, 0x00, 0x00, 0x00], 1⟩,
    ⟨[0x0E, 0x00, 0x00, 0x00, 0x00, 0x00, 0x00, 0x00], 1⟩,
    ⟨[0x0F, 0x00, 0x00, 0x00, 0x00, 0x00, 0x00, 0x00], 1⟩,
    ⟨[0x10, 0x00, 0x00, 0x00, 0x00, 0x00, 0x00, 0x00], 1⟩,
    ⟨[0x20, 0x00, 0x00, 0x00, 0x00, 0x00, 0x00, 0x00], 1⟩,
    ⟨[0x40, 0x00, 0x00, 0x00, 0x00, 0x00, 0x00, 0x00], 1⟩,
    ⟨[0x7E, 0x00, 0x00, 0x00, 0x00, 0x00, 0x00, 0x00], 1⟩,
    ⟨[0x7F, 0x00, 0x00, 0x00, 0x00, 0x00, 0x00, 0x00], 1⟩,
    ⟨[0x80, 0x00, 0x00, 0x00, 0x00, 0x00, 0x00, 0x00], 1⟩,
    ⟨[0x81, 0x00, 0x00, 0x00, 0x00, 0x00, 0x00, 0x00], 1⟩,
    ⟨[0xC0, 0x00, 0x00, 0x00, 0x00, 0x00, 0x00, 0x00], 1⟩,
    ⟨[0xFE, 0x00, 0x00, 0x00, 0x00, 0x00, 0x00, 0x00], 1⟩,
    ⟨[0xFF, 0x00, 0x00, 0x00, 0x00, 0x00, 0x00, 0x00], 1⟩]

/-- 2B - NE -/
def magic2BNE : List MagicVal :=
  [⟨[0x00, 0x00, 0x00, 0x00, 0x00, 0x00, 0x00, 0x00], 2⟩,
    ⟨[0x01, 0x01, 0x00, 0x00, 0x00, 0x00, 0x00, 0x00], 2⟩,
    ⟨[0x80, 0x80, 0x00, 0x00, 0x00, 0x00, 0x00, 0x00], 2⟩,
    ⟨[0xFF, 0xFF, 0x00, 0x00, 0x00, 0x00, 0x00, 0x00], 2⟩]

/-- 2B - BE -/
def magic2BBE : List MagicVal :=
  [⟨[0x00, 0x01, 0x00, 0x00, 0x00, 0x00, 0x00, 0x00], 2⟩,
    ⟨[0x00, 0x02, 0x00, 0x00, 0x00, 0x00, 0x00, 0x00], 2⟩,
    ⟨[0x00, 0x03, 0x00, 0x00, 0x00, 0x00, 0x00, 0x00], 2⟩,
    ⟨[0x00, 0x04, 0x00, 0x00, 0x00, 0x00, 0x00, 0x00], 2⟩,
    ⟨[0x00, 0x05, 0x00, 0x00, 0x00, 0x00, 0x00, 0x00], 2⟩,
    ⟨[0x00, 0x06, 0x00, 0x00, 0x00, 0x00, 0x00, 0x00], 2⟩,
    ⟨[0x00, 0x07, 0x00, 0x00, 0x00, 0x00, 0x00, 0x00], 2⟩,
    ⟨[0x00, 0x08, 0x00, 0x00, 0x00, 0x00, 0x00, 0x00], 2⟩,
    ⟨[0x00, 0x09, 0x00, 0x00, 0x00, 0x00, 0x00, 0x00], 2⟩,
    ⟨[0x00, 0x0A, 0x00, 0x00, 0x00, 0x00, 0x00, 0x00], 2⟩,
    ⟨[0x00, 0x0B, 0x00, 0x00, 0x00, 0x00, 0x00, 0x00], 2⟩,
    ⟨[0x00, 0x0C, 0x00, 0x00, 0x00, 0x00, 0x00, 0x00], 2⟩,
    ⟨[0x00, 0x0D, 0x00, 0x00, 0x00, 0x00, 0x00, 0x00], 2⟩,
    ⟨[0x00, 0x0E, 0x00, 0x00, 0x00, 0x00, 0x00, 0x00], 2⟩,
    ⟨[0x00, 0x0F, 0x00, 0x00, 0x00, 0x00, 0x00, 0x00], 2⟩,
    ⟨[0x00, 0x10, 0x00, 0x00, 0x00, 0x00, 0x00, 0x00], 2⟩,
    ⟨[0x00, 0x20, 0x00, 0x00, 0x00, 0x00, 0x00, 0x00], 2⟩,
    ⟨[0x00, 0x40, 0x00, 0x00, 0x00, 0x00, 0x00, 0x00], 2⟩,
    ⟨[0x00, 0x7E, 0x00, 0x00, 0x00, 0x00, 0x00, 0x00], 2⟩,
    ⟨[0x00, 0x7F, 0x00, 0x00, 0x00, 0x00, 0x00, 0x00], 2⟩,
    ⟨[0x00, 0x80, 0x00, 0x00, 0x00, 0x00, 0x00, 0x00], 2⟩,
    ⟨[0x00, 0x81, 0x00, 0x00, 0x00, 0x00, 0x00, 0x00], 2⟩,
    ⟨[0x00, 0xC0, 0x00, 0x00, 0x00, 0x00, 0x00, 0x00], 2⟩,
    ⟨[0x00, 0xFE, 0x00, 0x00, 0x00, 0x00, 0x00, 0x00], 2⟩,
    ⟨[0x00, 0xFF, 0x00, 0x00, 0x00, 0x00, 0x00, 0x00], 2⟩,
    ⟨[0x7E, 0xFF, 0x00, 0x00, 0x00, 0x00, 0x00, 0x00], 2⟩,
    ⟨[0x7F, 0xFF, 0x00, 0x00, 0x00, 0x00, 0x00, 0x00], 2⟩,
    ⟨[0x80, 0x00, 0x00, 0x00, 0x00, 0x00, 0x00, 0x00], 2⟩,
    ⟨[0x80, 0x01, 0x00, 0x00, 0x00, 0x00, 0x00, 0x00], 2⟩,
    ⟨[0xFF, 0xFE, 0x00, 0x00, 0x00, 0x00, 0x00, 0x00], 2⟩]

/-- 2B - LE -/
def magic2BLE : List MagicVal :=
  [⟨[0x00, 0x00, 0x00, 0x00, 0x00, 0x00, 0x00, 0x00], 2⟩,
    ⟨[0x01, 0x00, 0x00, 0x00, 0x00, 0x00, 0x00, 0x00], 2⟩,
    ⟨[0x02, 0x00, 0x00, 0x00, 0x00, 0x00, 0x00, 0x00], 2⟩,
    ⟨[0x03, 0x00, 0x00, 0x00, 0x00, 0x00, 0x00, 0x00], 2⟩,
    ⟨[0x04, 0x00, 0x00, 0x00, 0x00, 0x00, 0x00, 0x00], 2⟩,
    ⟨[0x05, 0x00, 0x00, 0x00, 0x00, 0x00, 0x00, 0x00], 2⟩,
    ⟨[0x06, 0x00, 0x00, 0x00, 0x00, 0x00, 0x00, 0x00], 2⟩,
    ⟨[0x07, 0x00, 0x00, 0x00, 0x00, 0x00, 0x00, 0x00], 2⟩,
    ⟨[0x08, 0x00, 0x00, 0x00, 0x00, 0x00, 0x00, 0x00], 2⟩,
    ⟨[0x09, 0x00, 0x00, 0x00, 0x00, 0x00, 0x00, 0x00], 2⟩,
    ⟨[0x0A, 0x00, 0x00, 0x00, 0x00, 0x00, 0x00, 0x00], 2⟩,
    ⟨[0x0B, 0x00, 0x00, 0x00, 0x00, 0x00, 0x00, 0x00], 2⟩,
    ⟨[0x0C, 0x00, 0x00, 0x00, 0x00, 0x00, 0x00, 0x00], 2⟩,
    ⟨[0x0D, 0x00, 0x00, 0x00, 0x00, 0x00, 0x00, 0x00], 2⟩,
    ⟨[0x0E, 0x00, 0x00, 0x00, 0x00, 0x00, 0x00, 0x00], 2⟩,
    ⟨[0x0F, 0x00, 0x00, 0x00, 0x00, 0x00, 0x00, 0x00], 2⟩,
    ⟨[0x10, 0x00, 0x00, 0x00, 0x00, 0x00, 0x00, 0x00], 2⟩,
    ⟨[0x20, 0x00, 0x00, 0x00, 0x00, 0x00, 0x00, 0x00], 2⟩,
    ⟨[0x40, 0x00, 0x00, 0x00, 0x00, 0x00, 0x00, 0x00], 2⟩,
    ⟨[0x7E, 0x00, 0x00, 0x00, 0x00, 0x00, 0x00, 0x00], 2⟩,
    ⟨[0x7F, 0x00, 0x00, 0x00, 0x00, 0x00, 0x00, 0x00], 2⟩,
    ⟨[0x80, 0x00, 0x00, 0x00, 0x00, 0x00, 0x00, 0x00], 2⟩,
    ⟨[0x81, 0x00, 0x00, 0x00, 0x00, 0x00, 0x00, 0x00], 2⟩,
    ⟨[0xC0, 0x00, 0x00, 0x00, 0x00, 0x00, 0x00, 0x00], 2⟩,
    ⟨[0xFE, 0x00, 0x00, 0x00, 0x00, 0x00, 0x00, 0x00], 2⟩,
    ⟨[0xFF, 0x00, 0x00, 0x00, 0x00, 0x00, 0x00, 0x00], 2⟩,
    ⟨[0xFF, 0x7E, 0x00, 0x00, 0x00, 0x00, 0x00, 0x00], 2⟩,
    ⟨[0xFF, 0x7F, 0x00, 0x00, 0x00, 0x00, 0x00, 0x00], 2⟩,
    ⟨[0x00, 0x80, 0x00, 0x00, 0x00, 0x00, 0x00, 0x00], 2⟩,
    ⟨[0x01, 0x80, 0x00, 0x00, 0x00, 0x00, 0x00, 0x00], 2⟩,
    ⟨[0xFE, 0xFF, 0x00, 0x00, 0x00, 0x00, 0x00, 0x00], 2⟩]

/-- 4B - NE -/
def magic4BNE : List MagicVal :=
  [⟨[0x00, 0x00, 0x00, 0x00, 0x00, 0x00, 0x00, 0x00], 4⟩,
    ⟨[0x01, 0x01, 0x01, 0x01, 0x00, 0x00, 0x00, 0x00], 4⟩,
    ⟨[0x80, 0x80, 0x80, 0x80, 0x00, 0x00, 0x00, 0x00], 4⟩,
    ⟨[0xFF, 0xFF, 0xFF, 0xFF, 0x00, 0x00, 0x00, 0x00], 4⟩]

/-- 4B - BE -/
def magic4BBE : List MagicVal :=
  [⟨[0x00, 0x00, 0x00, 0x01, 0x00, 0x00, 0x00, 0x00], 4⟩,
    ⟨[0x00, 0x00, 0x00, 0x02, 0x00, 0x00, 0x00, 0x00], 4⟩,
    ⟨[0x00, 0x00, 0x00, 0x03, 0x00, 0x00, 0x00, 0x00], 4⟩,
    ⟨[0x00, 0x00, 0x00, 0x04, 0x00, 0x00, 0x00, 0x00], 4⟩,
    ⟨[0x00, 0x00, 0x00, 0x05, 0x00, 0x00, 0x00, 0x00], 4⟩,
    ⟨[0x00, 0x00, 0x00, 0x06, 0x00, 0x00, 0x00, 0x00], 4⟩,
    ⟨[0x00, 0x00, 0x00, 0x07, 0x00, 0x00, 0x00, 0x00], 4⟩,
    ⟨[0x00, 0x00, 0x00, 0x08, 0x00, 0x00, 0x00, 0x00], 4⟩,
    ⟨[0x00, 0x00, 0x00, 0x09, 0x00, 0x00, 0x00, 0x00], 4⟩,
    ⟨[0x00, 0x00, 0x00, 0x0A, 0x00, 0x00, 0x00, 0x00], 4⟩,
    ⟨[0x00, 0x00, 0x00, 0x0B, 0x00, 0x00, 0x00, 0x00], 4⟩,
    ⟨[0x00, 0x00, 0x00, 0x0C, 0x00, 0x00, 0x00, 0x00], 4⟩,
    ⟨[0x00, 0x00, 0x00, 0x0D, 0x00, 0x00, 0x00, 0x00], 4⟩,
    ⟨[0x00, 0x00, 0x00, 0x0E, 0x00, 0x00, 0x00, 0x00], 4⟩,
    ⟨[0x00, 0x00, 0x00, 0x0F, 0x00, 0x00, 0x00, 0x00], 4⟩,
    ⟨[0x00, 0x00, 0x00, 0x10, 0x00, 0x00, 0x00, 0x00], 4⟩,
    ⟨[0x00, 0x00, 0x00, 0x20, 0x00, 0x00, 0x00, 0x00], 4⟩,
    ⟨[0x00, 0x00, 0x00, 0x40, 0x00, 0x00, 0x00, 0x00], 4⟩,
    ⟨[0x00, 0x00, 0x00, 0x7E, 0x00, 0x00, 0x00, 0x00], 4⟩,
    ⟨[0x00, 0x00, 0x00, 0x7F, 0x00, 0x00, 0x00, 0x00], 4⟩,
    ⟨[0x00, 0x00, 0x00, 0x80, 0x00, 0x00, 0x00, 0x00], 4⟩,
    ⟨[0x00, 0x00, 0x00, 0x81, 0x00, 0x00, 0x00, 0x00], 4⟩,
    ⟨[0x00, 0x00, 0x00, 0xC0, 0x00, 0x00, 0x00, 0x00], 4⟩,
    ⟨[0x00, 0x00, 0x00, 0xFE, 0x00, 0x00, 0x00, 0x00], 4⟩,
    ⟨[0x00, 0x00, 0x00, 0xFF, 0x00, 0x00, 0x00, 0x00], 4⟩,
    ⟨[0x7E, 0xFF, 0xFF, 0xFF, 0x00, 0x00, 0x00, 0x00], 4⟩,
    ⟨[0x7F, 0xFF, 0xFF, 0xFF, 0x00, 0x00, 0x00, 0x00], 4⟩,
    ⟨[0x80, 0x00, 0x00, 0x00, 0x00, 0x00, 0x00, 0x00], 4⟩,
    ⟨[0x80, 0x00, 0x00, 0x01, 0x00, 0x00, 0x00, 0x00], 4⟩,
    ⟨[0xFF, 0xFF, 0xFF, 0xFE, 0x00, 0x00, 0x00, 0x00], 4⟩]

/-- 4B - LE -/
def magic4BLE : List MagicVal :=
  [⟨[0x00, 0x00, 0x00, 0x00, 0x00, 0x00, 0x00, 0x00], 4⟩,
    ⟨[0x01, 0x00, 0x00, 0x00, 0x00, 0x00, 0x00, 0x00], 4⟩,
    ⟨[0x02, 0x00, 0x00, 0x00, 0x00, 0x00, 0x00, 0x00], 4⟩,
    ⟨[0x03, 0x00, 0x00, 0x00, 0x00, 0x00, 0x00, 0x00], 4⟩,
    ⟨[0x04, 0x00, 0x00, 0x00, 0x00, 0x00, 0x00, 0x00], 4⟩,
    ⟨[0x05, 0x00, 0x00, 0x00, 0x00, 0x00, 0x00, 0x00], 4⟩,
    ⟨[0x06, 0x00, 0x00, 0x00, 0x00, 0x00, 0x00, 0x00], 4⟩,
    ⟨[0x07, 0x00, 0x00, 0x00, 0x00, 0x00, 0x00, 0x00], 4⟩,
    ⟨[0x08, 0x00, 0x00, 0x00, 0x00, 0x00, 0x00, 0x00], 4⟩,
    ⟨[0x09, 0x00, 0x00, 0x00, 0x00, 0x00, 0x00, 0x00], 4⟩,
    ⟨[0x0A, 0x00, 0x00, 0x00, 0x00, 0x00, 0x00, 0x00], 4⟩,
    ⟨[0x0B, 0x00, 0x00, 0x00, 0x00, 0x00, 0x00, 0x00], 4⟩,
    ⟨[0x0C, 0x00, 0x00, 0x00, 0x00, 0x00, 0x00, 0x00], 4⟩,
    ⟨[0x0D, 0x00, 0x00, 0x00, 0x00, 0x00, 0x00, 0x00], 4⟩,
    ⟨[0x0E, 0x00, 0x00, 0x00, 0x00, 0x00, 0x00, 0x00], 4⟩,
    ⟨[0x0F, 0x00, 0x00, 0x00, 0x00, 0x00, 0x00, 0x00], 4⟩,
    ⟨[0x10, 0x00, 0x00, 0x00, 0x00, 0x00, 0x00, 0x00], 4⟩,
    ⟨[0x20, 0x00, 0x00, 0x00, 0x00, 0x00, 0x00, 0x00], 4⟩,
    ⟨[0x40, 0x00, 0x00, 0x00, 0x00, 0x00, 0x00, 0x00], 4⟩,
    ⟨[0x7E, 0x00, 0x00, 0x00, 0x00, 0x00, 0x00, 0x00], 4⟩,
    ⟨[0x7F, 0x00, 0x00, 0x00, 0x00, 0x00, 0x00, 0x00], 4⟩,
    ⟨[0x80, 0x00, 0x00, 0x00, 0x00, 0x00, 0x00, 0x00], 4⟩,
    ⟨[0x81, 0x00, 0x00, 0x00, 0x00, 0x00, 0x00, 0x00], 4⟩,
    ⟨[0xC0, 0x00, 0x00, 0x00, 0x00, 0x00, 0x00, 0x00], 4⟩,
    ⟨[0xFE, 0x00, 0x00, 0x00, 0x00, 0x00, 0x00, 0x00], 4⟩,
    ⟨[0xFF, 0x00, 0x00, 0x00, 0x00, 0x00, 0x00, 0x00], 4⟩,
    ⟨[0xFF, 0xFF, 0xFF, 0x7E, 0x00, 0x00, 0x00, 0x00], 4⟩,
    ⟨[0xFF, 0xFF, 0xFF, 0x7F, 0x00, 0x00, 0x00, 0x00], 4⟩,
    ⟨[0x00, 0x00, 0x00, 0x80, 0x00, 0x00, 0x00, 0x00], 4⟩,
    ⟨[0x01, 0x00, 0x00, 0x80, 0x00, 0x00, 0x00, 0x00], 4⟩,
    ⟨[0xFE, 0xFF, 0xFF, 0xFF, 0x00, 0x00, 0x00, 0x00], 4⟩]

/-- 8B - NE -/
def magic8BNE : List MagicVal :=
  [⟨[0x00, 0x00, 0x00, 0x00, 0x00, 0x00, 0x00, 0x00], 8⟩,
    ⟨[0x01, 0x01, 0x01, 0x01, 0x01, 0x01, 0x01, 0x01], 8⟩,
    ⟨[0x80, 0x80, 0x80, 0x80, 0x80, 0x80, 0x80, 0x80], 8⟩,
    ⟨[0xFF, 0xFF, 0xFF, 0xFF, 0xFF, 0xFF, 0xFF, 0xFF], 8⟩]

/-- 8B - BE -/
def magic8BBE : List MagicVal :=
  [⟨[0x00, 0x00, 0x00, 0x00, 0x00, 0x00, 0x00, 0x01], 8⟩,
    ⟨[0x00, 0x00, 0x00, 0x00, 0x00, 0x00, 0x00, 0x02], 8⟩,
    ⟨[0x00, 0x00, 0x00, 0x00, 0x00, 0x00, 0x00, 0x03], 8⟩,
    ⟨[0x00, 0x00, 0x00, 0x00, 0x00, 0x00, 0x00, 0x04], 8⟩,
    ⟨[0x00, 0x00, 0x00, 0x00, 0x00, 0x00, 0x00, 0x05], 8⟩,
    ⟨[0x00, 0x00, 0x00, 0x00, 0x00, 0x00, 0x00, 0x06], 8⟩,
    ⟨[0x00, 0x00, 0x00, 0x00, 0x00, 0x00, 0x00, 0x07], 8⟩,
    ⟨[0x00, 0x00, 0x00, 0x00, 0x00, 0x00, 0x00, 0x08], 8⟩,
    ⟨[0x00, 0x00, 0x00, 0x00, 0x00, 0x00, 0x00, 0x09], 8⟩,
    ⟨[0x00, 0x00, 0x00, 0x00, 0x00, 0x00, 0x00, 0x0A], 8⟩,
    ⟨[0x00, 0x00, 0x00, 0x00, 0x00, 0x00, 0x00, 0x0B], 8⟩,
    ⟨[0x00, 0x00, 0x00, 0x00, 0x00, 0x00, 0x00, 0x0C], 8⟩,
    ⟨[0x00, 0x00, 0x00, 0x00, 0x00, 0x00, 0x00, 0x0D], 8⟩,
    ⟨[0x00, 0x00, 0x00, 0x00, 0x00, 0x00, 0x00, 0x0E], 8⟩,
    ⟨[0x00, 0x00, 0x00, 0x00, 0x00, 0x00, 0x00, 0x0F], 8⟩,
    ⟨[0x00, 0x00, 0x00, 0x00, 0x00, 0x00, 0x00, 0x10], 8⟩,
    ⟨[0x00, 0x00, 0x00, 0x00, 0x00, 0x00, 0x00, 0x20], 8⟩,
    ⟨[0x00, 0x00, 0x00, 0x00, 0x00, 0x00, 0x00, 0x40], 8⟩,
    ⟨[0x00, 0x00, 0x00, 0x00, 0x00, 0x00, 0x00, 0x7E], 8⟩,
    ⟨[0x00, 0x00, 0x00, 0x00, 0x00, 0x00, 0x00, 0x7F], 8⟩,
    ⟨[0x00, 0x00, 0x00, 0x00, 0x00, 0x00, 0x00, 0x80], 8⟩,
    ⟨[0x00, 0x00, 0x00, 0x00, 0x00, 0x00, 0x00, 0x81], 8⟩,
    ⟨[0x00, 0x00, 0x00, 0x00, 0x00, 0x00, 0x00, 0xC0], 8⟩,
    ⟨[0x00, 0x00, 0x00, 0x00, 0x00, 0x00, 0x00, 0xFE], 8⟩,
    ⟨[0x00, 0x00, 0x00, 0x00, 0x00, 0x00, 0x00, 0xFF], 8⟩,
    ⟨[0x7E, 0xFF, 0xFF, 0xFF, 0xFF, 0xFF, 0xFF, 0xFF], 8⟩,
    ⟨[0x7F, 0xFF, 0xFF, 0xFF, 0xFF, 0xFF, 0xFF, 0xFF], 8⟩,
    ⟨[0x80, 0x00, 0x00, 0x00, 0x00, 0x00, 0x00, 0x00], 8⟩,
    ⟨[0x80, 0x00, 0x00, 0x00, 0x00, 0x00, 0x00, 0x01], 8⟩,
    ⟨[0xFF, 0xFF, 0xFF, 0xFF, 0xFF, 0xFF, 0xFF, 0xFE], 8⟩]

/-- 8B - LE -/
def magic8BLE : List MagicVal :=
  [⟨[0x00, 0x00, 0x00, 0x00, 0x00, 0x00, 0x00, 0x00], 8⟩,
    ⟨[0x01, 0x00, 0x00, 0x00, 0x00, 0x00, 0x00, 0x00], 8⟩,
    ⟨[0x02, 0x00, 0x00, 0x00, 0x00, 0x00, 0x00, 0x00], 8⟩,
    ⟨[0x03, 0x00, 0x00, 0x00, 0x00, 0x00, 0x00, 0x00], 8⟩,
    ⟨[0x04, 0x00, 0x00, 0x00, 0x00, 0x00, 0x00, 0x00], 8⟩,
    ⟨[0x05, 0x00, 0x00, 0x00, 0x00, 0x00, 0x00, 0x00], 8⟩,
    ⟨[0x06, 0x00, 0x00, 0x00, 0x00, 0x00, 0x00, 0x00], 8⟩,
    ⟨[0x07, 0x00, 0x00, 0x00, 0x00, 0x00, 0x00, 0x00], 8⟩,
    ⟨[0x08, 0x00, 0x00, 0x00, 0x00, 0x00, 0x00, 0x00], 8⟩,
    ⟨[0x09, 0x00, 0x00, 0x00, 0x00, 0x00, 0x00, 0x00], 8⟩,
    ⟨[0x0A, 0x00, 0x00, 0x00, 0x00, 0x00, 0x00, 0x00], 8⟩,
    ⟨[0x0B, 0x00, 0x00, 0x00, 0x00, 0x00, 0x00, 0x00], 8⟩,
    ⟨[0x0C, 0x00, 0x00, 0x00, 0x00, 0x00, 0x00, 0x00], 8⟩,
    ⟨[0x0D, 0x00, 0x00, 0x00, 0x00, 0x00, 0x00, 0x00], 8⟩,
    ⟨[0x0E, 0x00, 0x00, 0x00, 0x00, 0x00, 0x00, 0x00], 8⟩,
    ⟨[0x0F, 0x00, 0x00, 0x00, 0x00, 0x00, 0x00, 0x00], 8⟩,
    ⟨[0x10, 0x00, 0x00, 0x00, 0x00, 0x00, 0x00, 0x00], 8⟩,
    ⟨[0x20, 0x00, 0x00, 0x00, 0x00, 0x00, 0x00, 0x00], 8⟩,
    ⟨[0x40, 0x00, 0x00, 0x00, 0x00, 0x00, 0x00, 0x00], 8⟩,
    ⟨[0x7E, 0x00, 0x00, 0x00, 0x00, 0x00, 0x00, 0x00], 8⟩,
    ⟨[0x7F, 0x00, 0x00, 0x00, 0x00, 0x00, 0x00, 0x00], 8⟩,
    ⟨[0x80, 0x00, 0x00, 0x00, 0x00, 0x00, 0x00, 0x00], 8⟩,
    ⟨[0x81, 0x00, 0x00, 0x00, 0x00, 0x00, 0x00, 0x00], 8⟩,
    ⟨[0xC0, 0x00, 0x00, 0x00, 0x00, 0x00, 0x00, 0x00], 8⟩,
    ⟨[0xFE, 0x00, 0x00, 0x00, 0x00, 0x00, 0x00, 0x00], 8⟩,
    ⟨[0xFF, 0x00, 0x00, 0x00, 0x00, 0x00, 0x00, 0x00], 8⟩,
    ⟨[0xFF, 0xFF, 0xFF, 0xFF, 0xFF, 0xFF, 0xFF, 0x7E], 8⟩,
    ⟨[0xFF, 0xFF, 0xFF, 0xFF, 0xFF, 0xFF, 0xFF, 0x7F], 8⟩,
    ⟨[0x00, 0x00, 0x00, 0x00, 0x00, 0x00, 0x00, 0x80], 8⟩,
    ⟨[0x01, 0x00, 0x00, 0x00, 0x00, 0x00, 0x00, 0x80], 8⟩,
    ⟨[0xFE, 0xFF, 0xFF, 0xFF, 0xFF, 0xFF, 0xFF, 0xFF], 8⟩]

/-- The static table `mangleMagicVals` of `mangle_Magic`. -/
def mangleMagicVals : List MagicVal :=
  magic1B ++ magic2BNE ++ magic2BBE ++ magic2BLE ++ magic4BNE ++ magic4BBE ++ magic4BLE ++
    magic8BNE ++ magic8BBE ++ magic8BLE

theorem mangleMagicVals_length : mangleMagicVals.length = 221 := by
  simp only [mangleMagicVals, List.length_append]
  rfl

/-- An entry holds eight bytes and writes 1, 2, 4 or 8 of them. -/
def MagicVal.WellFormed (magic : MagicVal) : Prop :=
  magic.val.length = 8 ∧ (magic.size = 1 ∨ magic.size = 2 ∨ magic.size = 4 ∨ magic.size = 8)

instance : DecidablePred MagicVal.WellFormed := fun magic =>
  inferInstanceAs (Decidable (magic.val.length = 8 ∧ _))

theorem mangleMagicVals_wellFormed : ∀ magic ∈ mangleMagicVals, magic.WellFormed := by
  simp only [mangleMagicVals, List.forall_mem_append, and_assoc]
  refine ⟨?_, ?_, ?_, ?_, ?_, ?_, ?_, ?_, ?_, ?_⟩ <;> decide

/-- Whatever index `mangle_Magic` draws, its `size` never exceeds its `val`. -/
theorem mangleMagicVals_size_le (choice : Nat) :
    (mangleMagicVals.getD choice ⟨[], 0⟩).size ≤ (mangleMagicVals.getD choice ⟨[], 0⟩).val.length := by
  rcases getD_mem_or_eq mangleMagicVals choice ⟨[], 0⟩ with member | fallback
  · obtain ⟨eight, width⟩ := mangleMagicVals_wellFormed _ member
    omega
  · rw [fallback]
    exact Nat.le_refl 0

end Honggfuzz.Mangle
