import SlopLint.Text.IntervalMap

/-!
# Decimal digits

Every script writes its ten decimal digits as consecutive code points in ascending order, so a
block is known by its zero and the value of a digit is its distance from that zero.
-/

namespace SlopLint.Text

/-- The zeros of the decimal digit blocks above ASCII; each zero starts ten consecutive digits. -/
def digitZeros : List Nat := [
  1632, 1776, 1984, 2406, 2534, 2662, 2790, 2918, 3046, 3174, 3302, 3430, 3558, 3664, 3792, 3872,
  4160, 4240, 6112, 6160, 6470, 6608, 6784, 6800, 6992, 7088, 7232, 7248, 42528, 43216, 43264,
  43472, 43504, 43600, 44016, 65296, 66720, 68912, 69734, 69872, 69942, 70096, 70384, 70736, 70864,
  71248, 71360, 71472, 71904, 72016, 72784, 73040, 73120, 92768, 92864, 93008, 120782, 120792,
  120802, 120812, 120822, 123200, 123632, 125264, 130032]

/-- The decimal digit blocks above ASCII, ready for look-up. -/
def digitBlocks : IntervalMap Unit := .ofRanges (digitZeros.map fun z => (z, z + 9))

/-- The value of a decimal digit of any script. -/
def digitValue? (c : Char) : Option Nat :=
  if c.toNat < 128 then
    if c.isDigit then some (c.toNat - 48) else none
  else
    (digitBlocks.find? c.toNat).map fun block => c.toNat - block.1

/-- A decimal digit of any script: the general category Nd. -/
def isDecimal (c : Char) : Bool :=
  (digitValue? c).isSome

end SlopLint.Text
