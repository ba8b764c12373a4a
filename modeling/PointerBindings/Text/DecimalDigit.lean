import PointerBindings.Text.Basic

/-! # Decimal digits — the ten digits of every script

    A script writes its digits zero to nine in a row of ten codes, so the codes of
    the zeros describe them all: a character is a digit when it lies within ten of
    a zero, and its value is how far it lies from it. -/

namespace PointerBindings.Text

/-- The codes of the zeros, ascending; each is followed by its digits one to nine. -/
def digitZeros : List Nat :=
  [48, 1632, 1776, 1984, 2406, 2534, 2662, 2790, 2918, 3046, 3174, 3302, 3430, 3558, 3664, 3792,
   3872, 4160, 4240, 6112, 6160, 6470, 6608, 6784, 6800, 6992, 7088, 7232, 7248, 42528, 43216,
   43264, 43472, 43504, 43600, 44016, 65296, 66720, 68912, 69734, 69872, 69942, 70096, 70384,
   70736, 70864, 71248, 71360, 71472, 71904, 72016, 72784, 73040, 73120, 92768, 92864, 93008,
   120782, 120792, 120802, 120812, 120822, 123200, 123632, 125264, 130032]

/-- What a decimal digit of any script counts. -/
def digitValue? (c : Char) : Option Nat :=
  (digitZeros.find? fun z => Nat.ble z c.toNat && Nat.ble c.toNat (z + 9)).map
    fun z => c.toNat - z

/-- The character is a decimal digit of some script. -/
def isDecimalDigit (c : Char) : Bool :=
  (digitValue? c).isSome

end PointerBindings.Text
