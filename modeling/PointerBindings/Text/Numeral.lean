import PointerBindings.Text.Blank
import PointerBindings.Text.DecimalDigit

/-! # Numerals — whole numbers written and read

    A number is written in plain decimal digits.  It is read more freely: blanks
    may surround it, a sign may stand in front, the digits may be those of any
    script, and single underscores may stand between digits.  The information
    separators, which are blanks elsewhere, do not pad a number, and a numeral of
    more than 4300 digits is not read at all. -/

namespace PointerBindings.Text

/-- A number in decimal digits. -/
def decimal (n : Nat) : Text :=
  (Nat.repr n).toList

/-- A whole number in decimal digits with its sign. -/
def signedDecimal (n : Int) : Text :=
  (if n < 0 then ['-'] else []) ++ decimal n.natAbs

/-- The character may surround a numeral. -/
def padsNumeral (c : Char) : Bool :=
  isBlank c && !(Nat.ble 28 c.toNat && Nat.ble c.toNat 31)

/-- The values of the digits, where single underscores may stand between them. -/
def digitValues? : Text → Option (List Nat)
  | [] => none
  | [c] => (digitValue? c).map fun d => [d]
  | c :: '_' :: rest => do
      let d ← digitValue? c
      let ds ← digitValues? rest
      return d :: ds
  | c :: rest => do
      let d ← digitValue? c
      let ds ← digitValues? rest
      return d :: ds

/-- The number that digits spell, leading digit first. -/
def ofDigits (ds : List Nat) : Nat :=
  ds.foldl (fun n d => 10 * n + d) 0

/-- The most digits that a numeral may have. -/
def longestNumeral : Nat :=
  4300

/-- The number that unsigned digits spell. -/
def readDigits? (t : Text) : Option Nat := do
  let ds ← digitValues? t
  if ds.length ≤ longestNumeral then some (ofDigits ds) else none

/-- The whole number that a text spells. -/
def readInteger? (t : Text) : Option Int :=
  let core := ((t.dropWhile padsNumeral).reverse.dropWhile padsNumeral).reverse
  match core with
  | '-' :: rest => (readDigits? rest).map fun n => -(n : Int)
  | '+' :: rest => (readDigits? rest).map fun n => (n : Int)
  | rest => (readDigits? rest).map fun n => (n : Int)

end PointerBindings.Text
