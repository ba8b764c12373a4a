import PointerBindings.Text.Basic
import PointerBindings.Text.Printable

/-! # Quoted texts — a value shown between quotation marks

    A text that is shown inside a message stands between apostrophes, or between
    double quotes if it holds an apostrophe and no double quote.  The mark itself
    and the backslash are escaped, three line controls have letters of their own,
    and every other character that leaves no mark is shown by its code in the
    shortest of three widths. -/

namespace PointerBindings.Text

/-- The apostrophe. -/
def apostrophe : Char :=
  Char.ofNat 39

/-- The digit of a value below sixteen, letters small. -/
def hexDigit (n : Nat) : Char :=
  Char.ofNat (if n < 10 then 48 + n else 87 + n)

/-- The last `width` digits of a number in base sixteen. -/
def hexDigits (width n : Nat) : Text :=
  match width with
  | 0 => []
  | w + 1 => hexDigits w (n / 16) ++ [hexDigit (n % 16)]

/-- A code shown as an escape of two, four or eight digits. -/
def escapedCode (n : Nat) : Text :=
  if n < 256 then '\\' :: 'x' :: hexDigits 2 n
  else if n < 65536 then '\\' :: 'u' :: hexDigits 4 n
  else '\\' :: 'U' :: hexDigits 8 n

/-- One character as it stands between the given marks. -/
def escaped (mark c : Char) : Text :=
  if c = mark || c = '\\' then ['\\', c]
  else if c = '\n' then ['\\', 'n']
  else if c = '\r' then ['\\', 'r']
  else if c = '\t' then ['\\', 't']
  else if isPrintable c then [c]
  else escapedCode c.toNat

/-- The mark that a text is quoted with. -/
def quoteMark (t : Text) : Char :=
  if t.contains apostrophe && !t.contains '"' then '"' else apostrophe

/-- A text between quotation marks. -/
def quoted (t : Text) : Text :=
  let mark := quoteMark t
  mark :: (t.flatMap (escaped mark) ++ [mark])

end PointerBindings.Text
