import PointerBindings.Text.Basic

/-! # Blanks — trimming and words

    A blank is a character that separates and carries nothing: the spaces of
    every width, the line ends and the four information separators.  Zero-width
    characters are not blanks.  Trimming takes blanks off both ends; the words of
    a text are its maximal runs of other characters. -/

namespace PointerBindings.Text

/-- The character separates words. -/
def isBlank (c : Char) : Bool :=
  let n := c.toNat
  (Nat.ble 9 n && Nat.ble n 13) || (Nat.ble 28 n && Nat.ble n 32) || n == 133 || n == 160
    || n == 5760 || (Nat.ble 8192 n && Nat.ble n 8202) || n == 8232 || n == 8233 || n == 8239
    || n == 8287 || n == 12288

/-- The text without the blanks it begins with. -/
def trimStart (t : Text) : Text :=
  t.dropWhile isBlank

/-- The text without the blanks it ends with. -/
def trimEnd (t : Text) : Text :=
  (t.reverse.dropWhile isBlank).reverse

/-- The text without the blanks at its ends. -/
def trim (t : Text) : Text :=
  trimEnd (trimStart t)

/-- The text has no character but blanks. -/
def allBlank (t : Text) : Bool :=
  t.all isBlank

/-- The maximal runs of characters that are not blanks, in order. -/
def words : Text → List Text
  | [] => []
  | c :: rest =>
      if isBlank c then words rest
      else
        match rest with
        | [] => [[c]]
        | d :: _ => if isBlank d then [c] :: words rest else consFirst c (words rest)

end PointerBindings.Text
