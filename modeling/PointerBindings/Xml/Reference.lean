import PointerBindings.Xml.Name

/-! # References — characters by their code and entities by their name

    A reference stands between an ampersand and a semicolon.  It gives a character by
    its code, in decimal or hexadecimal digits, or names an entity.  Five entities are
    there without being declared, and declaring them anew changes nothing.  A value in
    quotes is read as characters and references before anything in it is replaced. -/

namespace PointerBindings.Xml

open Text

/-- A character given by its code, or an entity given by its name. -/
inductive Reference where
  | character (c : Char)
  | entity (name : Text)
deriving DecidableEq

/-- The number that hexadecimal digits stand for. -/
def hexValue (digits : Text) : Nat :=
  digits.foldl (fun n c =>
    16 * n + (if c.isDigit then c.toNat - 48 else c.toLower.toNat - 87)) 0

/-- The number that decimal digits stand for. -/
def decimalValue (digits : Text) : Nat :=
  digits.foldl (fun n c => 10 * n + (c.toNat - 48)) 0

/-- The character is a hexadecimal digit. -/
def isHexDigit (c : Char) : Bool :=
  c.isDigit || ('a' ≤ c.toLower && c.toLower ≤ 'f')

/-- Takes the code of a character off. -/
def readCode : Reader Nat := do
  if ← Reader.optional ['x'] then
    return hexValue (← Reader.run1 isHexDigit)
  else
    return decimalValue (← Reader.run1 Char.isDigit)

/-- Takes a reference off, the ampersand before it already gone. -/
def Reference.read (a : Alphabet) : Reader Reference := do
  if ← Reader.optional ['#'] then
    let code ← readCode
    Reader.literal [';']
    match characterOf? code with
    | some c => return .character c
    | none => failure
  else
    let name ← readSimpleName a
    Reader.literal [';']
    return .entity name

/-- The character of an entity that needs no declaration. -/
def predefined? (name : Text) : Option Char :=
  [("lt".toList, '<'), ("gt".toList, '>'), ("amp".toList, '&'),
    ("apos".toList, Char.ofNat 39), ("quot".toList, '"')].lookup name

/-- A piece of a value in quotes. -/
inductive ValuePiece where
  | plain (c : Char)
  | reference (r : Reference)
deriving DecidableEq

/-- Takes a piece of a value off, if there is one left. -/
def ValuePiece.read? (a : Alphabet) : Reader (Option ValuePiece) := do
  match ← Reader.next? with
  | none => return none
  | some _ =>
      match ← Reader.character with
      | '&' => return some (.reference (← Reference.read a))
      | c => return some (.plain c)

/-- The pieces of a value. -/
def valuePieces? (a : Alphabet) (raw : Text) : Option (List ValuePiece) :=
  Reader.whole? (Reader.many (ValuePiece.read? a)) raw

/-- Single spaces between the words of a list. -/
def collapseSpaces (value : Text) : Text :=
  joined [' '] ((splitAt ' ' value).filter fun word => !word.isEmpty)

end PointerBindings.Xml
