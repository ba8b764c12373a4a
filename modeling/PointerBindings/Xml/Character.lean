import PointerBindings.Text.Basic

/-! # Document characters — what a document may be written in

    A document holds no control characters but the three that separate words and
    lines, and neither of the two codes at the end of the basic plane.  The rule holds
    for characters that stand in the document and for those that are given by their
    code. -/

namespace PointerBindings.Xml

/-- The character separates the parts of a tag. -/
def isSpace (c : Char) : Bool :=
  c == ' ' || c == '\n' || c == '\t' || c == '\r'

/-- The character may stand in a document. -/
def isDocumentChar (c : Char) : Bool :=
  (isSpace c || Nat.ble 32 c.toNat) && c.toNat != 0xFFFE && c.toNat != 0xFFFF

/-- The document character with a given code. -/
def characterOf? (code : Nat) : Option Char :=
  if code.isValidChar && isDocumentChar (Char.ofNat code) then some (Char.ofNat code) else none

end PointerBindings.Xml
