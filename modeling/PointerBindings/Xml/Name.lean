import PointerBindings.Text.Reader
import PointerBindings.Xml.Character
import PointerBindings.Xml.NameCode

/-! # Names — of elements, attributes and entities

    A simple name begins with a letter and has no colon.  An element or attribute may
    have a label in front of its name, a colon between them; both sides are simple
    names then. -/

namespace PointerBindings.Xml

open Text

/-- Takes a name without a colon off. -/
def readSimpleName (a : Alphabet) : Reader Text := do
  match ← Reader.next? with
  | some c => if a.isNameStart c then Reader.run a.isNameChar else failure
  | none => failure

/-- Takes a name off, with its label if it has one. -/
def readName (a : Alphabet) : Reader Text := do
  let first ← readSimpleName a
  if ← Reader.optional [':'] then
    let second ← readSimpleName a
    return first ++ ':' :: second
  else return first

/-- A name apart from its label. -/
def divideLabel (name : Text) : Option Text × Text :=
  match cutFirst ':' name with
  | some (label, base) => (some label, base)
  | none => (none, name)

/-- Takes blanks off. -/
def skipSpace : Reader Unit := do
  let _ ← Reader.run isSpace

/-- Takes at least one blank off. -/
def needSpace : Reader Unit := do
  let _ ← Reader.run1 isSpace

end PointerBindings.Xml
