import PointerBindings.Text.Stream
import PointerBindings.Xml.NameCode

/-! # Origins — where the text that is read comes from

    Text of the document itself is in its encoding, which decides about the letters of
    names, and has line ends of three kinds, which all count as one line feed.  Text
    that an entity stands for has the listed letters only, and since a carriage return
    can only have come into it by its code, it is a blank of its own there. -/

namespace PointerBindings.Xml

open Text

/-- Where text comes from. -/
inductive Origin where
  | document (a : Alphabet)
  | entity
deriving DecidableEq

namespace Origin

/-- The letters that names in the text are made of. -/
def alphabet : Origin → Alphabet
  | document a => a
  | entity => .listed

/-- What is written between quotes in the text. -/
def literal (o : Origin) (raw : Text) : Text :=
  match o with
  | document _ => unifyLineEnds raw
  | entity => raw

end Origin

end PointerBindings.Xml
