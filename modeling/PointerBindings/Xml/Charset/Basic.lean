import PointerBindings.Text.Basic

/-! # Character sets — one byte for each character

    The lower half of a set is ASCII, perhaps not all of it; the upper half has up to
    128 characters of its own.  A byte that stands for none is shown as a space in the
    tables, because no upper half has a space. -/

namespace PointerBindings.Xml

open Text

/-- The names of a set: its own, and others that it goes by. -/
structure CharsetName where
  name : String
  aliases : List String

/-- A set with its names and its upper half. -/
structure NamedCharset where
  names : CharsetName
  upper : String

/-- The set goes by the given name; other names than its own may have a point for an
    underscore. -/
def CharsetName.fits (n : CharsetName) (plain : Text) : Bool :=
  n.name.toList = plain
    || n.aliases.any fun other => other.toList = plain || other.toList = exchange '.' '_' plain

/-- A set whose characters take one byte each. -/
structure Charset where
  /-- The characters of the bytes from 128 on. -/
  upper : List (Option Char)
  /-- The characters of the lower half that the set lacks. -/
  lacking : List Char := []
deriving DecidableEq

namespace Charset

/-- The set with a given upper half. -/
def ofUpper (upper : Text) : Charset :=
  ⟨upper.map fun c => if c = ' ' then none else some c, []⟩

/-- The set with an empty upper half. -/
def ascii : Charset :=
  ⟨[], []⟩

/-- The set with an empty upper half and without a tilde. -/
def tildeless : Charset :=
  ⟨[], ['~']⟩

/-- The set whose upper half has the characters with the codes from 128 on. -/
def latin : Charset :=
  ⟨(List.range 128).map fun n => some (Char.ofNat (n + 128)), []⟩

/-- The character that a byte stands for. -/
def character? (s : Charset) (byte : UInt8) : Option Char :=
  if byte.toNat < 128 then
    let c := Char.ofNat byte.toNat
    if s.lacking.contains c then none else some c
  else (s.upper[byte.toNat - 128]?).join

/-- The characters that bytes stand for. -/
def decode? (s : Charset) (bytes : List UInt8) : Option Text :=
  bytes.mapM s.character?

end Charset

end PointerBindings.Xml
