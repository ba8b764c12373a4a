import PointerBindings.Text.Utf8
import PointerBindings.Xml.Charset.Name
import PointerBindings.Xml.Declaration

/-! # Encodings — the bytes of a document read as characters

    The first bytes of a document tell whether its characters take one byte or two: a
    byte order mark does, and without one a null byte in one of the first two places.
    A document of single bytes may then declare how they are meant; a document of double
    bytes may only declare what it already is.  A declared name that is none of the
    encodings known here is looked up among the character sets. -/

namespace PointerBindings.Xml

open Text

/-- Why the bytes are no document. -/
inductive DocumentFault where
  | notWellFormed
  /-- The document declares a character set that nobody knows. -/
  | unknownCharset
  /-- The document declares a set that takes more than one byte for some characters. -/
  | multiByteCharset
  /-- The document declares something that is no set of characters. -/
  | failingCharset (name reason : Text)
  /-- The document declares a way to write names. -/
  | nameWriting
deriving DecidableEq

/-- The fault in words; an unknown set has none. -/
def DocumentFault.message : DocumentFault → Text
  | .notWellFormed => "XML parsing error".toList
  | .unknownCharset => []
  | .multiByteCharset => "multi-byte encodings are not supported".toList
  | .failingCharset name reason =>
      "decoding with '".toList ++ name ++ "' codec failed (UnicodeError: ".toList ++ reason ++ [')']
  | .nameWriting =>
      "'ascii' codec can't decode byte 0x80 in position 82: ordinal not in range(128)".toList

/-- How the characters of a document are written as bytes. -/
inductive Encoding where
  | utf8
  | latin1
  | ascii
  | charset (set : Charset)
  | utf16 (highFirst : Bool)
deriving DecidableEq

namespace Encoding

/-- The encoding that the first bytes show, and the bytes behind the mark. -/
def detect : List UInt8 → Encoding × List UInt8
  | 0xEF :: 0xBB :: 0xBF :: rest => (utf8, rest)
  | 0xFE :: 0xFF :: rest => (utf16 true, rest)
  | 0xFF :: 0xFE :: rest => (utf16 false, rest)
  | 0 :: rest => (utf16 true, 0 :: rest)
  | b :: 0 :: rest => (utf16 false, b :: 0 :: rest)
  | bytes => (utf8, bytes)

/-- The encodings that need no character set, by their names in small letters. -/
def declarable : List (Text × List Encoding) :=
  [("utf-8".toList, [utf8]), ("iso-8859-1".toList, [latin1]), ("us-ascii".toList, [ascii]),
   ("utf-16".toList, [utf16 true, utf16 false]), ("utf-16be".toList, [utf16 true]),
   ("utf-16le".toList, [utf16 false])]

/-- Every character takes a whole number of single bytes. -/
def isByteWise : Encoding → Bool
  | utf16 _ => false
  | _ => true

/-- The letters of names; the first 256 codes of two encodings have a table of their own,
    which widens the alphabet. -/
def alphabet : Encoding → Alphabet
  | latin1 | utf16 _ => .widened
  | _ => .listed

/-- How many bytes a character takes. -/
def width : Encoding → Char → Nat
  | utf8, c => c.utf8Size
  | utf16 _, c => if c.toNat < 0x10000 then 2 else 4
  | _, _ => 1

/-- The encoding of a document that shows one and declares another that needs no set. -/
def agreed (shown : Encoding) (candidates : List Encoding) : Except DocumentFault Encoding :=
  let fits (e : Encoding) : Bool := if shown.isByteWise then e.isByteWise else e = shown
  match candidates.find? fits with
  | some e => .ok e
  | none => .error .notWellFormed

/-- The encoding of a document that shows one and declares a character set. -/
def ofCharset (shown : Encoding) (name : Text) : Except DocumentFault Encoding :=
  match CharsetMeaning.ofName? name with
  | none => .error .unknownCharset
  | some .multiByte => .error .multiByteCharset
  | some .foreign => .error .notWellFormed
  | some (.failing reason) => .error (.failingCharset name reason)
  | some .nameWriting => .error .nameWriting
  | some (.single set) => if shown.isByteWise then .ok (charset set) else .error .notWellFormed

/-- The encoding of a document that shows one and declares a name. -/
def settle (shown : Encoding) (name : Text) : Except DocumentFault Encoding :=
  match declarable.lookup (name.map Char.toLower) with
  | some candidates => shown.agreed candidates
  | none => shown.ofCharset name

/-- Units of two bytes; a byte that is left over is dropped. -/
def units (highFirst : Bool) : List UInt8 → List Nat
  | a :: b :: rest =>
      (if highFirst then a.toNat * 256 + b.toNat else b.toNat * 256 + a.toNat)
        :: units highFirst rest
  | _ => []

/-- Characters from units of two bytes: a leading surrogate takes the low ten bits of
    the unit behind it, and a trailing one never stands alone. -/
def joinUnits? : List Nat → Option Text
  | [] => some []
  | [unit] => if unit / 2048 = 27 then none else some [Char.ofNat unit]
  | unit :: next :: rest =>
      if unit / 1024 = 54 then
        (joinUnits? rest).map (Char.ofNat (0x10000 + unit % 1024 * 1024 + next % 1024) :: ·)
      else if unit / 1024 = 55 then none
      else (joinUnits? (next :: rest)).map (Char.ofNat unit :: ·)

/-- The characters that bytes spell in an encoding. -/
def decode? : Encoding → List UInt8 → Option Text
  | utf8, bytes =>
      match ofUtf8 bytes with
      | (t, none) => some t
      | (_, some _) => none
  | latin1, bytes => Charset.latin.decode? bytes
  | ascii, bytes => Charset.ascii.decode? bytes
  | charset set, bytes => set.decode? bytes
  | utf16 highFirst, bytes =>
      if bytes.length % 2 = 0 then joinUnits? (units highFirst bytes) else none

/-- The bytes of a document, each or each two taken for one character; a declaration has no
    characters that would have to be taken otherwise. -/
def roughly (shown : Encoding) (bytes : List UInt8) : Text :=
  match shown with
  | utf16 highFirst => (units highFirst bytes).map Char.ofNat
  | _ => bytes.map fun b => Char.ofNat b.toNat

end Encoding

/-- What is known of a document before its declarations are read. -/
structure Extent where
  encoding : Encoding
  /-- How many bytes the document has. -/
  size : Nat
deriving DecidableEq

/-- The characters of a document. -/
structure DocumentText where
  extent : Extent
  text : Text

/-- The characters that bytes spell in an encoding, if all may stand in a document. -/
def Encoding.documentText (e : Encoding) (size : Nat) (bytes : List UInt8) :
    Except DocumentFault DocumentText :=
  match e.decode? bytes with
  | some text =>
      if text.all isDocumentChar then .ok ⟨⟨e, size⟩, text⟩ else .error .notWellFormed
  | none => .error .notWellFormed

/-- The characters of a document. -/
def DocumentText.ofBytes (all : List UInt8) : Except DocumentFault DocumentText :=
  let (shown, bytes) := Encoding.detect all
  match OpeningDeclaration.read shown.alphabet (shown.roughly bytes) with
  | none => .error .notWellFormed
  | some ({ encoding := none, .. }, _) => shown.documentText all.length bytes
  | some ({ encoding := some name, .. }, _) => do
      let encoding ← shown.settle name
      encoding.documentText all.length bytes

end PointerBindings.Xml
