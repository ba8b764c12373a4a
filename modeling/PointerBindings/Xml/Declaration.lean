import PointerBindings.Xml.Name

/-! # The opening declaration — version, encoding and standing alone

    A document may open with a declaration of the version, the encoding and whether it
    stands alone, in this order, of which only the version must be there.  The word
    that the declaration begins with is kept for it: wherever else it stands in
    instructions, in letters of any size, the document is at fault. -/

namespace PointerBindings.Xml

open Text

/-- What the opening declaration of a document says. -/
structure OpeningDeclaration where
  encoding : Option Text := none
  standalone : Bool := false
deriving DecidableEq

/-- A character that the value of a declared property may have. -/
def isPropertyChar (c : Char) : Bool :=
  c.isAlphanum || c == '.' || c == '-' || c == '_'

/-- Takes the value of a property off, in quotes of either kind. -/
def readPropertyValue : Reader Text := do
  skipSpace
  Reader.literal ['=']
  skipSpace
  let quote ← Reader.character
  if quote = '"' || quote = Char.ofNat 39 then
    let value ← Reader.run isPropertyChar
    Reader.literal [quote]
    return value
  else failure

/-- Takes a property off if it comes next. -/
def readProperty? (name : Text) : Reader (Option Text) := fun t =>
  match (needSpace >>= fun _ => Reader.literal name) t with
  | some (_, rest) => (readPropertyValue rest).map fun (value, rest) => (some value, rest)
  | none => some (none, t)

/-- The value of a property that is either held or not. -/
def affirmed? : Option Text → Option Bool
  | none => some false
  | some value =>
      if value = "yes".toList then some true
      else if value = "no".toList then some false
      else none

/-- An encoding has a name that begins with a letter. -/
def namesEncoding : Option Text → Bool
  | none => true
  | some (c :: _) => c.isAlpha
  | some [] => false

/-- Takes the opening declaration off, if the document has one. -/
def OpeningDeclaration.read (a : Alphabet) : Reader OpeningDeclaration := fun t =>
  match after? "<?xml".toList t with
  | none => some ({}, t)
  | some rest =>
      if (rest.head?.map a.isNameChar).getD false then some ({}, t)
      else
        (do
          match ← readProperty? "version".toList with
          | none => failure
          | some _ => pure ()
          let encoding ← readProperty? "encoding".toList
          let standalone ← readProperty? "standalone".toList
          skipSpace
          Reader.literal "?>".toList
          match affirmed? standalone with
          | some standalone =>
              if namesEncoding encoding then return { encoding, standalone } else failure
          | none => failure : Reader OpeningDeclaration) rest

end PointerBindings.Xml
