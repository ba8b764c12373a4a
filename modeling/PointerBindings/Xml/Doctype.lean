import PointerBindings.Xml.Expansion

/-! # Document types — declared entities and declared attributes

    The declarations at the head of a document matter to its elements in two ways: they
    give the texts that entities stand for, and the values that attributes have when
    they are not written.  Of several declarations of one name the first holds.  Once a
    declaration is known to stand elsewhere, a name that is not declared here is no
    fault in a value any more, unless the document says that it stands alone. -/

namespace PointerBindings.Xml

open Text

/-- What is declared of an attribute of an element. -/
structure AttributeRule where
  element : Text
  name : Text
  /-- The value is a list of words, so that only single spaces between them count. -/
  isList : Bool
  /-- The value where none is written. -/
  preset : Option Text := none
deriving DecidableEq

/-- The declarations of a document. -/
structure Doctype where
  /-- The document that the declarations belong to. -/
  extent : Extent
  standalone : Bool := false
  entities : List (Text × Entity) := []
  rules : List AttributeRule := []
  /-- Declarations may stand elsewhere. -/
  hasOutside : Bool := false
  /-- A declaration that was not read may overrule those behind it. -/
  isSuspended : Bool := false
  /-- The bytes that entities have brought into declarations. -/
  spent : Nat := 0
deriving DecidableEq

namespace Doctype

/-- The letters that names in the document are made of. -/
def alphabet (d : Doctype) : Alphabet :=
  d.extent.encoding.alphabet

/-- A name that is not declared may be declared elsewhere. -/
def isOpen (d : Doctype) : Bool :=
  d.hasOutside && !d.standalone

/-! ## Attribute values -/

/-- The value that raw text stands for when entities have the given values: blanks
    become spaces, but not those given by their code. -/
def replaceReferences (a : Alphabet) (valueOf : Text → Option Text) (raw : Text) :
    Option Text := do
  let pieces ← valuePieces? a raw
  let texts ← pieces.mapM fun
    | .plain '<' => none
    | .plain c => some [if isSpace c then ' ' else c]
    | .reference (.character c) => some [c]
    | .reference (.entity name) => valueOf name
  return texts.flatten

/-- The value of an entity inside an attribute, with entities nested in it to a given
    depth. -/
def entityValue (d : Doctype) : Nat → Text → Option Text
  | 0, _ => none
  | depth + 1, name =>
      match predefined? name with
      | some c => some [c]
      | none =>
          match d.entities.lookup name with
          | some (.text t) => replaceReferences Origin.entity.alphabet (entityValue d depth) t
          | some .outside => none
          | none => if d.isOpen then some [] else none

/-- More than any nesting of different entities. -/
def depthBound (d : Doctype) : Nat :=
  d.entities.length + 2

/-- The value of an attribute from the text between its quotes, which is made of the given
    letters. -/
def attributeValue (d : Doctype) (a : Alphabet) (isList : Bool) (raw : Text) :
    Option Text := do
  let value ← replaceReferences a (d.entityValue d.depthBound) raw
  return if isList then collapseSpaces value else value

/-- The bytes that entities bring into the value of an attribute. -/
def valueCost (d : Doctype) (a : Alphabet) (raw : Text) : Nat :=
  referenceCost a (costIn (valueCosts d.entities)) raw

/-- The first rule for an attribute of an element. -/
def ruleFor? (d : Doctype) (element name : Text) : Option AttributeRule :=
  d.rules.find? fun r => r.element = element && r.name = name

/-- Adds a rule; a preset value for an attribute that has a rule is not added. -/
def declareAttribute (d : Doctype) (r : AttributeRule) : Doctype :=
  if r.preset.isSome && (d.ruleFor? r.element r.name).isSome then d
  else { d with rules := d.rules ++ [r] }

/-! ## Entity declarations -/

/-- The text an entity is declared with: characters given by their code are put in,
    references to entities stay, and references to declarations have no place there. -/
def replacementOf (a : Alphabet) (raw : Text) : Option Text := do
  let pieces ← valuePieces? a raw
  let texts ← pieces.mapM fun
    | .plain '%' => none
    | .plain c => some [c]
    | .reference (.character c) => some [c]
    | .reference (.entity name) => some ('&' :: name ++ [';'])
  return texts.flatten

/-- Adds an entity, unless its name is taken or declarations are suspended. -/
def declareEntity (d : Doctype) (name : Text) (e : Entity) : Doctype :=
  if d.isSuspended || (predefined? name).isSome || (d.entities.lookup name).isSome then d
  else { d with entities := d.entities ++ [(name, e)] }

/-- The replacement text is read unless declarations are suspended. -/
def declareText (d : Doctype) (name : Text) (raw : Text) : Option Doctype :=
  if d.isSuspended then some d
  else (replacementOf d.alphabet raw).map fun t => d.declareEntity name (.text t)

end Doctype

end PointerBindings.Xml
