import PointerBindings.Xml.Doctype
import PointerBindings.Xml.Name

/-! # Namespaces — labels bound to identifiers

    An attribute whose name is the binding word, or has it as its label, binds a label,
    or the names without one, to an identifier for the element it stands on and all
    inside.  A name whose label is bound is shown with the identifier in braces in
    front; a label that is not bound is a fault.  Names of attributes without a label
    belong to no namespace. -/

namespace PointerBindings.Xml

open Text

/-- The identifiers that labels are bound to, the latest binding first. -/
abbrev Bindings := List (Option Text × Text)

/-- The word that binds labels. -/
def bindingWord : Text :=
  "xmlns".toList

/-- The label that is bound from the beginning. -/
def ownLabel : Text :=
  "xml".toList

/-- What the label bound from the beginning is bound to. -/
def ownIdentifier : Text :=
  "http://www.w3.org/XML/1998/namespace".toList

/-- The identifier that nothing can be bound to. -/
def bindingIdentifier : Text :=
  "http://www.w3.org/2000/xmlns/".toList

/-- The bindings before any element. -/
def Bindings.initial : Bindings :=
  [(some ownLabel, ownIdentifier)]

/-- A binding that may be made: no label is unbound, the label that is bound from the
    beginning keeps its identifier for itself, and no identifier holds the brace that
    closes it in names. -/
def mayBind (label : Option Text) (identifier : Text) : Bool :=
  !(label.isSome && identifier.isEmpty) && label ≠ some bindingWord
    && (label == some ownLabel) == (identifier == ownIdentifier)
    && identifier ≠ bindingIdentifier && !identifier.contains '\x7d'

/-- The label that an attribute binds, if it binds one. -/
def boundLabel? (name : Text) : Option (Option Text) :=
  match divideLabel name with
  | (none, base) => if base = bindingWord then some none else none
  | (some label, base) => if label = bindingWord then some (some base) else none

/-- Makes the bindings that attributes ask for. -/
def bindLabels (bindings : Bindings) : List (Text × Text) → Option Bindings
  | [] => some bindings
  | (name, value) :: rest =>
      match boundLabel? name with
      | none => bindLabels bindings rest
      | some label =>
          if mayBind label value then bindLabels ((label, value) :: bindings) rest else none

/-- A name with its identifier in front. -/
def universalName (identifier base : Text) : Text :=
  '\x7b' :: identifier ++ '\x7d' :: base

/-- The name of an element as it is shown. -/
def Bindings.elementName (bindings : Bindings) (name : Text) : Option Text :=
  match divideLabel name with
  | (some label, base) =>
      (bindings.lookup (some label)).map fun identifier => universalName identifier base
  | (none, base) =>
      match bindings.lookup none with
      | none | some [] => some base
      | some identifier => some (universalName identifier base)

/-- The name of an attribute as it is shown. -/
def Bindings.attributeName (bindings : Bindings) (name : Text) : Option Text :=
  match divideLabel name with
  | (some label, base) =>
      (bindings.lookup (some label)).map fun identifier => universalName identifier base
  | (none, base) => some base

/-- No text comes twice. -/
def allDistinct : List Text → Bool
  | [] => true
  | t :: rest => !rest.contains t && allDistinct rest

/-- The attributes of an element: those written, then those that are only preset. -/
def Doctype.complete (d : Doctype) (element : Text) (written : List (Text × Text)) :
    List (Text × Text) :=
  written ++ d.rules.filterMap fun r =>
    match r.preset with
    | none => none
    | some value =>
        if r.element = element && (written.lookup r.name).isNone then some (r.name, value)
        else none

/-- The values of the attributes that are written on an element. -/
def Doctype.writtenValues (d : Doctype) (a : Alphabet) (element : Text)
    (raw : List (Text × Text)) : Option (List (Text × Text)) :=
  raw.mapM fun (name, text) =>
    let isList := match d.ruleFor? element name with
      | some rule => rule.isList
      | none => false
    (d.attributeValue a isList text).map fun value => (name, value)

/-- The beginning of an element: its name and attributes as they are shown, and the
    bindings inside it. -/
structure Opening where
  tag : Text
  attributes : List (Text × Text)
  bindings : Bindings

/-- What the raw name and attributes of a tag open, made of the given letters. -/
def Opening.ofTag (d : Doctype) (a : Alphabet) (bindings : Bindings) (name : Text)
    (raw : List (Text × Text)) : Option Opening := do
  if !allDistinct (raw.map Prod.fst) then none
  let written ← d.writtenValues a name raw
  let all := d.complete name written
  let bindings ← bindLabels bindings all
  let tag ← bindings.elementName name
  let attributes ← (all.filter fun (name, _) => (boundLabel? name).isNone).mapM fun (name, value) =>
    (bindings.attributeName name).map fun shown => (shown, value)
  if allDistinct (attributes.map Prod.fst) then return { tag, attributes, bindings } else none

end PointerBindings.Xml
