import PointerBindings.Text.Basic

/-! # Elements — a document as a tree

    An element has a tag, attributes and child elements; the character data between
    them is of no use to a catalog and is left out.  A tag or an attribute that
    belongs to a namespace carries it in braces in front of its name, so it never
    equals a plain name. -/

namespace PointerBindings.Xml

/-- An element of a document. -/
inductive Element where
  | node (tag : Text) (attributes : List (Text × Text)) (children : List Element)
deriving Inhabited

namespace Element

/-- The name of the element. -/
def tag : Element → Text
  | node tag _ _ => tag

/-- The attributes in the order they are written. -/
def attributes : Element → List (Text × Text)
  | node _ attributes _ => attributes

/-- The elements inside. -/
def children : Element → List Element
  | node _ _ children => children

/-- The value of an attribute. -/
def attribute? (e : Element) (name : Text) : Option Text :=
  e.attributes.lookup name

/-- The children with the given tag, in order. -/
def childrenNamed (e : Element) (tag : Text) : List Element :=
  e.children.filter fun child => child.tag = tag

end Element

end PointerBindings.Xml
