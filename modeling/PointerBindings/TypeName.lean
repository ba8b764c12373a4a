import PointerBindings.Text.Basic

/-! # Type names — a base and the markers behind it

    A reflected type name reads `Namespace.Outer+Inner` followed by markers: `[]` for
    an array, `&` for a reference and `*` for a pointer.  The markers are the longest
    run at the end of the name, and the base is what they leave.  A name that goes on
    behind a line feed cannot be divided; a single line feed at its very end belongs
    to neither part. -/

namespace PointerBindings

open Text

/-- What may stand behind the base of a type name. -/
inductive Marker where
  | array
  | reference
  | pointer
deriving DecidableEq, Inhabited

/-- The marker as it is written. -/
def Marker.spelling : Marker → Text
  | .array => "[]".toList
  | .reference => "&".toList
  | .pointer => "*".toList

/-- Markers as they are written behind a base. -/
def spellMarkers (markers : List Marker) : Text :=
  markers.flatMap Marker.spelling

/-- Takes markers off a name that is given from its end; the result is in order. -/
def takeMarkers : Text → List Marker → Text × List Marker
  | '*' :: rest, markers => takeMarkers rest (.pointer :: markers)
  | '&' :: rest, markers => takeMarkers rest (.reference :: markers)
  | ']' :: '[' :: rest, markers => takeMarkers rest (.array :: markers)
  | rest, markers => (rest.reverse, markers)

/-- Divides a name that stays on one line. -/
def divideLine (name : Text) : Text × List Marker :=
  takeMarkers name.reverse []

/-- The base of a name and the markers behind it. -/
def divideName? (name : Text) : Option (Text × List Marker) :=
  let line := dropFinal '\n' name
  if '\n' ∈ line then none else some (divideLine line)

/-! ## Namespace and simple name -/

/-- The namespace of a base: what stands before the last point of the outermost
    type. -/
def namespaceOfBase (base : Text) : Text :=
  match cutLast '.' (base.takeWhile (· ≠ '+')) with
  | some (namespaceName, _) => namespaceName
  | none => []

/-- The namespace of a name. -/
def namespaceOf? (name : Text) : Option Text :=
  (divideName? name).map fun (base, _) => namespaceOfBase base

/-- The innermost type of a base: what stands behind the last plus sign, or, without
    one, behind the last point. -/
def innermostOfBase (base : Text) : Text :=
  match cutLast '+' base with
  | some (_, inner) => inner
  | none =>
      match cutLast '.' base with
      | some (_, simple) => simple
      | none => base

/-- The simple name: the innermost type with the markers behind it. -/
def simpleName? (name : Text) : Option Text :=
  (divideName? name).map fun (base, markers) => innermostOfBase base ++ spellMarkers markers

/-! ## What a name ends with -/

/-- The name is passed by reference. -/
def endsInReference (name : Text) : Bool :=
  name.getLast? = some '&'

/-- The name is that of an array. -/
def endsInArray (name : Text) : Bool :=
  match name.reverse with
  | ']' :: '[' :: _ => true
  | _ => false

end PointerBindings
