import PointerBindings.Text.Basic

/-! # C types — what a C front end says of a type

    A front end describes a type by its kind, its spelling and further types that it
    answers with when asked: what a pointer points to, what an array holds, what an
    elaborated type names, what stands behind a typedef.  Asked for something that a
    type does not have, it answers with an invalid type.  A type that is its own
    canonical type simply carries no other one. -/

namespace PointerBindings

/-- The arithmetic types and `void`. -/
inductive BuiltinKind where
  | void
  | bool
  /-- Plain `char` where it is signed. -/
  | charSigned
  /-- Plain `char` where it is unsigned. -/
  | charUnsigned
  | unsignedChar
  | signedChar
  | wideChar
  | char16
  | char32
  | short
  | unsignedShort
  | int
  | unsignedInt
  | long
  | unsignedLong
  | longLong
  | unsignedLongLong
  | float
  | double
deriving DecidableEq, Inhabited

/-- What is said of the length of an array. -/
inductive ArrayLength where
  | constant
  | incomplete
  | variable
deriving DecidableEq, Inhabited

/-- The kinds of C types. -/
inductive CTypeKind where
  | builtin (kind : BuiltinKind)
  | pointer
  | array (length : ArrayLength)
  /-- A function whose parameters are declared. -/
  | prototype
  /-- A function whose parameters are not declared. -/
  | unprototyped
  | typeAlias
  /-- A type named with its tag, or through its typedef. -/
  | elaborated
  | record
  | enum
  | invalid
  /-- Any other kind. -/
  | other
deriving DecidableEq, Inhabited

/-- A C type and the types it leads to; those it does not have are left out. -/
inductive CType where
  | mk (kind : CTypeKind) (spelling : Text) (pointee element named canonical result : Option CType)
      (arguments : List CType) (variadic : Bool)
deriving Inhabited

namespace CType

/-- The type that stands for every missing one. -/
def absent : CType :=
  mk .invalid [] none none none none none [] false

/-- The kind of the type. -/
def kind : CType → CTypeKind
  | mk kind _ _ _ _ _ _ _ _ => kind

/-- The type as it is written. -/
def spelling : CType → Text
  | mk _ spelling _ _ _ _ _ _ _ => spelling

/-- What a pointer points to. -/
def pointee : CType → CType
  | mk _ _ pointee _ _ _ _ _ _ => pointee.getD absent

/-- What an array holds. -/
def element : CType → CType
  | mk _ _ _ element _ _ _ _ _ => element.getD absent

/-- What an elaborated type names. -/
def named : CType → CType
  | mk _ _ _ _ named _ _ _ _ => named.getD absent

/-- The type behind all typedefs. -/
def canonical (t : CType) : CType :=
  match t with
  | mk _ _ _ _ _ canonical _ _ _ => canonical.getD t

/-- What a function returns. -/
def result : CType → CType
  | mk _ _ _ _ _ _ result _ _ => result.getD absent

/-- What a function takes. -/
def arguments : CType → List CType
  | mk _ _ _ _ _ _ _ arguments _ => arguments

/-- A function takes more than it declares. -/
def isVariadic : CType → Bool
  | mk _ _ _ _ _ _ _ _ variadic => variadic

end CType

/-- The kind is that of a function. -/
def CTypeKind.isFunction : CTypeKind → Bool
  | .prototype => true
  | .unprototyped => true
  | _ => false

/-- The type is a function once all typedefs are seen through. -/
def CType.isFunction (t : CType) : Bool :=
  t.canonical.kind.isFunction

end PointerBindings
