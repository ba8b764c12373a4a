import PointerBindings.TypeName

/-! # Catalogs — the types and methods of a managed assembly

    A catalog lists the types of one assembly in declaration order.  A reference to a
    type is looked up among the declarations, so that a declared type supplies its own
    namespace and is known for a delegate; only the bare type is, not an array of it
    or a reference to it. -/

namespace PointerBindings

open Text

/-- A type as it is referred to. -/
structure TypeReference where
  fullName : Text
  namespaceName : Text
  isDelegate : Bool := false
deriving DecidableEq, Inhabited

/-- A parameter with its declared direction. -/
structure ReflectedParameter where
  name : Text
  type : TypeReference
  isIn : Bool := false
  isOut : Bool := false
deriving DecidableEq, Inhabited

/-- A method of a type. -/
structure Method where
  name : Text
  returnType : TypeReference
  parameters : List ReflectedParameter := []
  isStatic : Bool := true
  /-- The native library that implements the method. -/
  library : Option Text := none
  convention : Option Text := none
deriving DecidableEq, Inhabited

/-- The kinds of types. -/
inductive TypeKind where
  | classKind
  | structKind
  | delegateKind
  | enumKind
deriving DecidableEq, Inhabited

/-- The kind as a catalog spells it. -/
def TypeKind.spelling : TypeKind → Text
  | .classKind => "class".toList
  | .structKind => "struct".toList
  | .delegateKind => "delegate".toList
  | .enumKind => "enum".toList

/-- Every kind, in the order they are named in messages. -/
def TypeKind.all : List TypeKind :=
  [.classKind, .structKind, .delegateKind, .enumKind]

/-- The kind with the given spelling. -/
def TypeKind.ofSpelling? (spelling : Text) : Option TypeKind :=
  TypeKind.all.find? fun k => k.spelling = spelling

/-- What a type says of itself, its members aside. -/
structure Declaration where
  fullName : Text
  namespaceName : Text
  kind : TypeKind := .classKind
  isGeneric : Bool := false
  convention : Option Text := none
deriving DecidableEq, Inhabited

/-- The type is a delegate. -/
def Declaration.isDelegate (d : Declaration) : Bool :=
  d.kind = .delegateKind

/-- A declared type with its members. -/
structure DeclaredType extends Declaration where
  /-- How a delegate is called; absent from all other types. -/
  invoke : Option Method := none
  methods : List Method := []
deriving DecidableEq, Inhabited

/-- All types of an assembly, in declaration order. -/
structure Catalog where
  name : Text := []
  types : List DeclaredType := []
deriving DecidableEq, Inhabited

/-! ## Looking types up -/

/-- The first declaration of a name. -/
def findDeclaration? (declared : List Declaration) (fullName : Text) : Option Declaration :=
  declared.find? fun d => d.fullName = fullName

/-- A reference by the given name, seen from the given declarations. -/
def resolveAmong (declared : List Declaration) (name : Text) : Option TypeReference :=
  match divideName? name with
  | none => none
  | some (base, markers) =>
      match findDeclaration? declared base with
      | some d => some ⟨name, d.namespaceName, d.isDelegate && markers.isEmpty⟩
      | none => some ⟨name, namespaceOfBase base, false⟩

/-- What the types of the catalog say of themselves. -/
def Catalog.declared (c : Catalog) : List Declaration :=
  c.types.map DeclaredType.toDeclaration

/-- The first type of a name. -/
def Catalog.find? (c : Catalog) (fullName : Text) : Option DeclaredType :=
  c.types.find? fun t => t.fullName = fullName

/-- A reference by the given name. -/
def Catalog.resolve (c : Catalog) (name : Text) : Option TypeReference :=
  resolveAmong c.declared name

/-! ## What a reference shows of its name -/

/-- The simple name of the type, its markers included. -/
def TypeReference.name? (t : TypeReference) : Option Text :=
  simpleName? t.fullName

/-- The type is passed by reference. -/
def TypeReference.isByRef (t : TypeReference) : Bool :=
  endsInReference t.fullName

/-- The type is an array. -/
def TypeReference.isArray (t : TypeReference) : Bool :=
  endsInArray t.fullName

end PointerBindings
