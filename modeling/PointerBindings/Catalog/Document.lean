import PointerBindings.Catalog
import PointerBindings.Text.Blank
import PointerBindings.Text.LowerCase
import PointerBindings.Xml.Document

/-! # Catalog documents — a catalog read from its element tree

    The root is an `assembly` with `type` children, a type holds `method` children,
    and a method, or a delegate itself, holds `parameter` children.  All types are
    declared before any member is read, so a reference is resolved the same way
    whether its type stands before or after it.  The first rule that a document
    breaks decides the fault: the declarations in order, then the members in order,
    the parameters of a delegate before its methods. -/

namespace PointerBindings

open Text Xml

/-- Why a document is no catalog. -/
inductive CatalogFault where
  /-- The bytes are no document. -/
  | document (fault : DocumentFault)
  /-- The root is not an assembly. -/
  | wrongRoot (tag : Text)
  | typeWithoutName
  | unknownKind (kind fullName : Text)
  | methodWithoutName (owner : Text)
  /-- A parameter lacks its name or its type. -/
  | incompleteParameter (owner : Text)
  /-- A type name goes on behind a line feed. -/
  | undividedName (name : Text)
deriving DecidableEq

/-- The fault in words; an undivided name has none. -/
def CatalogFault.message : CatalogFault → Text
  | .document fault => fault.message
  | .wrongRoot tag => "Expected root element 'assembly', got '".toList ++ tag ++ "'".toList
  | .typeWithoutName => "Type element missing 'fullName' attribute".toList
  | .unknownKind kind fullName =>
      "Invalid kind '".toList ++ kind ++ "' for type '".toList ++ fullName
        ++ "'. Must be one of: ".toList ++ joined ", ".toList (TypeKind.all.map TypeKind.spelling)
  | .methodWithoutName owner =>
      "Method element in type '".toList ++ owner ++ "' missing 'name' attribute".toList
  | .incompleteParameter owner =>
      "Parameter element in '".toList ++ owner ++ "' missing 'name' or 'type' attribute".toList
  | .undividedName _ => []

/-! ## Attributes -/

/-- The value of an attribute that must not be missing or empty. -/
def required? (e : Element) (name : Text) : Option Text :=
  match e.attribute? name with
  | none | some [] => none
  | some value => some value

/-- The value of an attribute, its blanks trimmed, where an empty one counts as
    missing. -/
def trimmed? (e : Element) (name : Text) : Option Text :=
  (required? e name).map trim

/-- The truth value of an attribute: only the word `true`, in letters of any size,
    holds. -/
def flag (e : Element) (name : Text) (missing : Bool) : Bool :=
  match e.attribute? name with
  | none => missing
  | some value => lower (trim value) = "true".toList

/-! ## Declarations -/

/-- The namespace a type is declared with, or else the one its name shows. -/
def declaredNamespace (e : Element) (fullName : Text) : Except CatalogFault Text :=
  match e.attribute? "namespace".toList with
  | some value => .ok (trim value)
  | none =>
      match namespaceOf? fullName with
      | some namespaceName => .ok namespaceName
      | none => .error (.undividedName fullName)

/-- What a type element says of its type. -/
def Declaration.ofElement (e : Element) : Except CatalogFault Declaration :=
  match trimmed? e "fullName".toList with
  | none => .error .typeWithoutName
  | some fullName =>
      let spelling := lower (trim ((e.attribute? "kind".toList).getD "class".toList))
      match TypeKind.ofSpelling? spelling with
      | none => .error (.unknownKind spelling fullName)
      | some kind => do
          let namespaceName ← declaredNamespace e fullName
          return {
            fullName
            namespaceName
            kind
            isGeneric := flag e "generic".toList false
            convention := trimmed? e "callingConvention".toList }

/-! ## Members -/

/-- A reference by name, seen from the declarations. -/
def referenceTo (declared : List Declaration) (name : Text) : Except CatalogFault TypeReference :=
  match resolveAmong declared name with
  | some reference => .ok reference
  | none => .error (.undividedName name)

/-- The return type of a method or delegate; without one nothing is returned. -/
def returnReference (declared : List Declaration) (e : Element) :
    Except CatalogFault TypeReference :=
  referenceTo declared (trim ((e.attribute? "returns".toList).getD "System.Void".toList))

/-- A parameter from its element. -/
def ReflectedParameter.ofElement (declared : List Declaration) (owner : Text) (e : Element) :
    Except CatalogFault ReflectedParameter :=
  match trimmed? e "name".toList, trimmed? e "type".toList with
  | some name, some typeName => do
      let type ← referenceTo declared typeName
      return { name, type, isIn := flag e "in".toList false, isOut := flag e "out".toList false }
  | _, _ => .error (.incompleteParameter owner)

/-- The parameters inside an element, in order. -/
def parametersInside (declared : List Declaration) (owner : Text) (e : Element) :
    Except CatalogFault (List ReflectedParameter) :=
  (e.childrenNamed "parameter".toList).mapM (ReflectedParameter.ofElement declared owner)

/-- A method from its element. -/
def Method.ofElement (declared : List Declaration) (owner : Text) (e : Element) :
    Except CatalogFault Method :=
  match trimmed? e "name".toList with
  | none => .error (.methodWithoutName owner)
  | some name => do
      let returnType ← returnReference declared e
      let parameters ← parametersInside declared (owner ++ '.' :: name) e
      return {
        name
        returnType
        parameters
        isStatic := flag e "static".toList true
        library := (e.attribute? "dllImport".toList).map trim
        convention := trimmed? e "callingConvention".toList }

/-- The way a delegate is called. -/
def Method.invocation (declared : List Declaration) (owner : Text) (e : Element) :
    Except CatalogFault Method := do
  let returnType ← returnReference declared e
  let parameters ← parametersInside declared owner e
  return { name := "Invoke".toList, returnType, parameters, isStatic := false }

/-- A declared type with the members its element holds. -/
def DeclaredType.ofElement (declared : List Declaration) (d : Declaration) (e : Element) :
    Except CatalogFault DeclaredType := do
  let invoke ←
    if d.isDelegate then some <$> Method.invocation declared d.fullName e else pure none
  let methods ← (e.childrenNamed "method".toList).mapM (Method.ofElement declared d.fullName)
  return { toDeclaration := d, invoke, methods }

/-! ## The whole document -/

/-- The types of a document from their elements. -/
def definitionsOf (elements : List Element) : Except CatalogFault (List DeclaredType) := do
  let declared ← elements.mapM Declaration.ofElement
  (declared.zip elements).mapM fun (d, e) => DeclaredType.ofElement declared d e

/-- The catalog that an element tree describes. -/
def Catalog.ofElement (root : Element) : Except CatalogFault Catalog :=
  if root.tag ≠ "assembly".toList then .error (.wrongRoot root.tag)
  else do
    let types ← definitionsOf (root.childrenNamed "type".toList)
    return { name := trim ((root.attribute? "name".toList).getD []), types }

/-- The catalog that the bytes of a document describe. -/
def Catalog.ofBytes (bytes : List UInt8) : Except CatalogFault Catalog :=
  match Element.ofBytes bytes with
  | .ok root => Catalog.ofElement root
  | .error fault => .error (.document fault)

end PointerBindings
