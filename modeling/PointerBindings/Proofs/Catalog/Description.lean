import Mathlib.Data.List.Forall2
import PointerBindings.Catalog.Document
import PointerBindings.Proofs.Text.Blank
import PointerBindings.Proofs.Text.LetterCase

/-! # Descriptions — what a catalog document is to say

    An assembly is described by names, flags and lists, of which none can be malformed.
    A description stands for one catalog (`AssemblyDescription.catalog`) and is rendered by
    many element trees (`AssemblyDescription.Renders`): there may be blanks around every
    value, flags and kinds are spelled in letters of any size, and what is left out stands
    for its default.  One of the trees is `AssemblyDescription.toElement`. -/

namespace PointerBindings

open Text Xml

/-! ## Descriptions -/

/-- A text without blanks at its ends. -/
structure TrimmedText where
  text : Text
  trimmed : IsTrimmed text

/-- A name: it is not empty, stays on one line and has no blanks at its ends. -/
structure PlainName extends TrimmedText where
  ne_nil : text ≠ []
  oneLine : '\n' ∉ text

/-- A parameter described. -/
structure ParameterDescription where
  name : PlainName
  type : PlainName
  isIn : Bool := false
  isOut : Bool := false

/-- A method described. -/
structure MethodDescription where
  name : PlainName
  returns : PlainName
  isStatic : Bool := true
  library : Option TrimmedText := none
  convention : Option PlainName := none
  parameters : List ParameterDescription := []

/-- The kind of a type; of a delegate it is said how it is called. -/
inductive KindDescription where
  | classKind
  | structKind
  | enumKind
  | delegateKind (returns : PlainName) (parameters : List ParameterDescription)

/-- A type described; without a namespace it has the one that its name shows. -/
structure TypeDescription where
  fullName : PlainName
  namespaceName : Option TrimmedText := none
  kind : KindDescription := .classKind
  isGeneric : Bool := false
  convention : Option PlainName := none
  methods : List MethodDescription := []

/-- An assembly described. -/
structure AssemblyDescription where
  name : TrimmedText
  types : List TypeDescription := []

/-! ## What is described -/

/-- The namespace that a name shows. -/
def PlainName.shownNamespace (n : PlainName) : Text :=
  namespaceOfBase (divideLine n.text).1

/-- A reference by the name.  The first declaration of its base supplies the namespace and,
    if there are no markers behind the base, says whether it is a delegate. -/
def PlainName.reference (declared : List Declaration) (n : PlainName) : TypeReference :=
  match findDeclaration? declared (divideLine n.text).1 with
  | some d => ⟨n.text, d.namespaceName, d.isDelegate && (divideLine n.text).2.isEmpty⟩
  | none => ⟨n.text, n.shownNamespace, false⟩

/-- The parameter that is described. -/
def ParameterDescription.parameter (declared : List Declaration) (p : ParameterDescription) :
    ReflectedParameter where
  name := p.name.text
  type := p.type.reference declared
  isIn := p.isIn
  isOut := p.isOut

/-- The method that is described. -/
def MethodDescription.method (declared : List Declaration) (m : MethodDescription) : Method where
  name := m.name.text
  returnType := m.returns.reference declared
  parameters := m.parameters.map (·.parameter declared)
  isStatic := m.isStatic
  library := m.library.map (·.text)
  convention := m.convention.map (·.text)

/-- The kind by itself. -/
def KindDescription.kind : KindDescription → TypeKind
  | .classKind => .classKind
  | .structKind => .structKind
  | .enumKind => .enumKind
  | .delegateKind _ _ => .delegateKind

/-- How a type is called: only a delegate is. -/
def KindDescription.invoke (declared : List Declaration) : KindDescription → Option Method
  | .delegateKind returns parameters =>
      some
        { name := "Invoke".toList
          returnType := returns.reference declared
          parameters := parameters.map (·.parameter declared)
          isStatic := false }
  | _ => none

/-- The namespace of the type. -/
def TypeDescription.fullNamespace (t : TypeDescription) : Text :=
  match t.namespaceName with
  | some given => given.text
  | none => t.fullName.shownNamespace

/-- What the type says of itself, its members aside. -/
def TypeDescription.declaration (t : TypeDescription) : Declaration where
  fullName := t.fullName.text
  namespaceName := t.fullNamespace
  kind := t.kind.kind
  isGeneric := t.isGeneric
  convention := t.convention.map (·.text)

/-- The type that is described. -/
def TypeDescription.declaredType (declared : List Declaration) (t : TypeDescription) :
    DeclaredType where
  toDeclaration := t.declaration
  invoke := t.kind.invoke declared
  methods := t.methods.map (·.method declared)

/-- The catalog that is described; references are seen from all its types. -/
def AssemblyDescription.catalog (a : AssemblyDescription) : Catalog where
  name := a.name.text
  types := a.types.map (·.declaredType (a.types.map TypeDescription.declaration))

/-! ## Attributes -/

namespace Xml.Element

/-- The element has the attribute with the value, blanks around it aside. -/
def Writes (e : Element) (key value : Text) : Prop :=
  ∃ before behind, allBlank before = true ∧ allBlank behind = true
    ∧ e.attribute? key = some (before ++ value ++ behind)

/-- The element has the attribute with the value, or leaves it out where the value is the
    default. -/
def WritesOr (e : Element) (key default value : Text) : Prop :=
  e.Writes key value ∨ value = default ∧ e.attribute? key = none

/-- The element has the attribute exactly if there is a value for it. -/
def WritesAny (e : Element) (key : Text) : Option Text → Prop
  | some value => e.Writes key value
  | none => e.attribute? key = none

/-- The element has the attribute with the word in letters of any size, or leaves it out
    where the word is the default. -/
def WritesWordOr (e : Element) (key default word : Text) : Prop :=
  (∃ value, InAnyCase word value ∧ e.Writes key value)
    ∨ word = default ∧ e.attribute? key = none

end Xml.Element

/-- The word for a truth value. -/
def truthWord : Bool → Text
  | true => "true".toList
  | false => "false".toList

/-! ## Elements that render a description -/

/-- The element renders the parameter. -/
structure ParameterDescription.Renders (p : ParameterDescription) (e : Element) : Prop where
  name : e.Writes "name".toList p.name.text
  type : e.Writes "type".toList p.type.text
  isIn : e.WritesWordOr "in".toList (truthWord false) (truthWord p.isIn)
  isOut : e.WritesWordOr "out".toList (truthWord false) (truthWord p.isOut)

/-- The parameters in an element render those of a list, in order. -/
def RendersParameters (parameters : List ParameterDescription) (e : Element) : Prop :=
  List.Forall₂ ParameterDescription.Renders parameters (e.childrenNamed "parameter".toList)

/-- The element says what is returned. -/
def RendersReturns (returns : PlainName) (e : Element) : Prop :=
  e.WritesOr "returns".toList "System.Void".toList returns.text

/-- The element renders the method. -/
structure MethodDescription.Renders (m : MethodDescription) (e : Element) : Prop where
  name : e.Writes "name".toList m.name.text
  returns : RendersReturns m.returns e
  isStatic : e.WritesWordOr "static".toList (truthWord true) (truthWord m.isStatic)
  library : e.WritesAny "dllImport".toList (m.library.map (·.text))
  convention : e.WritesAny "callingConvention".toList (m.convention.map (·.text))
  parameters : RendersParameters m.parameters e

/-- The element says how a type of the kind is called. -/
def KindDescription.RendersInvoke : KindDescription → Element → Prop
  | .delegateKind returns parameters, e =>
      RendersReturns returns e ∧ RendersParameters parameters e
  | _, _ => True

/-- The element renders the type. -/
structure TypeDescription.Renders (t : TypeDescription) (e : Element) : Prop where
  fullName : e.Writes "fullName".toList t.fullName.text
  /-- A namespace is left out if none is given, and may be if the name shows it. -/
  namespaceName :
    (∃ given, t.namespaceName = some given ∧ e.Writes "namespace".toList given.text)
      ∨ t.fullNamespace = t.fullName.shownNamespace ∧ e.attribute? "namespace".toList = none
  kind : e.WritesWordOr "kind".toList TypeKind.classKind.spelling t.kind.kind.spelling
  isGeneric : e.WritesWordOr "generic".toList (truthWord false) (truthWord t.isGeneric)
  convention : e.WritesAny "callingConvention".toList (t.convention.map (·.text))
  invoke : t.kind.RendersInvoke e
  methods : List.Forall₂ MethodDescription.Renders t.methods (e.childrenNamed "method".toList)

/-- The element renders the assembly. -/
structure AssemblyDescription.Renders (a : AssemblyDescription) (e : Element) : Prop where
  tag : e.tag = "assembly".toList
  name : e.WritesOr "name".toList [] a.name.text
  types : List.Forall₂ TypeDescription.Renders a.types (e.childrenNamed "type".toList)

/-! ## One rendering -/

/-- An element without blanks around its values, with every attribute that has one. -/
def ParameterDescription.toElement (p : ParameterDescription) : Element :=
  .node "parameter".toList
    [("name".toList, p.name.text), ("type".toList, p.type.text), ("in".toList, truthWord p.isIn),
     ("out".toList, truthWord p.isOut)]
    []

/-- The attribute, if there is a value for it. -/
def attributeOf (name : Text) (value : Option Text) : List (Text × Text) :=
  value.toList.map fun value => (name, value)

/-- An element for the method. -/
def MethodDescription.toElement (m : MethodDescription) : Element :=
  .node "method".toList
    ([("name".toList, m.name.text), ("returns".toList, m.returns.text),
      ("static".toList, truthWord m.isStatic)]
      ++ attributeOf "dllImport".toList (m.library.map (·.text))
      ++ attributeOf "callingConvention".toList (m.convention.map (·.text)))
    (m.parameters.map ParameterDescription.toElement)

/-- The attributes for a kind that is called. -/
def KindDescription.attributes : KindDescription → List (Text × Text)
  | .delegateKind returns _ => [("returns".toList, returns.text)]
  | _ => []

/-- The parameters of a kind that is called. -/
def KindDescription.parameters : KindDescription → List ParameterDescription
  | .delegateKind _ parameters => parameters
  | _ => []

/-- An element for the type. -/
def TypeDescription.toElement (t : TypeDescription) : Element :=
  .node "type".toList
    ([("fullName".toList, t.fullName.text), ("kind".toList, t.kind.kind.spelling),
      ("generic".toList, truthWord t.isGeneric)]
      ++ attributeOf "namespace".toList (t.namespaceName.map (·.text))
      ++ attributeOf "callingConvention".toList (t.convention.map (·.text))
      ++ t.kind.attributes)
    (t.kind.parameters.map ParameterDescription.toElement
      ++ t.methods.map MethodDescription.toElement)

/-- An element for the assembly. -/
def AssemblyDescription.toElement (a : AssemblyDescription) : Element :=
  .node "assembly".toList [("name".toList, a.name.text)] (a.types.map TypeDescription.toElement)

end PointerBindings
