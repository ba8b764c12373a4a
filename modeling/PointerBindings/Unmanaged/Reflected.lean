import PointerBindings.Catalog
import PointerBindings.Signature
import PointerBindings.Text.Blank
import PointerBindings.Text.LowerCase
import PointerBindings.Unmanaged.Policy

/-! # Reflected types — managed types as unmanaged ones

    A delegate becomes an opaque pointer.  Any other type keeps its markers and gets
    a new base: a nested type its enclosing types and no namespace, a framework
    primitive its native spelling, and all others their simple name.  The brackets of
    an array become pointer markers.  Only a name that cannot be divided into base
    and markers has no unmanaged text. -/

namespace PointerBindings

open Text

/-! ## Tables -/

/-- Framework types by their full name and how they are spelled natively. -/
def primitiveSpellings : List (Text × Text) :=
  [("System.Boolean".toList, "bool".toList),
    ("System.Byte".toList, "byte".toList),
    ("System.SByte".toList, "sbyte".toList),
    ("System.UInt16".toList, "ushort".toList),
    ("System.Int16".toList, "short".toList),
    ("System.UInt32".toList, "uint".toList),
    ("System.Int32".toList, "int".toList),
    ("System.UInt64".toList, "ulong".toList),
    ("System.Int64".toList, "long".toList),
    ("System.Single".toList, "float".toList),
    ("System.Double".toList, "double".toList),
    ("System.Decimal".toList, "decimal".toList),
    ("System.String".toList, "byte*".toList),
    ("System.Text.StringBuilder".toList, "byte*".toList),
    ("System.Char".toList, "char".toList),
    ("System.Void".toList, "void".toList)]

/-- Framework integers of pointer size and their short names. -/
def wordSpellings : List (Text × Text) :=
  [("System.IntPtr".toList, "nint".toList),
    ("System.UIntPtr".toList, "nuint".toList)]

/-- The native spelling of a framework type, if it has one. -/
def primitiveSpelling? (word : WordSize) (fullName : Text) : Option Text :=
  match word with
  | .intPtr => primitiveSpellings.lookup fullName
  | .nint => (primitiveSpellings ++ wordSpellings).lookup fullName

/-- Managed calling conventions in small letters and their unmanaged names. -/
def conventionSpellings : List (Text × Text) :=
  [("cdecl".toList, "Cdecl".toList),
    ("stdcall".toList, "Stdcall".toList),
    ("fastcall".toList, "Fastcall".toList),
    ("thiscall".toList, "Thiscall".toList)]

/-- The unmanaged name of a managed convention; one that is unknown names nothing. -/
def unmanagedConvention (convention : Option Text) : Option Text :=
  convention.bind fun t => conventionSpellings.lookup (lower (trim t))

/-! ## Types -/

/-- A name inside a namespace. -/
def qualifiedName (namespaceName name : Text) : Text :=
  if namespaceName = [] then name else namespaceName ++ '.' :: name

/-- The name without its namespace, enclosing types kept and set off by points. -/
def nestedName (t : TypeReference) : Text :=
  let local? := if t.namespaceName = [] then none else after? (t.namespaceName ++ ['.']) t.fullName
  exchange '+' '.' (local?.getD t.fullName)

/-- The name a type goes by before its markers are looked at. -/
def plainName? (t : TypeReference) : Option Text :=
  if '+' ∈ t.fullName then some (nestedName t) else t.name?

/-- The name with a framework primitive at its base spelled natively. -/
def nativeName? (o : TypePolicy) (t : TypeReference) (name : Text) : Option Text :=
  if o.keepsTypeNames then some name
  else
    match divideName? name with
    | none => none
    | some (base, markers) =>
        match primitiveSpelling? o.word (qualifiedName t.namespaceName base) with
        | some native => some (native ++ spellMarkers markers)
        | none => some name

/-- An array marker read as a pointer marker. -/
def Marker.decayed : Marker → Marker
  | .array => .pointer
  | m => m

/-- The name with its array markers read as pointer markers. -/
def decayedName? (name : Text) : Option Text :=
  (divideName? name).map fun (base, markers) => base ++ spellMarkers (markers.map Marker.decayed)

/-- The text of a type. -/
def TypeReference.unmanaged? (o : TypePolicy) (t : TypeReference) : Option Text :=
  if t.isDelegate then some opaquePointer
  else do
    let plain ← plainName? t
    let native ← nativeName? o t plain
    if t.isArray then decayedName? native else some native

/-! ## Parameters -/

/-- The direction of a parameter passed by reference. -/
def ReflectedParameter.direction (p : ReflectedParameter) : Text :=
  if p.isIn then "in".toList else if p.isOut then "out".toList else "ref".toList

/-- The name without the reference marks at its end. -/
def dropReferences (name : Text) : Text :=
  (name.reverse.dropWhile (· == '&')).reverse

/-- The text of a parameter's type: a reference keeps its direction or becomes a
    pointer, as the policy has it. -/
def ReflectedParameter.typeText? (o : TypePolicy) (p : ReflectedParameter) : Option Text :=
  (p.type.unmanaged? o).map fun text =>
    if !p.type.isByRef then text
    else if o.keepsByRef then p.direction ++ ' ' :: dropReferences text
    else exchange '&' '*' text

/-- A parameter with the unmanaged text of its type. -/
def ReflectedParameter.unmanaged? (o : TypePolicy) (p : ReflectedParameter) :
    Option Parameter :=
  (p.typeText? o).map fun type => ⟨type, p.name⟩

/-- The unmanaged parameters, in order. -/
def unmanagedParameters? (o : TypePolicy) (parameters : List ReflectedParameter) :
    Option (List Parameter) :=
  parameters.mapM (ReflectedParameter.unmanaged? o)

/-! ## Signatures -/

/-- The signature of a method under the given name and convention. -/
def Method.signature? (o : TypePolicy) (m : Method) (name : Text)
    (convention : Option Text) : Option Signature := do
  let returnType ← m.returnType.unmanaged? o
  let parameters ← unmanagedParameters? o m.parameters
  return { name, returnType, convention := unmanagedConvention convention, parameters }

end PointerBindings
