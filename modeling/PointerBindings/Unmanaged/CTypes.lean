import PointerBindings.CType
import PointerBindings.Signature
import PointerBindings.Text.Blank
import PointerBindings.Text.Numeral
import PointerBindings.Unmanaged.Policy

/-! # C types — C types as unmanaged ones

    A type is followed from node to node: through pointers and arrays, each of which
    leaves one star behind, through the type that an elaborated type names and through
    the canonical type of a typedef.  The walk ends at a builtin type, at a name worth
    keeping, or at a function, which becomes an opaque pointer.  Typedefs for integers
    of pointer size are known by name before they are seen through.  A typedef that is
    its own canonical type leads nowhere and has no unmanaged text. -/

namespace PointerBindings

open Text

/-! ## Tables -/

/-- The native spelling of a builtin type; both long types have four bytes. -/
def BuiltinKind.unmanaged : BuiltinKind → Text
  | .void => "void".toList
  | .bool => "bool".toList
  | .charSigned => "sbyte".toList
  | .charUnsigned => "byte".toList
  | .unsignedChar => "byte".toList
  | .signedChar => "sbyte".toList
  | .wideChar => "char".toList
  | .char16 => "char".toList
  | .char32 => "uint".toList
  | .short => "short".toList
  | .unsignedShort => "ushort".toList
  | .int => "int".toList
  | .unsignedInt => "uint".toList
  | .long => "int".toList
  | .unsignedLong => "uint".toList
  | .longLong => "long".toList
  | .unsignedLongLong => "ulong".toList
  | .float => "float".toList
  | .double => "double".toList

/-- The type is plain `char`. -/
def CTypeKind.isPlainChar : CTypeKind → Bool
  | .builtin .charSigned => true
  | .builtin .charUnsigned => true
  | _ => false

/-- The signed integer of pointer size. -/
def WordSize.signedWord : WordSize → Text
  | .intPtr => "IntPtr".toList
  | .nint => "nint".toList

/-- The unsigned integer of pointer size. -/
def WordSize.unsignedWord : WordSize → Text
  | .intPtr => "UIntPtr".toList
  | .nint => "nuint".toList

/-- Typedefs that are known by name and their spelling. -/
def knownTypedefs (word : WordSize) : List (Text × Text) :=
  [("size_t".toList, word.unsignedWord),
    ("uintptr_t".toList, word.unsignedWord),
    ("ssize_t".toList, word.signedWord),
    ("ptrdiff_t".toList, word.signedWord),
    ("intptr_t".toList, word.signedWord),
    ("wchar_t".toList, "char".toList)]

/-- Words that qualify a type and do not change it. -/
def qualifierWords : List Text :=
  ["const".toList, "volatile".toList, "restrict".toList]

/-- Words that say what a tag belongs to, each with the space behind it. -/
def tagWords : List Text :=
  ["struct ".toList, "enum ".toList, "union ".toList, "class ".toList]

/-- Words that cannot be used as names unless they are escaped. -/
def reservedWords : List Text :=
  ["abstract".toList, "as".toList, "base".toList, "bool".toList, "break".toList, "byte".toList,
    "case".toList, "catch".toList, "char".toList, "checked".toList, "class".toList,
    "const".toList, "continue".toList, "decimal".toList, "default".toList, "delegate".toList,
    "do".toList, "double".toList, "else".toList, "enum".toList, "event".toList,
    "explicit".toList, "extern".toList, "false".toList, "finally".toList, "fixed".toList,
    "float".toList, "for".toList, "foreach".toList, "goto".toList, "if".toList,
    "implicit".toList, "in".toList, "int".toList, "interface".toList, "internal".toList,
    "is".toList, "lock".toList, "long".toList, "namespace".toList, "new".toList,
    "null".toList, "object".toList, "operator".toList, "out".toList, "override".toList,
    "params".toList, "private".toList, "protected".toList, "public".toList,
    "readonly".toList, "ref".toList, "return".toList, "sbyte".toList, "sealed".toList,
    "short".toList, "sizeof".toList, "stackalloc".toList, "static".toList, "string".toList,
    "struct".toList, "switch".toList, "this".toList, "throw".toList, "true".toList,
    "try".toList, "typeof".toList, "uint".toList, "ulong".toList, "unchecked".toList,
    "unsafe".toList, "ushort".toList, "using".toList, "virtual".toList, "void".toList,
    "volatile".toList, "while".toList]

/-! ## Names -/

/-- A name that may be used for a parameter. -/
def escapeReserved (name : Text) : Text :=
  if reservedWords.contains name then '@' :: name else name

/-- A spelling without its qualifiers, its words one space apart. -/
def cleanSpelling (spelling : Text) : Text :=
  joined [' '] ((words spelling).filter fun w => !qualifierWords.contains w)

/-- A spelling without the word that its tag belongs to. -/
def stripTag (spelling : Text) : Text :=
  (tagWords.findSome? fun word => after? word spelling).getD spelling

/-! ## Types -/

/-- The text of a type under a star. -/
def starred (text : Text) : Text :=
  text ++ ['*']

/-- The text of a type, or of the type that stands for a missing one. -/
def CType.unmanaged? (word : WordSize) : CType → Option Text
  | .mk kind spelling pointee element named canonical _ _ _ =>
      match kind with
      | .pointer =>
          match pointee with
          | none => some (starred opaquePointer)
          | some target =>
              if target.isFunction then some opaquePointer
              else if target.kind.isPlainChar then some "byte*".toList
              else (target.unmanaged? word).map starred
      | .array _ =>
          match element with
          | none => some (starred opaquePointer)
          | some item => (item.unmanaged? word).map starred
      | .builtin b => some b.unmanaged
      | .elaborated =>
          match (knownTypedefs word).lookup (cleanSpelling spelling) with
          | some known => some known
          | none =>
              match named with
              | none => some (stripTag (cleanSpelling spelling))
              | some target =>
                  if target.kind = .invalid then some (stripTag (cleanSpelling spelling))
                  else target.unmanaged? word
      | .typeAlias =>
          match (knownTypedefs word).lookup (cleanSpelling spelling) with
          | some known => some known
          | none =>
              match canonical with
              | none => none
              | some target =>
                  if target.kind = .record || target.kind = .enum then
                    some (cleanSpelling spelling)
                  else if target.kind.isFunction then some opaquePointer
                  else target.unmanaged? word
      | .record => some (stripTag (cleanSpelling spelling))
      | .enum => some (stripTag (cleanSpelling spelling))
      | _ =>
          match cleanSpelling spelling with
          | [] => some opaquePointer
          | text => some text
termination_by structural t => t

/-! ## Parameters -/

/-- The name of a parameter; one without a name is numbered from 0. -/
def parameterName (position : Nat) (name : Text) : Text :=
  escapeReserved (if name = [] then "param".toList ++ decimal position else name)

/-- Parameters from the given position on. -/
def unmanagedArgumentsFrom? (word : WordSize) (position : Nat) :
    List (Text × CType) → Option (List Parameter)
  | [] => some []
  | (name, type) :: rest => do
      let text ← type.unmanaged? word
      let others ← unmanagedArgumentsFrom? word (position + 1) rest
      return ⟨text, parameterName position name⟩ :: others

/-- The parameters for named C types, in order. -/
def unmanagedArguments? (word : WordSize) (arguments : List (Text × CType)) :
    Option (List Parameter) :=
  unmanagedArgumentsFrom? word 0 arguments

end PointerBindings
