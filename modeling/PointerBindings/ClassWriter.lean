import PointerBindings.Settings
import PointerBindings.Signature

/-! # Class writer — the lines of the generated class

    The class is written in sections: a preamble that opens the namespace and the
    class, one pointer field for each function, a loader that fills the fields in, one
    wrapper for each function and an epilogue that closes what the preamble opened.
    Each section is a list of lines without their ends.  The class body is indented
    by one unit, members by two and the bodies of members by three.

    The unit and the name by which the class refers to itself are settled when the
    writer is made; everything else is looked up when a line is written. -/

namespace PointerBindings

open Text

/-- Settings together with what was settled from them. -/
structure ClassWriter where
  settings : Settings
  /-- What one level of nesting is indented by. -/
  unit : Text
  /-- How the class refers to itself. -/
  qualifier : Text
deriving Inhabited

/-- A scope that is none of the known ones. -/
structure UnknownScope where
  value : LooseValue

/-- The fault in words. -/
def UnknownScope.message (f : UnknownScope) : Text :=
  "Unhandled scope: ".toList ++ f.value.shown

/-- A name as it is written into the class; one that is missing says so. -/
def writtenName (name : Option Text) : Text :=
  name.getD "None".toList

namespace ClassWriter

/-- A writer for the given settings. -/
def ofSettings (s : Settings) : Except UnknownScope ClassWriter :=
  match s.scope with
  | .known .perInstance => .ok ⟨s, s.indentUnit, "this".toList⟩
  | .known .static => .ok ⟨s, s.indentUnit, writtenName s.className⟩
  | .unknown value => .error ⟨value⟩

/-! ## Pieces of lines -/

/-- What is put behind a function's name to name its pointer field. -/
def fieldEnding : Text :=
  "Ptr".toList

/-- The name of a function's pointer field. -/
def fieldName (f : Signature) : Text :=
  f.name ++ fieldEnding

/-- The method that finds a function by its name. -/
def finderName : Text :=
  "LoadFunction".toList

/-- The members belong to the class itself. -/
def isStatic (w : ClassWriter) : Bool :=
  w.settings.scope.chooses .static

/-- The word in front of members that belong to the class. -/
def staticWord (w : ClassWriter) : Text :=
  if w.isStatic then "static ".toList else []

/-- A line at a level of nesting. -/
def line (w : ClassWriter) (depth : Nat) (content : Text) : Text :=
  (List.replicate depth w.unit).flatten ++ content

/-- The line that opens a block. -/
def opening (w : ClassWriter) (depth : Nat) : Text :=
  w.line depth ['\x7b']

/-- The line that closes a block. -/
def closing (w : ClassWriter) (depth : Nat) : Text :=
  w.line depth ['\x7d']

/-- The convention a function is called by: its own, or else the one that the settings
    give; none if that is blank too. -/
def conventionOf (w : ClassWriter) (f : Signature) : Option Text :=
  match f.convention with
  | some own => if allBlank own then fallback else some (trim own)
  | none => fallback
where
  fallback : Option Text :=
    match w.settings.convention with
    | some shared => if allBlank shared then none else some (trim shared)
    | none => none

/-- The types a pointer is declared with: those of the parameters, then the return
    type. -/
def pointerTypes (f : Signature) : List Text :=
  f.parameters.map Parameter.type ++ [f.returnType]

/-- The type of the pointer to a function. -/
def pointerType (w : ClassWriter) (f : Signature) : Text :=
  "delegate* unmanaged ".toList
    ++ (match w.conventionOf f with
      | some convention => '[' :: convention ++ "] ".toList
      | none => [])
    ++ '<' :: joined ", ".toList (pointerTypes f) ++ ['>']

/-- The head of a wrapper, without its visibility. -/
def header (w : ClassWriter) (f : Signature) : Text :=
  w.staticWord ++ f.returnType ++ ' ' :: f.name
    ++ '(' :: joined ", ".toList (f.parameters.map fun p => p.type ++ ' ' :: p.name) ++ [')']

/-! ## Sections -/

/-- The line that lets wrappers be marked for inlining. -/
def inliningUsing : Text :=
  "using System.Runtime.CompilerServices;".toList

/-- The mark in front of a wrapper that is to be inlined. -/
def inliningMark : Text :=
  "[MethodImpl(MethodImplOptions.AggressiveInlining)]".toList

/-- The lines up to the opening of the class. -/
def preamble (w : ClassWriter) : List Text :=
  "using System;".toList
    :: (if w.settings.inlined then [inliningUsing] else [])
    ++ [[],
      "namespace ".toList ++ writtenName w.settings.namespaceName,
      w.opening 0,
      w.line 1 (w.staticWord ++ "unsafe class ".toList ++ writtenName w.settings.className),
      w.opening 1]

/-- The field that holds the pointer to a function. -/
def pointerField (w : ClassWriter) (f : Signature) : Text :=
  w.line 2 ("private ".toList ++ w.staticWord ++ w.pointerType f ++ ' ' :: fieldName f ++ [';'])

/-- The opening of the loader: a method, or a constructor of the class or of its
    instances. -/
def loaderHeader (w : ClassWriter) : List Text :=
  let head :=
    if w.settings.loader.chooses .function then
      "public ".toList ++ w.staticWord ++ "void Init()".toList
    else if w.isStatic then
      "static ".toList ++ writtenName w.settings.className ++ "()".toList
    else "public ".toList ++ writtenName w.settings.className ++ "()".toList
  [w.line 2 head, w.opening 2]

/-- The line that fills in the field of a function. -/
def loaderAssignment (w : ClassWriter) (f : Signature) : Text :=
  w.line 3 (w.qualifier ++ '.' :: fieldName f ++ " = (".toList ++ w.pointerType f
    ++ ')' :: w.qualifier ++ '.' :: finderName ++ "(\"".toList ++ f.name ++ "\");".toList)

/-- The closing of the loader and the method that finds functions, left to be filled
    in. -/
def loaderFooter (w : ClassWriter) : List Text :=
  [w.closing 2,
    [],
    w.line 2 ("private ".toList ++ w.staticWord ++ "void* ".toList ++ finderName
      ++ "(string name)".toList),
    w.opening 2,
    w.line 3 "// Provide a native function loader".toList,
    w.line 3 "throw new NotImplementedException();".toList,
    w.closing 2,
    []]

/-- The call that a wrapper makes through the field of its function. -/
def call (w : ClassWriter) (f : Signature) : Text :=
  w.qualifier ++ '.' :: fieldName f
    ++ '(' :: joined ", ".toList (f.parameters.map Parameter.name) ++ ");".toList

/-- The method that calls a function through its pointer. -/
def wrapper (w : ClassWriter) (f : Signature) : List Text :=
  (if w.settings.inlined then [w.line 2 inliningMark] else [])
    ++ [w.line 2 ("public ".toList ++ w.header f),
      w.opening 2,
      w.line 3 ((if f.returnType = Signature.voidType then [] else "return ".toList) ++ w.call f),
      w.closing 2,
      []]

/-- The lines that close the class and the namespace. -/
def epilogue (w : ClassWriter) : List Text :=
  [w.closing 1, w.closing 0]

/-! ## The whole class -/

/-- The loader is written at all. -/
def hasLoader (w : ClassWriter) : Bool :=
  !w.settings.loader.chooses .none

/-- The fields of all functions. -/
def fieldSection (w : ClassWriter) (functions : List Signature) : List Text :=
  functions.map w.pointerField

/-- The loader with an assignment for each function, behind an empty line. -/
def loaderSection (w : ClassWriter) (functions : List Signature) : List Text :=
  [] :: w.loaderHeader ++ functions.map w.loaderAssignment ++ w.loaderFooter

/-- The wrappers of all functions, behind an empty line. -/
def wrapperSection (w : ClassWriter) (functions : List Signature) : List Text :=
  [] :: functions.flatMap w.wrapper

/-- The lines of the class for the given functions. -/
def classLines (w : ClassWriter) (functions : List Signature) : List Text :=
  w.preamble ++ w.fieldSection functions
    ++ (if w.hasLoader then w.loaderSection functions else [])
    ++ w.wrapperSection functions ++ w.epilogue

end ClassWriter

end PointerBindings
