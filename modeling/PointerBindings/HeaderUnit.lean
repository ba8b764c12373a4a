import PointerBindings.Folder
import PointerBindings.Unmanaged.CTypes

/-! # Header units — declarations of a C header

    A C front end reads a header and answers with the declarations at its top level
    and with diagnostics.  Either functions or callback typedefs are of interest; kept
    is the first eligible declaration of each name that lies in the header itself.
    Errors are reported and do not stop the reading, fatal errors do. -/

namespace PointerBindings

open Text

/-! ## What the front end answers -/

/-- What a declaration declares. -/
inductive CDeclarationKind where
  | function
  | typeAlias
  | other
deriving DecidableEq, Inhabited

/-- Where a declaration stands. -/
inductive CPlace where
  /-- In the file that the front end was asked to read. -/
  | mainFile
  /-- In no file. -/
  | nowhere
  | file (name : Text)
deriving DecidableEq, Inhabited

/-- A declaration inside another one. -/
structure InnerDeclaration where
  isParameter : Bool
  name : Text
deriving DecidableEq, Inhabited

/-- A declaration at the top level. -/
structure CDeclaration where
  kind : CDeclarationKind
  name : Text
  place : CPlace := .mainFile
  /-- The type of a function. -/
  type : CType := CType.absent
  /-- The type that a typedef names. -/
  underlying : CType := CType.absent
  /-- The parameters of a function. -/
  arguments : List (Text × CType) := []
  inner : List InnerDeclaration := []
deriving Inhabited

/-- Something the front end has to say; from level 3 on it is an error, from level 4 on a
    fatal one. -/
structure Diagnostic where
  severity : Int
  text : Text

/-- What the front end made of a header. -/
structure HeaderUnit where
  declarations : List CDeclaration := []
  diagnostics : List Diagnostic := []

/-- The front end as a run finds it. -/
inductive FrontEnd where
  /-- Its library cannot be loaded. -/
  | unavailable (message : Text)
  /-- It cannot read the header. -/
  | refuses (message : Text)
  | answers (unit : HeaderUnit)

/-- What the front end is asked to read, and how. -/
structure FrontEndCall where
  path : Text
  arguments : List Text
deriving DecidableEq

/-! ## What is asked for -/

/-- Which declarations are of interest. -/
inductive HeaderMode where
  | functions
  | callbacks
deriving DecidableEq, Inhabited

/-- A header and how it is to be read. -/
structure HeaderRequest where
  path : Text
  /-- The folders to look for further headers in; one of them may be left empty. -/
  includeFolders : List (Option Text) := []
  extraArguments : List Text := []
  mode : HeaderMode := .functions

/-- The path as messages show it and the front end gets it. -/
def HeaderRequest.shownPath (r : HeaderRequest) : Text :=
  Folder.plainPath r.path

/-- A folder as the front end gets it; one that was left empty shows as brackets. -/
def shownFolder (folder : Option Text) : Text :=
  folder.getD "[]".toList

/-- What the front end is asked. -/
def HeaderRequest.call (r : HeaderRequest) : FrontEndCall :=
  ⟨r.shownPath,
    ["-x".toList, "c".toList] ++ r.includeFolders.map (fun f => "-I".toList ++ shownFolder f)
      ++ r.extraArguments⟩

/-- Why a header yields nothing. -/
inductive HeaderFault where
  | notFound (path : Text)
  /-- A path cannot be looked at. -/
  | file (fault : FileFault)
  | noFrontEnd (message : Text)
  | refused (path message : Text)
  | fatal (path : Text) (errors : List Text)
deriving DecidableEq

/-- The fault in words. -/
def HeaderFault.message : HeaderFault → Text
  | .notFound path => "Header file not found: ".toList ++ path
  | .file fault => fault.message
  | .noFrontEnd message => message
  | .refused path message => "Failed to parse ".toList ++ path ++ ": ".toList ++ message
  | .fatal path errors =>
      "Fatal parsing errors in ".toList ++ path ++ ". Errors: ".toList
        ++ joined "; ".toList errors

/-! ## Which declarations are kept -/

/-- The declaration lies in the header itself, by where the two paths lead. -/
def CDeclaration.isIn (d : CDeclaration) (folder : Folder) (header : Text) : Bool :=
  match d.place with
  | .mainFile => true
  | .nowhere => false
  | .file name => folder.destination name = folder.destination header

/-- The name of the file that the declaration lies in, if it holds the null character, so
    that nobody can tell where it leads. -/
def CDeclaration.untoldPlace? (d : CDeclaration) : Option Text :=
  match d.place with
  | .file name => if Char.ofNat 0 ∈ name then some name else none
  | _ => none

/-- A function type, or what a pointer to one points to. -/
def CType.prototypeHere? (t : CType) : Option CType :=
  let target := if t.kind = .pointer then t.pointee else t
  if target.kind.isFunction then some target else none

/-- The function type behind a callback typedef, as it is written if that shows it, else as
    it is once all typedefs are seen through. -/
def CDeclaration.prototype? (d : CDeclaration) : Option CType :=
  d.underlying.prototypeHere?.orElse fun _ => d.underlying.canonical.prototypeHere?

/-- The function takes more than it declares. -/
def CDeclaration.isVariadicFunction (d : CDeclaration) : Bool :=
  d.type.kind = .prototype && d.type.isVariadic

/-- What becomes of a declaration that lies in the header. -/
inductive Verdict where
  | kept
  /-- It is passed over without a word. -/
  | passedOver
  /-- It is passed over with a warning. -/
  | warned
deriving DecidableEq

/-- What becomes of a declaration whose name has not been kept yet. -/
def CDeclaration.verdict (mode : HeaderMode) (d : CDeclaration) : Verdict :=
  match mode with
  | .callbacks =>
      if d.kind = .typeAlias && d.prototype?.isSome then .kept else .passedOver
  | .functions =>
      if d.kind ≠ .function then .passedOver
      else if d.isVariadicFunction then .warned
      else .kept

/-- The warning about a declaration that is passed over. -/
def CDeclaration.warning (d : CDeclaration) : Text :=
  "Warning: Skipping variadic function: ".toList ++ d.name

/-- The declarations of a header that are kept, and the warnings about the others, where
    the given names have been kept already. -/
def collectDeclarations (mode : HeaderMode) (seen : List Text) :
    List CDeclaration → List CDeclaration × List Text
  | [] => ([], [])
  | d :: rest =>
      if d.name ∈ seen then collectDeclarations mode seen rest
      else
        match d.verdict mode with
        | .kept =>
            let (kept, warnings) := collectDeclarations mode (d.name :: seen) rest
            (d :: kept, warnings)
        | .passedOver => collectDeclarations mode seen rest
        | .warned =>
            let (kept, warnings) := collectDeclarations mode seen rest
            (kept, d.warning :: warnings)

/-! ## Reading a header -/

/-- What came of reading a header: the declarations or a fault, the lines reported on the
    way, and what the front end was asked. -/
structure HeaderReading where
  result : Except HeaderFault (List CDeclaration)
  reports : List Text := []
  calls : List FrontEndCall := []

/-- The diagnostics that are errors. -/
def HeaderUnit.errors (u : HeaderUnit) : List Text :=
  (u.diagnostics.filter fun d => 3 ≤ d.severity).map Diagnostic.text

/-- Some diagnostic is a fatal error. -/
def HeaderUnit.isFatal (u : HeaderUnit) : Bool :=
  u.diagnostics.any fun d => 4 ≤ d.severity

/-- The declarations that are kept and the warnings about the others; a declaration whose
    place cannot be told ends the reading. -/
def HeaderRequest.collect (r : HeaderRequest) (folder : Folder) (all : List CDeclaration) :
    Except HeaderFault (List CDeclaration) × List Text :=
  let placed := all.takeWhile fun d => d.untoldPlace?.isNone
  let (kept, warnings) :=
    collectDeclarations r.mode [] (placed.filter fun d => d.isIn folder r.shownPath)
  match all.findSome? CDeclaration.untoldPlace? with
  | some name => (.error (.file ⟨.nullInPath, name⟩), warnings)
  | none => (.ok kept, warnings)

/-- Reads a header of the folder with the given front end. -/
def HeaderRequest.read (r : HeaderRequest) (folder : Folder) (frontEnd : FrontEnd) :
    HeaderReading :=
  let path := r.shownPath
  match folder.holdsFile path with
  | .error fault => { result := .error (.file fault) }
  | .ok false => { result := .error (.notFound path) }
  | .ok true =>
      match frontEnd with
      | .unavailable message => { result := .error (.noFrontEnd message) }
      | .refuses message =>
          { result := .error (.refused path message), calls := [r.call] }
      | .answers unit =>
          let errors := unit.errors
          let reports := errors.map fun e => "Error in ".toList ++ path ++ ": ".toList ++ e
          if unit.isFatal then
            { result := .error (.fatal path errors), reports, calls := [r.call] }
          else
            let (result, warnings) := r.collect folder unit.declarations
            { result, reports := reports ++ warnings, calls := [r.call] }

/-! ## Signatures -/

/-- The signature of a declared function. -/
def CDeclaration.functionSignature? (word : WordSize) (d : CDeclaration) : Option Signature := do
  let returnType ← d.type.result.unmanaged? word
  let parameters ← unmanagedArguments? word d.arguments
  return { name := d.name, returnType, parameters }

/-- The arguments of a callback: each type with the name that is written for it, or with
    none if the names are not as many as the types. -/
def CDeclaration.callbackArguments (d : CDeclaration) (prototype : CType) :
    List (Text × CType) :=
  let types := if prototype.kind = .prototype then prototype.arguments else []
  let names := (d.inner.filter InnerDeclaration.isParameter).map InnerDeclaration.name
  if names.length = types.length then names.zip types else types.map fun t => ([], t)

/-- The signature of a callback with the given function type. -/
def CDeclaration.callbackSignature? (word : WordSize) (d : CDeclaration) (prototype : CType) :
    Option Signature := do
  let returnType ← prototype.result.unmanaged? word
  let parameters ← unmanagedArguments? word (d.callbackArguments prototype)
  return { name := d.name, returnType, parameters }

/-- The signature of a declaration that was kept. -/
def CDeclaration.signature? (word : WordSize) (mode : HeaderMode) (d : CDeclaration) :
    Option Signature :=
  match mode with
  | .functions => d.functionSignature? word
  | .callbacks => d.prototype?.bind (d.callbackSignature? word)

end PointerBindings
