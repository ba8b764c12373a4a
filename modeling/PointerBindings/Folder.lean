import PointerBindings.Text.Basic
import PointerBindings.Text.Quoted
import PointerBindings.Text.Utf8

/-! # Folders — the files that a run finds and writes

    A run works in one folder of a tree.  Files are listed by the names on the way to
    them from the root, and every folder on the way exists with them.  A path is walked
    step by step: each step asks that what has been reached so far is a folder, so a
    step through a missing or an ordinary file fails even if the next step would lead
    back.  Walked by its text alone, a path asks nothing of the files and always leads
    somewhere.

    Only a path can be at fault (`FileCause`).  It is assumed that whatever a path leads to
    may be read and written: permissions and full disks are left out. -/

namespace PointerBindings

open Text

/-- What a name in a folder stands for. -/
inductive FileNode where
  | file (bytes : List UInt8)
  | folder
deriving DecidableEq

/-- A folder, and all files and empty folders of the tree it stands in. -/
structure Folder where
  entries : List (List Text × FileNode)
  /-- The names on the way from the root to the folder. -/
  home : List Text := []

/-- Why a path leads to no file. -/
inductive FileCause where
  | missing
  /-- The path goes on behind an ordinary file. -/
  | notAFolder
  /-- The path leads to a folder. -/
  | isAFolder
  /-- The path, or a name on it, has too many bytes. -/
  | tooLong
  /-- The path holds the null character. -/
  | nullInPath
deriving DecidableEq

/-- A path that could not be used and the cause. -/
structure FileFault where
  cause : FileCause
  path : Text
deriving DecidableEq

/-- The fault in words. -/
def FileFault.message (f : FileFault) : Text :=
  match f.cause with
  | .missing => "[Errno 2] No such file or directory: ".toList ++ quoted f.path
  | .notAFolder => "[Errno 20] Not a directory: ".toList ++ quoted f.path
  | .isAFolder => "[Errno 21] Is a directory: ".toList ++ quoted f.path
  | .tooLong => "[Errno 36] File name too long: ".toList ++ quoted f.path
  | .nullInPath => "embedded null byte".toList

namespace Folder

/-! ## Looking at one place -/

/-- What stands at the given names, the names counted from the root. -/
def at? (f : Folder) (names : List Text) : Option FileNode :=
  if names.isPrefixOf f.home then some .folder
  else
    match f.entries.lookup names with
    | some node => some node
    | none =>
        if f.entries.any fun entry => names.isPrefixOf entry.1 then some .folder else none

/-! ## Walking a path -/

/-- The names of a path, the empty ones between neighbouring slashes left out. -/
def steps (path : Text) : List Text :=
  (splitAt '/' path).filter (· ≠ [])

/-- The place a path starts from: the root if a slash says so, else the folder. -/
def start (f : Folder) (path : Text) : List Text :=
  if path.head? = some '/' then [] else f.home

/-- One step by text alone: two points go back, at the root nowhere, and a name goes on. -/
def advance (place : List Text) (name : Text) : List Text :=
  if name = ['.', '.'] then place.dropLast else place ++ [name]

/-- How many bytes a name may have. -/
def nameLimit : Nat :=
  255

/-- How many bytes a path may have. -/
def pathLimit : Nat :=
  4095

/-- The text has more bytes than the limit allows. -/
def exceeds (limit : Nat) (t : Text) : Bool :=
  limit < (toUtf8 t).length

/-- One step from a place that has to be a folder; a point stays. -/
def step (f : Folder) (place : List Text) (name : Text) : Except FileCause (List Text) :=
  match f.at? place with
  | none => .error .missing
  | some (.file _) => .error .notAFolder
  | some .folder =>
      if exceeds nameLimit name then .error .tooLong
      else .ok (if name = ['.'] then place else advance place name)

/-- The place that names lead to from where a path starts. -/
def follow (f : Folder) (path : Text) (names : List Text) : Except FileCause (List Text) :=
  if Char.ofNat 0 ∈ path then .error .nullInPath
  else if path = [] then .error .missing
  else if exceeds pathLimit path then .error .tooLong
  else names.foldlM f.step (f.start path)

/-- The place a path leads to, which need not exist if all on the way does. -/
def walk (f : Folder) (path : Text) : Except FileCause (List Text) :=
  f.follow path (steps path)

/-- The path is written as that of a folder. -/
def endsInSlash (path : Text) : Bool :=
  path.getLast? = some '/'

/-! ## Using a path -/

/-- Whether the path leads to an ordinary file; only of a path that is too long this
    cannot be said. -/
def holdsFile (f : Folder) (path : Text) : Except FileFault Bool :=
  match f.walk path with
  | .ok place =>
      match f.at? place with
      | some (.file _) => .ok !endsInSlash path
      | _ => .ok false
  | .error .tooLong => .error ⟨.tooLong, path⟩
  | .error _ => .ok false

/-- The bytes of the file at a path. -/
def read (f : Folder) (path : Text) : Except FileFault (List UInt8) :=
  match f.walk path with
  | .error cause => .error ⟨cause, path⟩
  | .ok place =>
      match f.at? place with
      | none => .error ⟨.missing, path⟩
      | some .folder => .error ⟨.isAFolder, path⟩
      | some (.file bytes) =>
          if endsInSlash path then .error ⟨.notAFolder, path⟩ else .ok bytes

/-- The place that a file written to the path gets.  A path written as that of a folder
    gives none, and its last name is not looked at. -/
def placeToWrite (f : Folder) (path : Text) : Except FileFault (List Text) :=
  if endsInSlash path then
    match f.follow path ((steps path).dropLast ++ [['.']]) with
    | .error cause => .error ⟨cause, path⟩
    | .ok _ => .error ⟨.isAFolder, path⟩
  else
    match f.walk path with
    | .error cause => .error ⟨cause, path⟩
    | .ok place =>
        match f.at? place with
        | some .folder => .error ⟨.isAFolder, path⟩
        | _ => .ok place

/-- The folder with a node put at a place, in place of what stood there. -/
def put (f : Folder) (place : List Text) (node : FileNode) : Folder :=
  if f.entries.any fun entry => entry.1 = place then
    { f with entries :=
        f.entries.map fun entry => if entry.1 = place then (place, node) else entry }
  else { f with entries := f.entries ++ [(place, node)] }

/-! ## Paths as texts -/

/-- The root that a path begins with: none, one slash or exactly two. -/
def rootOf (path : Text) : Text :=
  match path.takeWhile (· == '/') with
  | [] => []
  | ['/', '/'] => ['/', '/']
  | _ => ['/']

/-- The names of a path without those that stay in place. -/
def plainSteps (path : Text) : List Text :=
  (steps path).filter (· ≠ ['.'])

/-- The path without doubled slashes and single points; the empty path is a point. -/
def plainPath (path : Text) : Text :=
  match rootOf path ++ joined ['/'] (plainSteps path) with
  | [] => ['.']
  | plain => plain

/-- The place a path leads to by its text alone. -/
def destination (f : Folder) (path : Text) : List Text :=
  (plainSteps path).foldl advance (f.start path)

end Folder

end PointerBindings
