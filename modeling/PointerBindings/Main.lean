import PointerBindings.CommandLine.Run

/-! # The program — a command line run on the files at hand

    The program looks at the places that the paths of the command line lead through, runs
    the command line on what it found, and then does what the report says: it writes the
    file that was changed and prints what was written.  No C front end is linked into it,
    so a header is found but not read. -/

namespace PointerBindings.Main

open Text CommandLine

/-- The path from the root to a place. -/
def pathTo (place : List Text) : String :=
  String.ofList ('/' :: joined ['/'] place)

/-- The file at a place, if there is one; its bytes are left out unless they are asked
    for. -/
def fileAt? (withBytes : Bool) (place : List Text) : IO (Option FileNode) := do
  try
    let handle ← IO.FS.Handle.mk (pathTo place) .read
    if !withBytes then return some (.file [])
    return some (.file (← handle.readBinToEnd).toList)
  catch _ => return none

/-- What stands at a place. -/
def nodeAt? (withBytes : Bool) (place : List Text) : IO (Option FileNode) := do
  let path := (← IO.currentDir) / pathTo place
  if ← path.isDir then return some .folder
  fileAt? withBytes place

/-- The nodes that some names lead through, starting at a place. -/
def survey (withBytes : Bool) (place : List Text) :
    List Text → IO (List (List Text × FileNode))
  | [] => return []
  | name :: rest => do
      let next := Folder.advance place name
      match ← nodeAt? withBytes next with
      | none => return []
      | some node => return (next, node) :: (← survey withBytes next rest)

/-- The folder that the program was started in, without its files. -/
def startFolder : IO Folder := do
  let path ← IO.currentDir
  return ⟨[], Folder.plainSteps path.toString.toList⟩

/-- The folder as far as an invocation looks into it; its input is read. -/
def folderFor (i : Invocation) : IO Folder := do
  let folder ← startFolder
  let look (withBytes : Bool) (path : Text) :=
    survey withBytes (folder.start path) (Folder.plainSteps path)
  let input ← look true i.task.input
  let target ← i.target.toList.mapM (look false)
  return { folder with entries := input ++ target.flatten }

/-- The folder that a command line is run in. -/
def folderOf (arguments : List Text) : IO Folder :=
  match Invocation.ofArguments arguments with
  | .ok i => folderFor i
  | .error _ => startFolder

/-- The front end of a program without one. -/
def noFrontEnd : FrontEnd :=
  .unavailable "no C front end is available".toList

/-- Writes the files of a folder that differ from what was found. -/
def writeChanges (before after : Folder) : IO Unit := do
  for (place, node) in after.entries do
    match node with
    | .folder => pure ()
    | .file bytes =>
        if before.entries.lookup place ≠ some node then
          IO.FS.writeBinFile (pathTo place) (ByteArray.mk bytes.toArray)

/-- What is said of a run that broke off. -/
def breakdownLine : Breakdown → Text
  | .emptied choice => choice.message ++ ['\n']
  | .unknownCharset => "the catalog is in an unknown character set\n".toList
  | .undividedName => "a type name goes on behind a line feed\n".toList
  | .noLineEnd => "no line end is set\n".toList
  | .output fault => fault.message ++ ['\n']

/-- Runs a command line and hands back its status. -/
def runHere (arguments : List Text) : IO UInt32 := do
  let folder ← folderOf arguments
  let report := CommandLine.run arguments folder noFrontEnd
  writeChanges folder report.folder
  (← IO.getStdout).putStr (String.ofList report.standard)
  let stderr ← IO.getStderr
  stderr.putStr (String.ofList report.errors)
  match report.ending with
  | .brokenOff cause => stderr.putStr (String.ofList (breakdownLine cause))
  | _ => pure ()
  return UInt32.ofNat (report.ending.status?.getD 1)

end PointerBindings.Main

/-- The program. -/
def main (arguments : List String) : IO UInt32 :=
  PointerBindings.Main.runHere (arguments.map String.toList)
