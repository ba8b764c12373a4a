import PointerBindings.Catalog.Document
import PointerBindings.CommandLine.Invocation
import PointerBindings.Generation

/-! # Runs — from a command line to a class

    A run opens its input, checks the settings, generates the whole text and only then
    delivers it: to the file that was named, or to standard output.  A fault on the way
    is reported and leaves every file as it was.  Some faults are not reported but break
    the run off: an emptied choice, a catalog in an unknown character set, a type name
    that cannot be divided, and an output file that cannot be written.

    It is assumed that standard output and standard error accept every line, whatever its
    characters (`Invocation.deliver`), and that an output file cannot be written for the
    sake of its path only: permissions and full disks are left out (`Breakdown`). -/

namespace PointerBindings.CommandLine

open Text

/-! ## Faults -/

/-- Why a run comes to no text. -/
inductive RunFault where
  | file (fault : FileFault)
  | noCatalog (path : Text)
  | catalog (fault : CatalogFault)
  | header (fault : HeaderFault)
  | generator (fault : GeneratorFault)
  | generation (fault : GenerationFault)

/-- The fault in words. -/
def RunFault.message : RunFault → Text
  | .file fault => fault.message
  | .noCatalog path => "Catalog file not found: ".toList ++ path
  | .catalog fault => fault.message
  | .header fault => fault.message
  | .generator fault => fault.message
  | .generation fault => fault.message

/-- Why a run breaks off without a report. -/
inductive Breakdown where
  | emptied (choice : EmptiedChoice)
  /-- A catalog declares a character set that nobody knows. -/
  | unknownCharset
  | undividedName
  | noLineEnd
  /-- The output file cannot be written. -/
  | output (fault : FileFault)
deriving DecidableEq

/-- The breakdown that a fault amounts to, if it is not to be reported. -/
def RunFault.breakdown? : RunFault → Option Breakdown
  | .catalog (.document .unknownCharset) => some .unknownCharset
  | .catalog (.undividedName _) => some .undividedName
  | .generation (.source .undividedName) => some .undividedName
  | .generation .noLineEnd => some .noLineEnd
  | _ => none

/-! ## Reports -/

/-- How a run ends. -/
inductive Ending where
  | completed
  /-- A fault was reported. -/
  | failed
  /-- The command line was not understood. -/
  | refused
  /-- How to use the program was shown. -/
  | helped
  | brokenOff (cause : Breakdown)
deriving DecidableEq

/-- The status that a run hands back, if it ends by itself. -/
def Ending.status? : Ending → Option Nat
  | .completed | .helped => some 0
  | .failed => some 1
  | .refused => some 2
  | .brokenOff _ => none

/-- What a run leaves behind. -/
structure Report where
  ending : Ending
  /-- What was written to standard output. -/
  standard : Text := []
  /-- What was written to standard error. -/
  errors : Text := []
  /-- The folder after the run. -/
  folder : Folder
  /-- What the front end was asked. -/
  calls : List FrontEndCall := []
  /-- Where the front end was looked for, if the command line said so. -/
  frontEndPath : Option Text := none

/-- Lines, each with its line end. -/
def linesOf (lines : List Text) : Text :=
  lines.flatMap (· ++ ['\n'])

/-! ## Opening the input -/

/-- What came of opening the input: a source or a fault, the lines reported on the way and
    what the front end was asked. -/
structure OpenedInput where
  result : Except RunFault Source
  reports : List Text := []
  calls : List FrontEndCall := []
  frontEndPath : Option Text := none

/-- The catalog at a path. -/
def readCatalog (folder : Folder) (path : Text) : Except RunFault Catalog :=
  match folder.read path with
  | .error fault =>
      .error (if fault.cause = .missing then .noCatalog path else .file fault)
  | .ok bytes =>
      match Catalog.ofBytes bytes with
      | .ok catalog => .ok catalog
      | .error fault => .error (.catalog fault)

/-- Where the front end is to be looked for; an empty path says nothing. -/
def namedPath : Option Text → Option Text
  | some [] => none
  | path => path

/-- Opens the input of a task. -/
def Task.open (folder : Folder) (frontEnd : FrontEnd) : Task → OpenedInput
  | .textList path =>
      match folder.read path with
      | .error fault => { result := .error (.file fault) }
      | .ok bytes => { result := .ok (.ofStream (.ofFile bytes)) }
  | .delegates path qualifier policy =>
      { result := (readCatalog folder path).map fun catalog =>
          .ofDelegates catalog (some qualifier) policy }
  | .imports path qualifier policy =>
      { result := (readCatalog folder path).map fun catalog =>
          .ofImports catalog (some qualifier) policy }
  | .header request policy path =>
      let reading := request.read folder frontEnd
      { result := match reading.result with
          | .ok kept => .ok (.ofDeclarations kept request.mode policy)
          | .error fault => .error (.header fault)
        reports := reading.reports
        calls := reading.calls
        frontEndPath := namedPath path }

/-! ## Running -/

/-- The file that the text goes to; without one, or with an empty path, it goes to standard
    output. -/
def Invocation.target (i : Invocation) : Option Text :=
  namedPath i.output

/-- The lines that say what is being done, if they are not in the way of the text. -/
def Invocation.announcement (i : Invocation) : List Text :=
  match i.target with
  | none => []
  | some _ =>
      ["Processing: ".toList ++ i.task.input ++ " (".toList ++ i.task.command.spelling ++ [')']]

/-- The report of a run that a fault ended. -/
def OpenedInput.failure (o : OpenedInput) (folder : Folder) (announced : List Text)
    (fault : RunFault) : Report :=
  let report : Report :=
    { ending := .failed, standard := linesOf announced, errors := linesOf o.reports, folder,
      calls := o.calls, frontEndPath := o.frontEndPath }
  match fault.breakdown? with
  | some cause => { report with ending := .brokenOff cause }
  | none => { report with errors := linesOf (o.reports ++ ["Error: ".toList ++ fault.message]) }

/-- Delivers the text of a class. -/
def Invocation.deliver (i : Invocation) (o : OpenedInput) (folder : Folder) (text : Text) :
    Report :=
  let report : Report :=
    { ending := .completed, standard := linesOf i.announcement, errors := linesOf o.reports,
      folder, calls := o.calls, frontEndPath := o.frontEndPath }
  match i.target with
  | none => { report with standard := text ++ ['\n'] }
  | some path =>
      match folder.placeToWrite path with
      | .error fault => { report with ending := .brokenOff (.output fault) }
      | .ok place =>
          { report with
            standard :=
              linesOf (i.announcement ++ ["Generated function pointers: ".toList ++ path])
            folder := folder.put place (.file (toUtf8 text)) }

/-- Runs an invocation in a folder. -/
def Invocation.run (i : Invocation) (folder : Folder) (frontEnd : FrontEnd) : Report :=
  let opened := i.task.open folder frontEnd
  match opened.result with
  | .error fault => opened.failure folder [] fault
  | .ok source =>
      match Generator.ofSettings i.settings source with
      | .error fault => opened.failure folder [] (.generator fault)
      | .ok generator =>
          match generator.generate.1 with
          | .error fault => opened.failure folder i.announcement (.generation fault)
          | .ok text => i.deliver opened folder text

/-- Runs a command line in a folder. -/
def run (arguments : List Text) (folder : Folder) (frontEnd : FrontEnd) : Report :=
  match Invocation.ofArguments arguments with
  | .ok invocation => invocation.run folder frontEnd
  | .error (.help _) => { ending := .helped, folder }
  | .error (.emptied choice) => { ending := .brokenOff (.emptied choice), folder }
  | .error (.fault command fault) =>
      { ending := .refused, errors := faultLine command fault, folder }

end PointerBindings.CommandLine
