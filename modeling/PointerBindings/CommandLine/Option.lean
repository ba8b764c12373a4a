import PointerBindings.Text.Basic

/-! # Options — what the commands understand

    Every command has the options that shape the class; the commands that spell
    types have those of the type policy too, and the one that reads headers has its own.
    Options are listed in one order, which is the order in which ambiguous spellings and
    missing options are reported. -/

namespace PointerBindings.CommandLine

open Text

/-- What an option is about. -/
inductive OptionKey where
  | help
  | namespaceName
  | className
  | convention
  | indentation
  | scope
  | loader
  | notInlined
  | lineEnd
  | output
  | wordSize
  | keepsByRef
  | keepsTypeNames
  | includeFolder
  | callbacks
  | frontEndPath
deriving DecidableEq

/-- An option with its spellings. -/
structure OptionForm where
  key : OptionKey
  spellings : List Text
  takesValue : Bool := true
deriving DecidableEq

/-- The name of the option in reports: all its spellings. -/
def OptionForm.name (f : OptionForm) : Text :=
  joined ['/'] f.spellings

/-- The commands. -/
inductive Command where
  /-- Signatures in a text file. -/
  | textList
  /-- Delegates in a catalog. -/
  | delegates
  /-- Imported methods in a catalog. -/
  | imports
  /-- Functions in a header. -/
  | header
deriving DecidableEq

/-- Every command, in the order they are offered. -/
def Command.all : List Command :=
  [.textList, .delegates, .imports, .header]

/-- The word that calls a command. -/
def Command.spelling : Command → Text
  | .textList => "txtlist".toList
  | .delegates => "delegate".toList
  | .imports => "pinvoke".toList
  | .header => "header".toList

/-- What the input of a command is called. -/
def Command.inputName : Command → Text
  | .textList => "file".toList
  | .delegates | .imports => "catalog".toList
  | .header => "header".toList

/-- The command takes a second word that narrows the types down. -/
def Command.takesQualifier : Command → Bool
  | .delegates | .imports => true
  | _ => false

/-- The option that shows how a command is used. -/
def helpForm : OptionForm :=
  ⟨.help, ["-h".toList, "--help".toList], false⟩

/-- The name of the namespace. -/
def namespaceForm : OptionForm :=
  ⟨.namespaceName, ["-n".toList, "--namespace".toList], true⟩

/-- The name of the class. -/
def classForm : OptionForm :=
  ⟨.className, ["-c".toList, "--class".toList], true⟩

/-- The options of every command. -/
def commonForms : List OptionForm :=
  [helpForm, namespaceForm, classForm,
   ⟨.convention, ["--callconv".toList], true⟩,
   ⟨.indentation, ["--indentation".toList], true⟩,
   ⟨.scope, ["--scope".toList], true⟩,
   ⟨.loader, ["--loader".toList], true⟩,
   ⟨.notInlined, ["--no-inline".toList], false⟩,
   ⟨.lineEnd, ["--newline".toList], true⟩,
   ⟨.output, ["-o".toList, "--output".toList], true⟩]

/-- The options of the commands that spell types. -/
def typeForms : List OptionForm :=
  [⟨.wordSize, ["--wordtype".toList], true⟩,
   ⟨.keepsByRef, ["--preserve-byrefs".toList], true⟩,
   ⟨.keepsTypeNames, ["--preserve-types".toList], true⟩]

/-- The options of the command that reads headers. -/
def headerForms : List OptionForm :=
  [⟨.includeFolder, ["-I".toList, "--include".toList], true⟩,
   ⟨.callbacks, ["--callbacks".toList], false⟩,
   ⟨.frontEndPath, ["--clang-path".toList], true⟩]

/-- The options of a command, in their order. -/
def Command.forms : Command → List OptionForm
  | .textList => commonForms
  | .delegates | .imports => commonForms ++ typeForms
  | .header => commonForms ++ typeForms ++ headerForms

/-- All spellings of some options, in their order. -/
def spellingsOf (forms : List OptionForm) : List (Text × OptionForm) :=
  forms.flatMap fun f => f.spellings.map fun s => (s, f)

end PointerBindings.CommandLine
