import PointerBindings.CommandLine.Value
import PointerBindings.CommandLine.Word
import PointerBindings.HeaderUnit

/-! # Invocations — a command line understood

    The first argument is the command, and all words behind it are the command's own.
    The words of a command are taken in order: options are filled in, the later of two
    holding, and the first argument is the input, with a qualifier only right behind it.
    The first word at fault decides; only then is asked what is missing, only then what
    was left over, and last whether a choice was emptied.

    Two hyphens as the value of an option empty it: it has been given, and holds
    nothing.  An emptied text counts as none and an emptied decision as a negative
    one, but an emptied choice is no choice at all.  In this, too, the option parser is
    taken as it is before its release 3.11.9 (`Draft.setValue`); from that release on the
    two hyphens are the value, like any other word. -/

namespace PointerBindings.CommandLine

open Text

/-! ## Faults -/

/-- Why a command line is refused. -/
inductive UsageFault where
  | ambiguous (a : Ambiguity)
  | valueMissing (form : OptionForm)
  /-- An option that takes no value has one. -/
  | valueIgnored (form : OptionForm) (value : Text)
  | badValue (name : Text) (fault : ValueFault)
  | missing (names : List Text)
  | unrecognized (words : List Text)
deriving DecidableEq

/-- The beginning of a report on one option. -/
def aboutOption (name : Text) : Text :=
  "argument ".toList ++ name ++ ": ".toList

/-- The fault in words. -/
def UsageFault.message : UsageFault → Text
  | .ambiguous a =>
      "ambiguous option: ".toList ++ a.word ++ " could match ".toList
        ++ joined ", ".toList a.spellings
  | .valueMissing form => aboutOption form.name ++ "expected one argument".toList
  | .valueIgnored form value =>
      aboutOption form.name ++ "ignored explicit argument ".toList ++ quoted value
  | .badValue name fault => aboutOption name ++ fault.message
  | .missing names =>
      "the following arguments are required: ".toList ++ joined ", ".toList names
  | .unrecognized words => "unrecognized arguments: ".toList ++ joined [' '] words

/-- A choice that was emptied. -/
inductive EmptiedChoice where
  | scope
  | loader
deriving DecidableEq

/-- The fault in words. -/
def EmptiedChoice.message : EmptiedChoice → Text
  | .scope => "[] is not a valid Scope".toList
  | .loader => "[] is not a valid FunctionLoader".toList

/-- Why there is nothing to run. -/
inductive Refusal where
  /-- How to use the program, or one of its commands, was asked. -/
  | help (command : Option Command)
  | fault (command : Option Command) (fault : UsageFault)
  /-- The scope or the loader was emptied. -/
  | emptied (choice : EmptiedChoice)
deriving DecidableEq

/-- The name of the program. -/
def programName : Text :=
  "fnptr-gen".toList

/-- The line that reports a fault. -/
def faultLine (command : Option Command) (fault : UsageFault) : Text :=
  programName ++ (match command with
    | none => []
    | some c => ' ' :: c.spelling)
    ++ ": error: ".toList ++ fault.message ++ ['\n']

/-! ## What a command is told -/

/-- Where the functions come from. -/
inductive Task where
  | textList (path : Text)
  | delegates (path qualifier : Text) (policy : TypePolicy)
  | imports (path qualifier : Text) (policy : TypePolicy)
  | header (request : HeaderRequest) (policy : TypePolicy) (frontEndPath : Option Text)

/-- A command line understood. -/
structure Invocation where
  task : Task
  settings : Settings
  output : Option Text := none
  /-- The options that were emptied, except for include folders. -/
  emptied : List OptionKey := []

/-- The input of a task. -/
def Task.input : Task → Text
  | .textList path | .delegates path _ _ | .imports path _ _ => path
  | .header request _ _ => request.path

/-- The command of a task. -/
def Task.command : Task → Command
  | .textList _ => .textList
  | .delegates .. => .delegates
  | .imports .. => .imports
  | .header .. => .header

/-! ## Taking the words of a command -/

/-- What has been told so far. -/
structure Draft where
  settings : Settings := {}
  policy : TypePolicy := {}
  output : Option Text := none
  includeFolders : List (Option Text) := []
  callbacks : Bool := false
  frontEndPath : Option Text := none
  input : Option Text := none
  qualifier : Text := ['*']
  leftOver : List Text := []
  /-- The options that hold nothing by now although they were given. -/
  emptied : List OptionKey := []

/-- The word that empties an option. -/
def emptyingWord : Text :=
  "--".toList

/-- Empties an option. -/
def Draft.empty (d : Draft) (key : OptionKey) : Draft :=
  match key with
  | .namespaceName => { d with settings := { d.settings with namespaceName := none } }
  | .className => { d with settings := { d.settings with className := none } }
  | .convention => { d with settings := { d.settings with convention := none } }
  | .indentation => { d with settings := { d.settings with indentation := .list [] } }
  | .lineEnd => { d with settings := { d.settings with lineEnd := none } }
  | .output => { d with output := none }
  | .wordSize => { d with policy := { d.policy with word := .intPtr } }
  | .keepsByRef => { d with policy := { d.policy with keepsByRef := false } }
  | .keepsTypeNames => { d with policy := { d.policy with keepsTypeNames := false } }
  | .includeFolder => { d with includeFolders := d.includeFolders ++ [none] }
  | .frontEndPath => { d with frontEndPath := none }
  | .scope | .loader | .help | .notInlined | .callbacks => d

/-- Fills in an option that has a value. -/
def Draft.fill (d : Draft) (key : OptionKey) (value : Text) : Except ValueFault Draft :=
  match key with
  | .namespaceName =>
      .ok { d with settings := { d.settings with namespaceName := some value } }
  | .className => .ok { d with settings := { d.settings with className := some value } }
  | .convention => .ok { d with settings := { d.settings with convention := some value } }
  | .indentation => do
      let n ← readIndentation value
      return { d with settings := { d.settings with indentation := .whole n } }
  | .scope => do
      let scope ← readChoice offeredScopes value
      return { d with settings := { d.settings with scope := .known scope } }
  | .loader => do
      let loader ← readChoice offeredLoaders value
      return { d with settings := { d.settings with loader := .known loader } }
  | .lineEnd => do
      let lineEnd ← readChoice offeredLineEnds value
      return { d with settings := { d.settings with lineEnd := some lineEnd } }
  | .output => .ok { d with output := some value }
  | .wordSize => .ok { d with policy := { d.policy with word := readWordSize value } }
  | .keepsByRef => do
      let keepsByRef ← readTruth value
      return { d with policy := { d.policy with keepsByRef } }
  | .keepsTypeNames => do
      let keepsTypeNames ← readTruth value
      return { d with policy := { d.policy with keepsTypeNames } }
  | .includeFolder => .ok { d with includeFolders := d.includeFolders ++ [some value] }
  | .frontEndPath => .ok { d with frontEndPath := some value }
  | .help | .notInlined | .callbacks => .ok d

/-- Takes the value of an option, which either empties it or fills it in. -/
def Draft.setValue (d : Draft) (key : OptionKey) (value : Text) : Except ValueFault Draft :=
  let others := d.emptied.filter (· ≠ key)
  if value = emptyingWord then
    .ok { d.empty key with emptied := if key = .includeFolder then others else key :: others }
  else ({ d with emptied := others }).fill key value

/-- Fills in an option without a value. -/
def Draft.setFlag (d : Draft) (c : Command) (key : OptionKey) : Except Refusal Draft :=
  match key with
  | .help => .error (.help (some c))
  | .notInlined => .ok { d with settings := { d.settings with inlined := false } }
  | .callbacks => .ok { d with callbacks := true }
  | _ => .ok d

/-- Fills in an option, after the short ones that stand before it in the same word. -/
def Draft.setOption (d : Draft) (c : Command) (flags : List OptionForm) (form : OptionForm)
    (value : Text) : Except Refusal Draft := do
  let d ← flags.foldlM (fun d f => d.setFlag c f.key) d
  match d.setValue form.key value with
  | .ok d => .ok d
  | .error fault => .error (.fault (some c) (.badValue form.name fault))

/-- How far the arguments of a command have come. -/
inductive ArgumentStage where
  | beforeInput
  /-- Right behind the input, where a qualifier may stand. -/
  | behindInput
  /-- Right behind the last argument. -/
  | behindLast
  | finished
deriving DecidableEq

/-- An option ends a run of arguments. -/
def ArgumentStage.interrupted : ArgumentStage → ArgumentStage
  | .beforeInput => .beforeInput
  | _ => .finished

/-- Takes an argument.  Two hyphens that are an argument leave the qualifier as it is. -/
def Draft.takeArgument (d : Draft) (c : Command) (stage : ArgumentStage) (t : Text) :
    Draft × ArgumentStage :=
  match stage with
  | .beforeInput =>
      ({ d with input := some t }, if c.takesQualifier then .behindInput else .behindLast)
  | .behindInput =>
      ((if t = "--".toList then d else { d with qualifier := t }), .behindLast)
  | _ => ({ d with leftOver := d.leftOver ++ [t] }, .finished)

/-- Takes two hyphens that open the arguments; they belong to an argument next to them,
    and without one they are left over. -/
def Draft.takeSeparator (d : Draft) (stage : ArgumentStage) (rest : List Word) :
    Draft × ArgumentStage :=
  let isLeftOver := match stage with
    | .beforeInput => rest.isEmpty
    | .finished => true
    | _ => false
  if isLeftOver then ({ d with leftOver := d.leftOver ++ ["--".toList] }, stage)
  else (d, if stage = .behindLast then .finished else stage)

/-- Takes the words of a command. -/
def Draft.take (c : Command) (d : Draft) (stage : ArgumentStage) : List Word → Except Refusal Draft
  | [] => .ok d
  | .argument t :: rest =>
      take c (d.takeArgument c stage t).1 (d.takeArgument c stage t).2 rest
  | .separator :: rest =>
      take c (d.takeSeparator stage rest).1 (d.takeSeparator stage rest).2 rest
  | .unknown t :: rest =>
      take c { d with leftOver := d.leftOver ++ [t] } stage.interrupted rest
  | .option form (some value) flags :: rest =>
      if form.takesValue then do
        let d ← d.setOption c flags form value
        take c d stage.interrupted rest
      else .error (.fault (some c) (.valueIgnored form value))
  | .option form none flags :: rest =>
      if form.takesValue then
        match rest with
        | .argument value :: rest => do
            let d ← d.setOption c flags form value
            take c d stage.interrupted rest
        | _ => .error (.fault (some c) (.valueMissing form))
      else do
        let d ← (flags ++ [form]).foldlM (fun d f => d.setFlag c f.key) d
        take c d stage.interrupted rest

/-! ## The whole command line -/

/-- An option that has to be given was, or it was emptied. -/
def Draft.wasGiven (d : Draft) (key : OptionKey) (value : Option Text) : Bool :=
  value.isSome || d.emptied.contains key

/-- The names of what a command still has to be told. -/
def Draft.missing (d : Draft) (c : Command) : List Text :=
  (if d.wasGiven .namespaceName d.settings.namespaceName then [] else [namespaceForm.name])
    ++ (if d.wasGiven .className d.settings.className then [] else [classForm.name])
    ++ (if d.input.isNone then [c.inputName] else [])

/-- The task of a command on an input. -/
def Draft.task (d : Draft) (c : Command) (input : Text) : Task :=
  match c with
  | .textList => .textList input
  | .delegates => .delegates input d.qualifier d.policy
  | .imports => .imports input d.qualifier d.policy
  | .header =>
      .header
        { path := input
          includeFolders := d.includeFolders
          mode := if d.callbacks then .callbacks else .functions }
        d.policy d.frontEndPath

/-- What a command makes of the words behind it, and the words left over. -/
def Command.understand (c : Command) (texts : List Text) :
    Except Refusal (Invocation × List Text) := do
  let words ← match Word.ofTexts c.forms texts with
    | .ok words => .ok words
    | .error a => .error (Refusal.fault (some c) (.ambiguous a))
  let d ← Draft.take c {} .beforeInput words
  match d.missing c, d.input with
  | [], some input =>
      let invocation : Invocation :=
        { task := d.task c input, settings := d.settings, output := d.output, emptied := d.emptied }
      return (invocation, d.leftOver)
  | names, _ => .error (.fault (some c) (.missing names))

/-- The commands by the words that call them. -/
def offeredCommands : List (Text × Command) :=
  Command.all.map fun c => (c.spelling, c)

/-- What the argument that calls a command is called. -/
def commandName : Text :=
  "COMMAND".toList

/-- The invocation, unless it lacks a choice that was emptied. -/
def Invocation.chosen (i : Invocation) : Except Refusal Invocation :=
  if i.emptied.contains .scope then .error (.emptied .scope)
  else if i.emptied.contains .loader then .error (.emptied .loader)
  else .ok i

/-- What the command line makes of its first argument and the words behind it. -/
def callCommand (leftOver : List Text) (word : Text) (rest : List Text) :
    Except Refusal Invocation :=
  match readChoice offeredCommands word with
  | .error fault => .error (.fault none (.badValue commandName fault))
  | .ok c => do
      let (invocation, more) ← c.understand rest
      if (leftOver ++ more).isEmpty then invocation.chosen
      else .error (.fault none (.unrecognized (leftOver ++ more)))

/-- Understands a command line in front of which some words were left over. -/
def understandFrom (leftOver : List Text) : List Text → Except Refusal Invocation
  | [] => .error (.fault none (.missing [commandName]))
  | t :: rest =>
      if t = "--".toList then
        if rest.isEmpty then .error (.fault none (.missing [commandName]))
        else callCommand leftOver t rest
      else
        match Word.ofText [helpForm] t with
        | .error a => .error (.fault none (.ambiguous a))
        | .ok (.option form (some value) _) => .error (.fault none (.valueIgnored form value))
        | .ok (.option _ none _) => .error (.help none)
        | .ok (.unknown t) => understandFrom (leftOver ++ [t]) rest
        | .ok (.argument t) => callCommand leftOver t rest
        | .ok .separator => callCommand leftOver t rest

/-- Understands a command line. -/
def Invocation.ofArguments (arguments : List Text) : Except Refusal Invocation :=
  understandFrom [] arguments

end PointerBindings.CommandLine
