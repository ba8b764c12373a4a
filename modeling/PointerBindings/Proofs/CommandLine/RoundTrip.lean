import Mathlib.Data.List.Nodup
import PointerBindings.Proofs.CommandLine.Spelling

/-! # Command lines read back — every value that can be told is told

    A command line that gives the values of a command's parameters names the command and then,
    in any order, whatever options are not left out, with the input and its qualifier in one
    place among them.  Options about different things do not get in each other's way
    (`Draft.enter_comm`), so only the order of include folders counts, and what is understood are
    the values that were written (`Invocation.ofArguments_writtenAs`). -/

namespace PointerBindings.CommandLine

open Text

/-! ## The order of options -/

namespace OptionValue

/-- The value is an include folder, of which there may be many. -/
def isFolder (v : OptionValue) : Bool :=
  v.key = .includeFolder

/-- No include folder is said by being left out. -/
theorem filter_isFolder_of_defaults {vs : List OptionValue} (h : vs ⊆ defaults) :
    vs.filter isFolder = [] := by
  have hdefaults : ∀ v ∈ defaults, v.isFolder = false := by decide
  refine List.filter_eq_nil_iff.mpr fun v hv => ?_
  rw [hdefaults v (h hv)]
  exact Bool.false_ne_true

end OptionValue

namespace Draft

/-- **Options about different things commute.** -/
theorem enter_comm {v w : OptionValue} (h : v.key ≠ w.key) (d : Draft) :
    (d.enter v).enter w = (d.enter w).enter v := by
  cases v with
  | _ =>
      cases w with
      | _ => first | rfl | exact absurd rfl h

/-- What options say that are left out is said from the beginning. -/
theorem foldl_enter_defaults {vs : List OptionValue} (h : vs ⊆ OptionValue.defaults) :
    vs.foldl enter {} = {} := by
  have hdefaults : ∀ v ∈ OptionValue.defaults, ({} : Draft).enter v = {} := by
    simp only [OptionValue.defaults, List.forall_mem_cons]
    exact ⟨rfl, rfl, rfl, rfl, rfl, rfl, rfl, rfl, rfl, rfl, rfl, rfl, nofun⟩
  induction vs with
  | nil => rfl
  | cons v vs ih =>
      obtain ⟨hv, hvs⟩ := List.cons_subset.mp h
      rw [List.foldl_cons, hdefaults v hv]
      exact ih hvs

/-- An option may wait for options about other things. -/
theorem foldl_enter_comm {v : OptionValue} {ws : List OptionValue} (h : ∀ w ∈ ws, v.key ≠ w.key)
    (d : Draft) : ws.foldl enter (d.enter v) = (ws.foldl enter d).enter v := by
  induction ws generalizing d with
  | nil => rfl
  | cons w ws ih =>
      rw [List.foldl_cons, List.foldl_cons, enter_comm (h w List.mem_cons_self)]
      exact ih (fun w' hw' => h w' (List.mem_cons_of_mem w hw')) _

/-- Include folders may wait for all other options. -/
theorem foldl_enter_folders_last (vs : List OptionValue) (d : Draft) :
    vs.foldl enter d
      = (vs.filter OptionValue.isFolder).foldl enter
          ((vs.filter fun v => !v.isFolder).foldl enter d) := by
  induction vs generalizing d with
  | nil => rfl
  | cons v vs ih =>
      rw [List.foldl_cons, ih, List.filter_cons, List.filter_cons]
      by_cases hfolder : v.isFolder = true
      · have hothers : ∀ w ∈ vs.filter fun w => !w.isFolder, v.key ≠ w.key := by
          intro w hw heq
          have hw' := (List.mem_filter.mp hw).2
          rw [OptionValue.isFolder, ← heq, ← OptionValue.isFolder, hfolder] at hw'
          exact nomatch hw'
        rw [if_pos hfolder, if_neg (by rw [hfolder]; decide), List.foldl_cons,
          foldl_enter_comm hothers]
      · rw [if_neg hfolder, if_pos (by rw [Bool.eq_false_iff.mpr hfolder]; rfl), List.foldl_cons]

/-- **The order does not count**: options are about different things, apart from include
    folders, and these keep their order. -/
theorem foldl_enter_perm {vs ws : List OptionValue} (h : vs.Perm ws)
    (hfolders : vs.filter OptionValue.isFolder = ws.filter OptionValue.isFolder)
    (hkeys : ((ws.filter fun w => !w.isFolder).map OptionValue.key).Nodup) (d : Draft) :
    vs.foldl enter d = ws.foldl enter d := by
  have hothers : (vs.filter fun v => !v.isFolder).Perm (ws.filter fun w => !w.isFolder) :=
    h.filter _
  have hcomm : ∀ v ∈ ws.filter (fun w => !w.isFolder), ∀ w ∈ ws.filter (fun w => !w.isFolder),
      ∀ d : Draft, (d.enter v).enter w = (d.enter w).enter v := by
    intro v hv w hw d
    by_cases hkey : v.key = w.key
    · rw [List.inj_on_of_nodup_map hkeys hv hw hkey]
    · exact enter_comm hkey d
  rw [foldl_enter_folders_last vs, foldl_enter_folders_last ws, hfolders,
    hothers.symm.foldl_eq' hcomm]

end Draft

/-! ## The values of a command -/

/-- A value for each parameter of a command. -/
structure CommandValues where
  input : Text
  qualifier : Text := ['*']
  namespaceName : Text
  className : Text
  convention : Option Text := none
  indentation : Fin 256 := 0
  scope : Scope := .static
  loader : Loader := .function
  inlined : Bool := true
  lineEnd : Option LineEnd := none
  output : Option Text := none
  policy : TypePolicy := {}
  includeFolders : List Text := []
  callbacks : Bool := false
  frontEndPath : Option Text := none

/-- The command has the option. -/
def Command.offers (c : Command) (key : OptionKey) : Bool :=
  !(c.spellings key).isEmpty

namespace CommandValues

/-- What all options say that are given once at most. -/
def singleOptions (v : CommandValues) : List OptionValue :=
  [.namespaceName v.namespaceName, .className v.className, .convention v.convention,
    .indentation v.indentation, .scope v.scope, .loader v.loader, .inlined v.inlined,
    .lineEnd v.lineEnd, .output v.output, .wordSize v.policy.word, .keepsByRef v.policy.keepsByRef,
    .keepsTypeNames v.policy.keepsTypeNames, .callbacks v.callbacks, .frontEndPath v.frontEndPath]

/-- What all options of a command say. -/
def options (v : CommandValues) (c : Command) : List OptionValue :=
  (v.singleOptions ++ v.includeFolders.map OptionValue.includeFolder).filter fun o => c.offers o.key

/-- The input is written, and the qualifier behind it; one that is a star may be left out. -/
inductive InputWrittenAs (v : CommandValues) (c : Command) : List Text → Prop where
  | alone (hinput : v.input.head? ≠ some '-')
      (hqualifier : c.takesQualifier = true → v.qualifier = ['*']) : InputWrittenAs v c [v.input]
  | qualified (hinput : v.input.head? ≠ some '-') (htakes : c.takesQualifier = true)
      (hqualifier : v.qualifier.head? ≠ some '-') : InputWrittenAs v c [v.input, v.qualifier]

/-- The command line gives the values to the command: some options that only repeat what is said
    without them are omitted, the others are written in front of the input or behind it in any
    order, and include folders in their own. -/
inductive WrittenAs (v : CommandValues) (c : Command) : List Text → Prop where
  | intro {omitted front back : List OptionValue} {frontTexts backTexts : List (List Text)}
      {inputTexts : List Text} (homitted : omitted ⊆ OptionValue.defaults)
      (hall : (omitted ++ (front ++ back)).Perm (v.options c))
      (hfolders : (front ++ back).filter OptionValue.isFolder
        = (v.options c).filter OptionValue.isFolder)
      (hfront : List.Forall₂ (OptionValue.WrittenAs c) front frontTexts)
      (hback : List.Forall₂ (OptionValue.WrittenAs c) back backTexts)
      (hinput : v.InputWrittenAs c inputTexts) :
      WrittenAs v c (c.spelling :: (frontTexts.flatten ++ (inputTexts ++ backTexts.flatten)))

/-- The settings with the values. -/
def settings (v : CommandValues) : Settings where
  namespaceName := some v.namespaceName
  className := some v.className
  scope := .known v.scope
  loader := .known v.loader
  inlined := v.inlined
  convention := v.convention
  lineEnd := v.lineEnd.map LineEnd.text
  indentation := .whole v.indentation

/-- The task of a command with the values. -/
def task (v : CommandValues) : Command → Task
  | .textList => .textList v.input
  | .delegates => .delegates v.input v.qualifier v.policy
  | .imports => .imports v.input v.qualifier v.policy
  | .header =>
      .header
        { path := v.input
          includeFolders := v.includeFolders.map some
          mode := if v.callbacks then .callbacks else .functions }
        v.policy v.frontEndPath

/-- The invocation of a command with the values. -/
def invocation (v : CommandValues) (c : Command) : Invocation where
  task := v.task c
  settings := v.settings
  output := v.output

/-- The draft with all that the options of a command say. -/
def draft (v : CommandValues) (c : Command) : Draft where
  settings := v.settings
  policy := if c.offers .wordSize then v.policy else {}
  output := v.output
  includeFolders := if c.offers .includeFolder then v.includeFolders.map some else []
  callbacks := c.offers .callbacks && v.callbacks
  frontEndPath := if c.offers .frontEndPath then v.frontEndPath else none

/-! ## What the options say -/

/-- Apart from include folders, each option speaks once. -/
theorem keys_options (v : CommandValues) (c : Command) :
    (((v.options c).filter fun o => !o.isFolder).map OptionValue.key).Nodup := by
  have hsingle : (v.singleOptions.map OptionValue.key).Nodup := by
    show [OptionKey.namespaceName, .className, .convention, .indentation, .scope, .loader,
      .notInlined, .lineEnd, .output, .wordSize, .keepsByRef, .keepsTypeNames, .callbacks,
      .frontEndPath].Nodup
    decide
  have hfolders : (v.includeFolders.map OptionValue.includeFolder).filter
      (fun o => !o.isFolder) = [] := by
    refine List.filter_eq_nil_iff.mpr fun o ho => ?_
    obtain ⟨path, -, rfl⟩ := List.mem_map.mp ho
    exact Bool.false_ne_true
  have hsub : ((v.options c).filter fun o => !o.isFolder).Sublist v.singleOptions := by
    rw [options, List.filter_comm, List.filter_append, hfolders, List.append_nil]
    exact List.filter_sublist.trans List.filter_sublist
  exact hsingle.sublist (hsub.map _)

/-- Include folders are entered one behind the other. -/
theorem foldl_enter_folders (paths : List Text) (d : Draft) :
    (paths.map OptionValue.includeFolder).foldl Draft.enter d
      = { d with includeFolders := d.includeFolders ++ paths.map some } := by
  induction paths generalizing d with
  | nil => rw [List.map_nil, List.map_nil, List.append_nil]; rfl
  | cons path paths ih =>
      rw [List.map_cons, List.foldl_cons, ih, List.map_cons]
      show ({ d with includeFolders := (d.includeFolders ++ [some path]) ++ _ } : Draft) = _
      rw [List.append_assoc]
      rfl

/-- What is entered for all options of a command. -/
theorem foldl_enter_options (v : CommandValues) (c : Command) :
    (v.options c).foldl Draft.enter {} = v.draft c := by
  have hsingle : (v.singleOptions.filter fun o => c.offers o.key).foldl Draft.enter {}
      = { v.draft c with includeFolders := [] } := by
    cases c with
    | _ => rfl
  rw [options, List.filter_append, List.foldl_append, hsingle]
  by_cases hoffers : c.offers .includeFolder = true
  · have hfolders : (v.includeFolders.map OptionValue.includeFolder).filter
        (fun o => c.offers o.key) = v.includeFolders.map OptionValue.includeFolder := by
      refine List.filter_eq_self.mpr fun o ho => ?_
      obtain ⟨path, -, rfl⟩ := List.mem_map.mp ho
      exact hoffers
    rw [hfolders, foldl_enter_folders, draft, if_pos hoffers]
    rfl
  · have hfolders : (v.includeFolders.map OptionValue.includeFolder).filter
        (fun o => c.offers o.key) = [] := by
      refine List.filter_eq_nil_iff.mpr fun o ho => ?_
      obtain ⟨path, -, rfl⟩ := List.mem_map.mp ho
      exact hoffers
    rw [hfolders, draft, if_neg hoffers]
    rfl

end CommandValues

/-! ## What is read -/

/-- The words of options are read one option after the other. -/
theorem Command.read_options {c : Command} {vs : List OptionValue} {texts : List (List Text)}
    (h : List.Forall₂ (OptionValue.WrittenAs c) vs texts) {d : Draft} (hd : d.emptied = [])
    (stage : ArgumentStage) (rest : List Text) :
    ∃ stage', (stage = .beforeInput → stage' = .beforeInput)
      ∧ c.read d stage (texts.flatten ++ rest) = c.read (vs.foldl Draft.enter d) stage' rest := by
  induction h generalizing d stage with
  | nil => exact ⟨stage, id, rfl⟩
  | @cons v words vs texts hv _ ih =>
      obtain ⟨stage', hstage, hread⟩ :=
        ih ((d.enter_emptied v).trans hd) stage.interrupted
      refine ⟨stage', fun h => hstage (by rw [h]; rfl), ?_⟩
      rw [List.flatten_cons, List.append_assoc, hv.read hd stage, List.foldl_cons]
      exact hread

/-- The draft with the input and the qualifier. -/
def Draft.withInput (d : Draft) (input qualifier : Text) : Draft :=
  { d with input := some input, qualifier }

/-- The input is read with its qualifier; a command without one keeps what it has. -/
theorem CommandValues.InputWrittenAs.read {v : CommandValues} {c : Command} {texts : List Text}
    (h : v.InputWrittenAs c texts) {d : Draft} (hd : d.qualifier = ['*']) :
    ∃ stage, ∀ rest, c.read d .beforeInput (texts ++ rest)
      = c.read (d.withInput v.input (if c.takesQualifier then v.qualifier else ['*'])) stage rest := by
  cases h with
  | alone hinput hqualifier =>
      obtain ⟨hne, hargument⟩ := Word.ofText_argument c.forms hinput
      have hkeeps : (if c.takesQualifier then v.qualifier else ['*']) = d.qualifier := by
        rw [hd]
        split
        · rename_i htakes
          exact hqualifier htakes
        · rfl
      rw [hkeeps]
      exact ⟨_, Command.read_cons hne hargument fun words => by rw [Draft.take]; rfl⟩
  | qualified hinput htakes hqualifier =>
      obtain ⟨hne, hargument⟩ := Word.ofText_argument c.forms hinput
      obtain ⟨hne', hargument'⟩ := Word.ofText_argument c.forms hqualifier
      rw [if_pos htakes]
      refine ⟨.behindLast, Command.read_cons_cons hne hargument hne' hargument' fun words => ?_⟩
      rw [Draft.take, Draft.take]
      simp only [Draft.takeArgument, htakes, if_true, if_neg hne']
      rfl

/-- Options leave the arguments alone. -/
theorem Draft.foldl_enter_keeps (vs : List OptionValue) (d : Draft) :
    (vs.foldl enter d).qualifier = d.qualifier ∧ (vs.foldl enter d).emptied = d.emptied
      ∧ ∀ input qualifier, vs.foldl enter (d.withInput input qualifier)
        = (vs.foldl enter d).withInput input qualifier := by
  induction vs generalizing d with
  | nil => exact ⟨rfl, rfl, fun _ _ => rfl⟩
  | cons v vs ih =>
      obtain ⟨hqualifier, hemptied, hinput⟩ := ih (d.enter v)
      have hv : (d.enter v).qualifier = d.qualifier
          ∧ ∀ input qualifier, (d.withInput input qualifier).enter v
            = (d.enter v).withInput input qualifier := by
        cases v with
        | _ => exact ⟨rfl, fun _ _ => rfl⟩
      refine ⟨hqualifier.trans hv.1, hemptied.trans (d.enter_emptied v), fun input qualifier => ?_⟩
      rw [List.foldl_cons, List.foldl_cons, hv.2]
      exact hinput input qualifier

/-- A draft that holds the values of a command is the invocation with them. -/
theorem Command.understand_of_read {c : Command} {v : CommandValues} {texts : List Text}
    (h : c.read {} .beforeInput texts
      = .ok ((v.draft c).withInput v.input (if c.takesQualifier then v.qualifier else ['*']))) :
    c.understand texts = .ok (v.invocation c, []) := by
  rw [read] at h
  rw [understand]
  cases hwords : Word.ofTexts c.forms texts with
  | error a => rw [hwords] at h; cases h
  | ok words =>
      rw [hwords] at h
      show (Draft.take c {} .beforeInput words >>= _) = _
      rw [show Draft.take c {} .beforeInput words = _ from h]
      cases c with
      | _ => rfl

/-- What is written is what is entered for all options: those that are omitted repeat what is
    said without them. -/
theorem CommandValues.foldl_enter_written {v : CommandValues} {c : Command}
    {omitted written : List OptionValue} (homitted : omitted ⊆ OptionValue.defaults)
    (hall : (omitted ++ written).Perm (v.options c))
    (hfolders : written.filter OptionValue.isFolder
      = (v.options c).filter OptionValue.isFolder) :
    written.foldl Draft.enter {} = v.draft c := by
  have hsame : (omitted ++ written).filter OptionValue.isFolder
      = (v.options c).filter OptionValue.isFolder := by
    rw [List.filter_append, OptionValue.filter_isFolder_of_defaults homitted, List.nil_append,
      hfolders]
  rw [← v.foldl_enter_options, ← Draft.foldl_enter_perm hall hsame (v.keys_options c),
    List.foldl_append, Draft.foldl_enter_defaults homitted]

/-- **Command lines read back.**  A command line that gives values to a command is understood as
    the invocation with these values. -/
theorem Invocation.ofArguments_writtenAs {v : CommandValues} {c : Command} {arguments : List Text}
    (h : v.WrittenAs c arguments) : ofArguments arguments = .ok (v.invocation c) := by
  obtain @⟨omitted, front, back, frontTexts, backTexts, inputTexts, homitted, hall, hfolders,
    hfront, hback, hinput⟩ := h
  obtain ⟨hqualifier, hemptied, -⟩ := Draft.foldl_enter_keeps front {}
  -- the words are read in three runs: what stands in front of the input, the input, the rest
  obtain ⟨stage, hstage, hreadFront⟩ :=
    Command.read_options hfront (d := {}) rfl .beforeInput (inputTexts ++ backTexts.flatten)
  obtain ⟨behind, hreadInput⟩ := hinput.read hqualifier
  obtain ⟨last, -, hreadBack⟩ := Command.read_options hback
    (d := (front.foldl Draft.enter {}).withInput v.input _) hemptied behind []
  have hdraft : (front ++ back).foldl Draft.enter {} = v.draft c :=
    CommandValues.foldl_enter_written homitted hall hfolders
  have hread : c.read {} .beforeInput (frontTexts.flatten ++ (inputTexts ++ backTexts.flatten))
      = .ok ((v.draft c).withInput v.input (if c.takesQualifier then v.qualifier else ['*'])) := by
    rw [hreadFront, hstage rfl, hreadInput, ← List.append_nil backTexts.flatten, hreadBack,
      (Draft.foldl_enter_keeps back _).2.2, ← List.foldl_append, hdraft]
    rfl
  rw [ofArguments_command, Command.understand_of_read hread]
  rfl

/-- Values for the command that reads headers, some of which look like options. -/
def headerValues : CommandValues where
  input := "a.h".toList
  namespaceName := "My Space".toList
  className := "--scope=C".toList
  indentation := ⟨4, by decide⟩
  inlined := false
  lineEnd := some .crlf
  output := some []
  includeFolders := ["-I".toList, "inc".toList]
  callbacks := true

/-- A command line that gives `headerValues`. -/
def headerArguments : List Text :=
  ["header", "--include=-I", "-n", "My Space", "--no-inline", "a.h", "-I", "inc",
    "--class=--scope=C", "--callbacks", "--indentation", "4", "-o", "", "--scope=static",
    "--newline=crlf"].map String.toList

/-- The values that look like options are read as they are. -/
theorem Invocation.ofArguments_writtenAs_header :
    headerValues.WrittenAs .header headerArguments
      ∧ ofArguments headerArguments = .ok (headerValues.invocation .header) := by
  have hwritten : headerValues.WrittenAs .header headerArguments := by
    refine @CommandValues.WrittenAs.intro headerValues .header
      [.convention none, .loader .function, .wordSize .intPtr, .keepsByRef true,
        .keepsTypeNames false, .frontEndPath none]
      [.includeFolder "-I".toList, .namespaceName "My Space".toList, .inlined false]
      [.includeFolder "inc".toList, .className "--scope=C".toList, .callbacks true,
        .indentation 4, .output (some []), .scope .static, .lineEnd (some .crlf)]
      [["--include=-I".toList], ["-n".toList, "My Space".toList], ["--no-inline".toList]]
      [["-I".toList, "inc".toList], ["--class=--scope=C".toList], ["--callbacks".toList],
        ["--indentation".toList, "4".toList], ["-o".toList, []], ["--scope=static".toList],
        ["--newline=crlf".toList]]
      ["a.h".toList] (by decide) (by decide) (by decide) ?_ ?_ ?_
    · exact
        .cons (@OptionValue.WrittenAs.assigned _ _ "--include".toList "-I".toList (by decide) rfl
            rfl (by decide))
          (.cons (.apart (by decide) rfl (by decide)) (.cons (.flag (by decide) rfl) .nil))
    · exact
        .cons (.apart (by decide) rfl (by decide))
          (.cons (@OptionValue.WrittenAs.assigned _ _ "--class".toList "--scope=C".toList
              (by decide) rfl rfl (by decide))
            (.cons (.flag (by decide) rfl)
              (.cons (.apart (by decide) rfl (by decide))
                (.cons (.apart (by decide) rfl (by decide))
                  (.cons (@OptionValue.WrittenAs.assigned _ _ "--scope".toList "static".toList
                      (by decide) rfl rfl (by decide))
                    (.cons (@OptionValue.WrittenAs.assigned _ _ "--newline".toList "crlf".toList
                        (by decide) rfl rfl (by decide)) .nil))))))
    · exact .alone (by decide) nofun
  exact ⟨hwritten, ofArguments_writtenAs hwritten⟩

end PointerBindings.CommandLine
