import PointerBindings.CommandLine.Run
import PointerBindings.Proofs.CommandLine.Output
import PointerBindings.Proofs.Folder.Writing

/-! # Delivery — what a run leaves behind

    A task comes to a text or to a fault before its output is looked at
    (`Task.makes_or_fails`), so an invocation either delivers that text or comes to none
    (`Invocation.run_cases`).  A run that does not complete leaves the folder as it was; a run
    that completes puts the text, and nothing besides it, where the output says
    (`run_delivers`). -/

namespace PointerBindings.CommandLine

open Text

/-! ## The text of a task -/

/-- The task comes to the text under the settings. -/
def Task.Makes (t : Task) (settings : Settings) (folder : Folder) (frontEnd : FrontEnd)
    (text : Text) : Prop :=
  ∃ source g, (t.open folder frontEnd).result = .ok source
    ∧ Generator.ofSettings settings source = .ok g ∧ g.generate.1 = .ok text

/-- A task comes to one text at most. -/
theorem Task.Makes.unique {t : Task} {settings : Settings} {folder : Folder}
    {frontEnd : FrontEnd} {text other : Text} (h : t.Makes settings folder frontEnd text)
    (h' : t.Makes settings folder frontEnd other) : other = text := by
  obtain ⟨source, g, hsource, hg, htext⟩ := h
  obtain ⟨source', g', hsource', hg', hother⟩ := h'
  obtain rfl : source' = source := Except.ok.inj (hsource'.symm.trans hsource)
  obtain rfl : g' = g := Except.ok.inj (hg'.symm.trans hg)
  exact Except.ok.inj (hother.symm.trans htext)

/-- The task comes to the fault under the settings: its input cannot be opened, the settings are
    refused, or a signature is missing. -/
inductive Task.FailsWith (t : Task) (settings : Settings) (folder : Folder) (frontEnd : FrontEnd) :
    RunFault → Prop where
  | opening {fault : RunFault} (h : (t.open folder frontEnd).result = .error fault) :
      FailsWith t settings folder frontEnd fault
  | settings {source : Source} {cause : GeneratorFault}
      (hsource : (t.open folder frontEnd).result = .ok source)
      (h : Generator.ofSettings settings source = .error cause) :
      FailsWith t settings folder frontEnd (.generator cause)
  | generation {source : Source} {g : Generator} {cause : GenerationFault}
      (hsource : (t.open folder frontEnd).result = .ok source)
      (hg : Generator.ofSettings settings source = .ok g) (h : g.generate.1 = .error cause) :
      FailsWith t settings folder frontEnd (.generation cause)

/-- A task comes to a text or to a fault. -/
theorem Task.makes_or_fails (t : Task) (settings : Settings) (folder : Folder)
    (frontEnd : FrontEnd) :
    (∃ text, t.Makes settings folder frontEnd text)
      ∨ ∃ fault, t.FailsWith settings folder frontEnd fault := by
  cases hsource : (t.open folder frontEnd).result with
  | error fault => exact Or.inr ⟨fault, .opening hsource⟩
  | ok source =>
      cases hg : Generator.ofSettings settings source with
      | error cause => exact Or.inr ⟨.generator cause, .settings hsource hg⟩
      | ok g =>
          cases htext : g.generate.1 with
          | error cause => exact Or.inr ⟨.generation cause, .generation hsource hg htext⟩
          | ok text => exact Or.inl ⟨text, source, g, hsource, hg, htext⟩

/-! ## Reports -/

/-- The report is that of a run that completed and left the text where the invocation
    says. -/
structure Report.Delivers (r : Report) (i : Invocation) (folder : Folder) (text : Text) :
    Prop where
  completed : r.ending = .completed
  /-- Without an output the text and a line feed are printed, and no file is touched. -/
  printed : i.output = none ∨ i.output = some [] →
    r.standard = text ++ ['\n'] ∧ r.folder = folder
  /-- With an output the file holds the text, no other place is touched, and two lines are
      printed. -/
  written : ∀ path, i.output = some path → path ≠ [] →
    r.standard
        = linesOf
            ["Processing: ".toList ++ i.task.input ++ " (".toList ++ i.task.command.spelling
              ++ [')'],
             "Generated function pointers: ".toList ++ path]
      ∧ r.folder.read path = .ok (toUtf8 text)
      ∧ ∃ place, folder.placeToWrite path = .ok place
        ∧ ∀ names, names ≠ place → r.folder.at? names = folder.at? names

/-- The output of the invocation can be written, if there is one. -/
def Invocation.Writable (i : Invocation) (folder : Folder) : Prop :=
  ∀ path, i.target = some path → ∃ place, folder.placeToWrite path = .ok place

theorem namedPath_of_ne {path : Text} (h : path ≠ []) : namedPath (some path) = some path := by
  cases path with
  | nil => exact absurd rfl h
  | cons c rest => rfl

theorem OpenedInput.failure_keeps (o : OpenedInput) (folder : Folder) (announced : List Text)
    (fault : RunFault) :
    (o.failure folder announced fault).ending ≠ .completed
      ∧ (o.failure folder announced fault).folder = folder := by
  rw [failure]
  cases fault.breakdown? with
  | none => exact ⟨nofun, rfl⟩
  | some cause => exact ⟨nofun, rfl⟩

/-- An output with a path is the target. -/
theorem Invocation.target_of_output {i : Invocation} {path : Text} (h : i.output = some path)
    (hne : path ≠ []) : i.target = some path := by
  rw [target, h, namedPath_of_ne hne]

/-- Without a target the text is printed. -/
theorem Invocation.deliver_of_no_target {i : Invocation} (o : OpenedInput) (folder : Folder)
    (text : Text) (h : i.target = none) : (i.deliver o folder text).Delivers i folder text where
  completed := by rw [deliver, h]
  printed _ := by rw [deliver, h]; exact ⟨rfl, rfl⟩
  written path houtput hne := nomatch h.symm.trans (target_of_output houtput hne)

/-- What is reported of a text that is written to its target. -/
theorem Invocation.deliver_of_target {i : Invocation} (o : OpenedInput) {folder : Folder}
    (text : Text) {path : Text} {place : List Text} (h : i.target = some path)
    (hplace : folder.placeToWrite path = .ok place) :
    (i.deliver o folder text).ending = .completed
      ∧ (i.deliver o folder text).standard
        = linesOf
            ["Processing: ".toList ++ i.task.input ++ " (".toList ++ i.task.command.spelling
              ++ [')'],
             "Generated function pointers: ".toList ++ path]
      ∧ (i.deliver o folder text).folder = folder.put place (.file (toUtf8 text)) := by
  rw [deliver, announcement, h]
  dsimp only
  rw [hplace]
  exact ⟨rfl, rfl, rfl⟩

/-- A text that can be delivered is delivered. -/
theorem Invocation.deliver_delivers {i : Invocation} {folder : Folder} (o : OpenedInput)
    (text : Text) (h : i.Writable folder) : (i.deliver o folder text).Delivers i folder text := by
  cases htarget : i.target with
  | none => exact deliver_of_no_target o folder text htarget
  | some path =>
      obtain ⟨place, hplace⟩ := h path htarget
      obtain ⟨-, hwalk, -⟩ := Folder.placeToWrite_eq_ok hplace
      obtain ⟨hending, hstandard, hfolder⟩ := deliver_of_target o text htarget hplace
      refine ⟨hending, ?_, ?_⟩
      · -- the target is none without an output, and with an empty one
        rintro (houtput | houtput)
        · rw [target, houtput] at htarget
          exact nomatch htarget
        · rw [target, houtput] at htarget
          exact nomatch htarget
      · intro other houtput hne
        obtain rfl : other = path :=
          Option.some.inj ((target_of_output houtput hne).symm.trans htarget)
        refine ⟨hstandard, ?_, place, hplace, ?_⟩
        · rw [hfolder]
          exact Folder.read_put (toUtf8 text) hplace
        · intro names hnames
          rw [hfolder]
          exact Folder.at?_put_of_ne _ (Folder.walk_reached hwalk) hnames

/-- An output that cannot be written is a target with a fault. -/
theorem Invocation.exists_fault_of_not_writable {i : Invocation} {folder : Folder}
    (h : ¬i.Writable folder) :
    ∃ path fault, i.target = some path ∧ folder.placeToWrite path = .error fault := by
  obtain ⟨path, hpath⟩ := Classical.not_forall.mp h
  obtain ⟨htarget, hplace⟩ := Classical.not_imp.mp hpath
  cases hwrite : folder.placeToWrite path with
  | error fault => exact ⟨path, fault, htarget, hwrite⟩
  | ok place => exact absurd ⟨place, hwrite⟩ hplace

/-- A text that cannot be delivered leaves the folder as it was. -/
theorem Invocation.deliver_keeps {i : Invocation} {folder : Folder} (o : OpenedInput)
    (text : Text) (h : ¬i.Writable folder) :
    (i.deliver o folder text).ending ≠ .completed
      ∧ (i.deliver o folder text).folder = folder := by
  obtain ⟨path, fault, htarget, hwrite⟩ := exists_fault_of_not_writable h
  rw [deliver, htarget]
  dsimp only
  rw [hwrite]
  exact ⟨nofun, rfl⟩

/-! ## Runs -/

/-- An invocation delivers the text of its task, if there is one. -/
theorem Invocation.run_of_makes {i : Invocation} {folder : Folder} {frontEnd : FrontEnd}
    {text : Text} (h : i.task.Makes i.settings folder frontEnd text) :
    i.run folder frontEnd = i.deliver (i.task.open folder frontEnd) folder text := by
  obtain ⟨source, g, hsource, hg, htext⟩ := h
  simp only [run, hsource, hg, htext]

/-- An invocation whose task comes to a fault ends with it. -/
theorem Invocation.run_of_fails {i : Invocation} {folder : Folder} {frontEnd : FrontEnd}
    {fault : RunFault} (h : i.task.FailsWith i.settings folder frontEnd fault) :
    ∃ announced,
      i.run folder frontEnd = (i.task.open folder frontEnd).failure folder announced fault := by
  cases h with
  | opening h => exact ⟨[], by simp only [run, h]⟩
  | settings hsource h => exact ⟨[], by simp only [run, hsource, h]⟩
  | generation hsource hg h => exact ⟨i.announcement, by simp only [run, hsource, hg, h]⟩

/-- An invocation whose task comes to a fault leaves the folder as it was. -/
theorem Invocation.run_of_fails_keeps {i : Invocation} {folder : Folder} {frontEnd : FrontEnd}
    {fault : RunFault} (h : i.task.FailsWith i.settings folder frontEnd fault) :
    (i.run folder frontEnd).ending ≠ .completed ∧ (i.run folder frontEnd).folder = folder := by
  obtain ⟨announced, hrun⟩ := run_of_fails h
  rw [hrun]
  exact OpenedInput.failure_keeps ..

/-- An invocation delivers the text of its task, or does not complete and leaves the folder
    as it was. -/
theorem Invocation.run_cases (i : Invocation) (folder : Folder) (frontEnd : FrontEnd) :
    (∃ text, i.task.Makes i.settings folder frontEnd text
        ∧ (i.run folder frontEnd).Delivers i folder text)
      ∨ ((i.run folder frontEnd).ending ≠ .completed
        ∧ (i.run folder frontEnd).folder = folder) := by
  rcases i.task.makes_or_fails i.settings folder frontEnd with ⟨text, htext⟩ | ⟨fault, hfails⟩
  · rw [run_of_makes htext]
    by_cases hwritable : i.Writable folder
    · exact Or.inl ⟨text, htext, deliver_delivers _ text hwritable⟩
    · exact Or.inr (deliver_keeps _ text hwritable)
  · exact Or.inr (run_of_fails_keeps hfails)

/-- A command line that is understood is run as the invocation. -/
theorem run_of_understood {arguments : List Text} {i : Invocation} (folder : Folder)
    (frontEnd : FrontEnd) (hi : Invocation.ofArguments arguments = .ok i) :
    run arguments folder frontEnd = i.run folder frontEnd := by
  rw [run, hi]

/-- A command line is run as the invocation it is understood as, or is not run. -/
theorem run_eq (arguments : List Text) (folder : Folder) (frontEnd : FrontEnd) :
    (∃ i, Invocation.ofArguments arguments = .ok i
        ∧ run arguments folder frontEnd = i.run folder frontEnd)
      ∨ ((run arguments folder frontEnd).ending ≠ .completed
        ∧ (run arguments folder frontEnd).folder = folder) := by
  rw [run]
  cases Invocation.ofArguments arguments with
  | ok i => exact Or.inl ⟨i, rfl, rfl⟩
  | error refusal =>
      cases refusal with
      | help command => exact Or.inr ⟨nofun, rfl⟩
      | emptied choice => exact Or.inr ⟨nofun, rfl⟩
      | fault command fault => exact Or.inr ⟨nofun, rfl⟩

/-- A command line that is understood delivers the text of its task, if there is one and its
    output can be written. -/
theorem run_of_makes {arguments : List Text} {i : Invocation} {folder : Folder}
    {frontEnd : FrontEnd} {text : Text} (hi : Invocation.ofArguments arguments = .ok i)
    (hmakes : i.task.Makes i.settings folder frontEnd text) (hwritable : i.Writable folder) :
    (run arguments folder frontEnd).Delivers i folder text := by
  rw [run_of_understood folder frontEnd hi, Invocation.run_of_makes hmakes]
  exact Invocation.deliver_delivers _ text hwritable

/-- **All or nothing.**  A run that does not complete leaves the folder as it was.  A run whose
    task comes to a text delivers it, if its output can be written.  A run that completes
    delivers the one text that its task comes to in the folder before the run, as does every
    other command line for the same task and settings, whatever its output; naming an output
    in front of all other options gives such a command line. -/
theorem run_delivers (arguments : List Text) (folder : Folder) (frontEnd : FrontEnd) :
    ((run arguments folder frontEnd).ending ≠ .completed →
        (run arguments folder frontEnd).folder = folder)
      ∧ (∀ i text, Invocation.ofArguments arguments = .ok i →
        i.task.Makes i.settings folder frontEnd text → i.Writable folder →
        (run arguments folder frontEnd).Delivers i folder text)
      ∧ ((run arguments folder frontEnd).ending = .completed →
        ∃ i text, Invocation.ofArguments arguments = .ok i
          ∧ (∀ other, i.task.Makes i.settings folder frontEnd other ↔ other = text)
          ∧ (run arguments folder frontEnd).Delivers i folder text
          ∧ (∀ others j, Invocation.ofArguments others = .ok j → j.task = i.task →
              j.settings = i.settings → j.Writable folder →
              (run others folder frontEnd).Delivers j folder text)
          ∧ ∃ (c : Command) (rest : List Text), arguments = c.spelling :: rest
            ∧ ∀ path : Text, path.head? ≠ some '-' →
              Invocation.ofArguments (c.spelling :: "-o".toList :: path :: rest)
                = .ok (i.outputOr path)) := by
  refine ⟨?_, fun i text hi => run_of_makes hi, ?_⟩
  · intro hending
    rcases run_eq arguments folder frontEnd with ⟨i, -, hrun⟩ | ⟨-, hfolder⟩
    · rw [hrun] at hending ⊢
      rcases i.run_cases folder frontEnd with ⟨text, -, hdelivers⟩ | ⟨-, hfolder⟩
      · exact absurd hdelivers.completed hending
      · exact hfolder
    · exact hfolder
  · intro hcompleted
    rcases run_eq arguments folder frontEnd with ⟨i, hi, hrun⟩ | ⟨hending, -⟩
    · rw [hrun] at hcompleted ⊢
      rcases i.run_cases folder frontEnd with ⟨text, hmakes, hdelivers⟩ | ⟨hending, -⟩
      · refine ⟨i, text, hi, ?_, hdelivers, ?_, ?_⟩
        · intro other
          exact ⟨fun h => hmakes.unique h, fun h => h ▸ hmakes⟩
        · intro others j hj htask hsettings hwritable
          refine run_of_makes hj ?_ hwritable
          rw [htask, hsettings]
          exact hmakes
        · obtain ⟨c, rest, rfl⟩ := Invocation.ofArguments_calls hi
          refine ⟨c, rest, rfl, fun path hpath => ?_⟩
          rw [Invocation.ofArguments_output_first c hpath, hi]
          rfl
      · exact absurd hcompleted hending
    · exact absurd hcompleted hending

/-- A list is generated from, printed first and then over the list itself; a bad line in it
    leaves it as it is. -/
theorem run_delivers_over_input :
    ∃ text : Text,
      let words := ["txtlist", "-n", "N", "-c", "C", "list"].map String.toList
      let overwriting := ["txtlist", "-o", "list", "-n", "N", "-c", "C", "list"].map String.toList
      let folder : Folder := ⟨[(["list".toList], .file (toUtf8 "int f()".toList))], []⟩
      let bad : Folder := ⟨[(["list".toList], .file (toUtf8 "int f()\nint".toList))], []⟩
      (run words folder (.unavailable [])).standard = text ++ ['\n']
        ∧ (run words folder (.unavailable [])).folder = folder
        ∧ (run overwriting folder (.unavailable [])).folder.read "list".toList = .ok (toUtf8 text)
        ∧ (run overwriting bad (.unavailable [])).folder = bad := by
  obtain ⟨⟨i, text, hi, -, hdelivers, hothers, hnamed⟩, hbad⟩ :=
    And.intro
      ((run_delivers (["txtlist", "-n", "N", "-c", "C", "list"].map String.toList)
        ⟨[(["list".toList], .file (toUtf8 "int f()".toList))], []⟩
        (.unavailable [])).2.2 (by decide +kernel))
      ((run_delivers (["txtlist", "-o", "list", "-n", "N", "-c", "C", "list"].map String.toList)
        ⟨[(["list".toList], .file (toUtf8 "int f()\nint".toList))], []⟩
        (.unavailable [])).1 (by decide +kernel))
  obtain ⟨c, rest, hwords, hover⟩ := hnamed
  obtain ⟨rfl, rfl⟩ : c = .textList ∧ rest = ["-n", "N", "-c", "C", "list"].map String.toList := by
    cases c with
    | textList => exact ⟨rfl, (List.cons.inj hwords).2.symm⟩
    | _ => exact nomatch (List.cons.inj hwords).1
  cases hi
  have hwritten := (hothers _ _ (hover "list".toList (by decide)) rfl rfl
    fun path hpath => ⟨["list".toList], by cases hpath; rfl⟩).written "list".toList rfl nofun
  exact ⟨text, (hdelivers.printed (Or.inl rfl)).1, (hdelivers.printed (Or.inl rfl)).2, hwritten.2.1,
    hbad⟩

end PointerBindings.CommandLine
