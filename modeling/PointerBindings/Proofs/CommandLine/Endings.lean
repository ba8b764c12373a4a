import PointerBindings.Proofs.Catalog.Division
import PointerBindings.Proofs.CommandLine.Delivery
import PointerBindings.Proofs.Session.History

/-! # Endings — which runs are reported

    A task comes to a text or to one fault, and most faults are reported.  What breaks a run
    off instead can be read off the command line and the folder (`Unreported`): a choice that is
    emptied, a catalog in an unknown character set, a type name with a line feed where it has to
    be divided, and an output that cannot be written.  All other runs, whatever the input, end
    with the report that the program means to give (`run_reported_iff`). -/

namespace PointerBindings

open Text

/-! ## Faults of a source -/

/-- A line that is at fault is no name to divide. -/
theorem undividedName_notMem_listedOutcomes (lines : List Text) :
    .error .undividedName ∉ listedOutcomes lines := by
  intro hmem
  obtain ⟨line, -, hline⟩ := List.mem_map.mp hmem
  rw [lineOutcome] at hline
  cases hread : Signature.ofLine line with
  | ok signature => rw [hread] at hline; cases hline
  | error fault => rw [hread] at hline; cases hline

private theorem undividedName_notMem_outcomesUpTo {met : List Outcome} (text : Text)
    (h : .error .undividedName ∉ met) : .error .undividedName ∉ outcomesUpTo text met := by
  refine List.not_mem_append (undividedName_notMem_listedOutcomes _) ?_
  split
  · exact List.not_mem_nil
  · exact h

/-- A fault of a text list is that of a line or of the bytes. -/
theorem Text.Stream.undividedName_notMem_outcomes (s : Stream) :
    .error .undividedName ∉ s.outcomes := by
  obtain ⟨text, behind⟩ := s
  -- from one fault to the next, and what is met there is one of the bytes
  induction behind generalizing text with
  | ended => exact undividedName_notMem_listedOutcomes _
  | stuck fault =>
      exact undividedName_notMem_outcomesUpTo text
        (List.not_mem_cons_of_ne_of_not_mem (fun h => by cases h) List.not_mem_nil)
  | broken fault more behind ih =>
      exact undividedName_notMem_outcomesUpTo text
        (List.not_mem_cons_of_ne_of_not_mem (fun h => by cases h) (ih more))

/-- A declaration of a header has no name to divide. -/
theorem CDeclaration.signature_ne_undividedName (d : CDeclaration) (word : WordSize)
    (mode : HeaderMode) : d.signature word mode ≠ .error .undividedName := by
  rw [CDeclaration.signature]
  split
  · exact nofun
  · exact nofun

/-- A generation fails exactly with a fault that its source has to answer: the line end is always
    there. -/
theorem Generator.generate_eq_error_iff {settings : Settings} {source : Source} {g : Generator}
    (hg : Generator.ofSettings settings source = .ok g) {cause : GenerationFault} :
    g.generate.1 = .error cause
      ↔ ∃ fault, gathered source.outcomes = .error fault ∧ cause = .source fault := by
  obtain ⟨hsettings, hsource, -⟩ := Generator.ofSettings_eq_ok hg
  obtain ⟨lineEnd, hend, -⟩ := settings.exists_lineEnd
  rw [g.generate_spec.1, hsource, ClassWriter.textOf, hsettings, hend]
  cases gathered source.outcomes with
  | ok functions =>
      refine iff_of_false (fun h => by cases h) ?_
      rintro ⟨_, h, -⟩
      cases h
  | error fault =>
      constructor
      · intro h
        exact ⟨fault, rfl, (Except.error.inj h).symm⟩
      · rintro ⟨other, hother, rfl⟩
        cases hother
        rfl

namespace CommandLine

/-! ## Reports of faults -/

/-- How a run ends that a fault ends. -/
theorem OpenedInput.failure_ending (o : OpenedInput) (folder : Folder) (announced : List Text)
    (fault : RunFault) :
    (o.failure folder announced fault).ending
      = match fault.breakdown? with
        | some cause => .brokenOff cause
        | none => .failed := by
  rw [failure]
  cases fault.breakdown? with
  | none => rfl
  | some cause => rfl

/-- A fault that is to be reported is, behind what was reported before. -/
theorem OpenedInput.failure_errors {o : OpenedInput} {folder : Folder} {announced : List Text}
    {fault : RunFault} (h : fault.breakdown? = none) :
    (o.failure folder announced fault).errors
      = linesOf (o.reports ++ ["Error: ".toList ++ fault.message]) := by
  rw [failure, h]

/-! ## Inputs -/

/-- The path of the catalog that a task reads. -/
def Task.catalogPath? : Task → Option Text
  | .delegates path _ _ | .imports path _ _ => some path
  | .textList _ | .header .. => none

/-- What can come of opening the input of a task. -/
inductive Task.Opens (folder : Folder) : Task → Except RunFault Source → Prop where
  /-- The input cannot be looked at, or a header is at fault. -/
  | unread {t : Task} {fault : RunFault} (hgeneration : ∀ cause, fault ≠ .generation cause)
      (hcatalog : ∀ cause, fault ≠ .catalog cause) : Opens folder t (.error fault)
  | badCatalog {t : Task} {path : Text} {bytes : List UInt8} {fault : CatalogFault}
      (hpath : t.catalogPath? = some path) (hbytes : folder.read path = .ok bytes)
      (h : Catalog.ofBytes bytes = .error fault) : Opens folder t (.error (.catalog fault))
  | list {path : Text} (s : Stream) : Opens folder (.textList path) (.ok (.ofStream s))
  | delegates {path qualifier : Text} {policy : TypePolicy} {bytes : List UInt8} {c : Catalog}
      (hbytes : folder.read path = .ok bytes) (h : Catalog.ofBytes bytes = .ok c) :
      Opens folder (.delegates path qualifier policy) (.ok (.ofDelegates c (some qualifier) policy))
  | imports {path qualifier : Text} {policy : TypePolicy} {bytes : List UInt8} {c : Catalog}
      (hbytes : folder.read path = .ok bytes) (h : Catalog.ofBytes bytes = .ok c) :
      Opens folder (.imports path qualifier policy) (.ok (.ofImports c (some qualifier) policy))
  | header {request : HeaderRequest} {policy : TypePolicy} {frontEndPath : Option Text}
      (kept : List CDeclaration) :
      Opens folder (.header request policy frontEndPath)
        (.ok (.ofDeclarations kept request.mode policy))

/-- A catalog that cannot be looked at is not at fault itself. -/
theorem readCatalog_of_error {folder : Folder} {path : Text} {fault : FileFault}
    (h : folder.read path = .error fault) :
    ∃ cause, readCatalog folder path = .error cause ∧ (∀ g, cause ≠ .generation g)
      ∧ ∀ c, cause ≠ .catalog c := by
  rw [readCatalog, h]
  dsimp only
  split
  · exact ⟨_, rfl, nofun, nofun⟩
  · exact ⟨_, rfl, nofun, nofun⟩

/-- A catalog is what its bytes are read as. -/
theorem readCatalog_of_ok {folder : Folder} {path : Text} {bytes : List UInt8}
    (h : folder.read path = .ok bytes) :
    readCatalog folder path = (Catalog.ofBytes bytes).mapError .catalog := by
  rw [readCatalog, h]
  dsimp only
  cases Catalog.ofBytes bytes with
  | ok c => rfl
  | error fault => rfl

/-- What comes of opening a task that reads a catalog. -/
private theorem opens_catalog {folder : Folder} {t : Task} {path : Text}
    (hpath : t.catalogPath? = some path) {make : Catalog → Source}
    (hmake : ∀ bytes c, folder.read path = .ok bytes → Catalog.ofBytes bytes = .ok c →
      t.Opens folder (.ok (make c))) :
    t.Opens folder ((readCatalog folder path).map make) := by
  cases hread : folder.read path with
  | error fault =>
      obtain ⟨cause, hcause, hgeneration, hcatalog⟩ := readCatalog_of_error hread
      rw [hcause]
      exact .unread hgeneration hcatalog
  | ok bytes =>
      rw [readCatalog_of_ok hread]
      cases hc : Catalog.ofBytes bytes with
      | ok c => exact hmake bytes c hread hc
      | error fault => exact .badCatalog hpath hread hc

/-- **What comes of opening an input**, task by task. -/
theorem Task.opens (t : Task) (folder : Folder) (frontEnd : FrontEnd) :
    t.Opens folder (t.open folder frontEnd).result := by
  cases t with
  | textList path =>
      rw [Task.open]
      split
      · exact .unread nofun nofun
      · exact .list _
  | delegates path qualifier policy => exact opens_catalog rfl fun _ _ => .delegates
  | imports path qualifier policy => exact opens_catalog rfl fun _ _ => .imports
  | header request policy frontEndPath =>
      rw [Task.open]
      dsimp only
      split
      · exact .header _
      · exact .unread nofun nofun

/-- A catalog whose bytes are at fault keeps the input from being opened. -/
theorem Task.open_badCatalog {t : Task} {folder : Folder} (frontEnd : FrontEnd) {path : Text}
    {bytes : List UInt8} {fault : CatalogFault} (hpath : t.catalogPath? = some path)
    (hbytes : folder.read path = .ok bytes) (h : Catalog.ofBytes bytes = .error fault) :
    (t.open folder frontEnd).result = .error (.catalog fault) := by
  have hread : readCatalog folder path = .error (.catalog fault) := by
    rw [readCatalog_of_ok hbytes, h]
    rfl
  cases t with
  | textList | header => exact nomatch hpath
  | delegates | imports =>
      cases hpath
      rw [Task.open, hread]
      rfl

/-- The delegates of a catalog that can be read are the source. -/
theorem Task.open_delegates {folder : Folder} (frontEnd : FrontEnd) {path : Text}
    (qualifier : Text) (policy : TypePolicy) {bytes : List UInt8} {c : Catalog}
    (hbytes : folder.read path = .ok bytes) (h : Catalog.ofBytes bytes = .ok c) :
    ((Task.delegates path qualifier policy).open folder frontEnd).result
      = .ok (.ofDelegates c (some qualifier) policy) := by
  rw [Task.open, readCatalog_of_ok hbytes, h]
  rfl

/-- A catalog is read from an element tree. -/
theorem exists_readFrom {bytes : List UInt8} {c : Catalog} (h : Catalog.ofBytes bytes = .ok c) :
    ∃ root, c.ReadFrom root := by
  rw [Catalog.ofBytes] at h
  cases hroot : Xml.Element.ofBytes bytes with
  | error cause => rw [hroot] at h; exact nomatch h
  | ok root =>
      rw [hroot] at h
      exact ⟨root, Catalog.ofElement_eq_ok_iff.mp h⟩

/-! ## Faults that break a run off -/

/-- The faults that are not reported. -/
theorem RunFault.breakdown?_eq_some_iff {fault : RunFault} {cause : Breakdown} :
    fault.breakdown? = some cause
      ↔ (fault = .catalog (.document .unknownCharset) ∧ cause = .unknownCharset)
        ∨ (∃ name, fault = .catalog (.undividedName name) ∧ cause = .undividedName)
        ∨ (fault = .generation (.source .undividedName) ∧ cause = .undividedName)
        ∨ fault = .generation .noLineEnd ∧ cause = .noLineEnd := by
  constructor
  · intro h
    rw [breakdown?.eq_def] at h
    split at h
    · exact Or.inl ⟨rfl, (Option.some.inj h).symm⟩
    · exact Or.inr (Or.inl ⟨_, rfl, (Option.some.inj h).symm⟩)
    · exact Or.inr (Or.inr (Or.inl ⟨rfl, (Option.some.inj h).symm⟩))
    · exact Or.inr (Or.inr (Or.inr ⟨rfl, (Option.some.inj h).symm⟩))
    · exact nomatch h
  · rintro (⟨rfl, rfl⟩ | ⟨name, rfl, rfl⟩ | ⟨rfl, rfl⟩ | ⟨rfl, rfl⟩)
    · rfl
    · rfl
    · rfl
    · rfl

/-! ## Runs that break off -/

/-- What breaks a run off, read off the command line and the folder. -/
inductive Unreported (arguments : List Text) (folder : Folder) (frontEnd : FrontEnd) :
    Breakdown → Prop where
  /-- The scope or the loader is emptied. -/
  | emptied {choice : EmptiedChoice}
      (h : Invocation.ofArguments arguments = .error (.emptied choice)) :
      Unreported arguments folder frontEnd (.emptied choice)
  /-- The catalog is in a character set that nobody knows. -/
  | charset {i : Invocation} {path : Text} {bytes : List UInt8}
      (hi : Invocation.ofArguments arguments = .ok i) (hpath : i.task.catalogPath? = some path)
      (hbytes : folder.read path = .ok bytes)
      (h : Catalog.ofBytes bytes = .error (.document .unknownCharset)) :
      Unreported arguments folder frontEnd .unknownCharset
  /-- A name in the catalog goes on behind a line feed and has to be divided. -/
  | reference {i : Invocation} {path name : Text} {bytes : List UInt8}
      (hi : Invocation.ofArguments arguments = .ok i) (hpath : i.task.catalogPath? = some path)
      (hbytes : folder.read path = .ok bytes)
      (h : Catalog.ofBytes bytes = .error (.undividedName name)) :
      Unreported arguments folder frontEnd .undividedName
  /-- A delegate under the qualifier has such a name, and the settings are accepted. -/
  | delegate {i : Invocation} {path qualifier : Text} {policy : TypePolicy} {bytes : List UInt8}
      {c : Catalog} {g : Generator} {d : DeclaredType}
      (hi : Invocation.ofArguments arguments = .ok i)
      (htask : i.task = .delegates path qualifier policy) (hbytes : folder.read path = .ok bytes)
      (hc : Catalog.ofBytes bytes = .ok c)
      (hg : Generator.ofSettings i.settings (.ofDelegates c (some qualifier) policy) = .ok g)
      (hd : d ∈ c.delegates (some qualifier)) (hline : '\n' ∈ d.fullName) :
      Unreported arguments folder frontEnd .undividedName
  /-- There is a text, and its output cannot be written. -/
  | output {i : Invocation} {text path : Text} {fault : FileFault}
      (hi : Invocation.ofArguments arguments = .ok i)
      (hmakes : i.task.Makes i.settings folder frontEnd text) (htarget : i.target = some path)
      (h : folder.placeToWrite path = .error fault) :
      Unreported arguments folder frontEnd (.output fault)

/-- An input that cannot be opened breaks the run off if its fault is not reported. -/
theorem Unreported.of_opens {arguments : List Text} {i : Invocation} {folder : Folder}
    (frontEnd : FrontEnd) {t : Task} {fault : RunFault} {cause : Breakdown}
    (hi : Invocation.ofArguments arguments = .ok i) (htask : i.task = t)
    (h : t.Opens folder (.error fault)) (hcause : fault.breakdown? = some cause) :
    Unreported arguments folder frontEnd cause := by
  cases h with
  | unread hgeneration hcatalog =>
      rcases RunFault.breakdown?_eq_some_iff.mp hcause with
        ⟨rfl, -⟩ | ⟨name, rfl, -⟩ | ⟨rfl, -⟩ | ⟨rfl, -⟩
      · exact absurd rfl (hcatalog _)
      · exact absurd rfl (hcatalog _)
      · exact absurd rfl (hgeneration _)
      · exact absurd rfl (hgeneration _)
  | badCatalog hpath hbytes h =>
      rcases RunFault.breakdown?_eq_some_iff.mp hcause with
        ⟨heq, rfl⟩ | ⟨name, heq, rfl⟩ | ⟨heq, -⟩ | ⟨heq, -⟩
      · cases heq
        exact .charset hi (htask ▸ hpath) hbytes h
      · cases heq
        exact .reference hi (htask ▸ hpath) hbytes h
      · exact nomatch heq
      · exact nomatch heq

/-- Only a delegate whose full name goes on behind a line feed has no name to be called by, so
    that its missing signature breaks the run off. -/
theorem Unreported.of_gathered {arguments : List Text} {i : Invocation} {folder : Folder}
    (frontEnd : FrontEnd) {t : Task} {source : Source} {g : Generator}
    (hi : Invocation.ofArguments arguments = .ok i) (htask : i.task = t)
    (h : t.Opens folder (.ok source)) (hg : Generator.ofSettings i.settings source = .ok g)
    (hgathered : gathered source.outcomes = .error .undividedName) :
    Unreported arguments folder frontEnd .undividedName := by
  cases h with
  | list s => exact absurd (mem_of_gathered hgathered) s.undividedName_notMem_outcomes
  | @delegates path qualifier policy bytes c hbytes hc =>
      obtain ⟨root, hroot⟩ := exists_readFrom hc
      obtain ⟨-, -, d, hd, hline⟩ :=
        (MemberKind.gathered_eq_error_iff hroot .delegates policy).mp hgathered
      exact .delegate hi htask hbytes hc hg hd hline
  | @imports path qualifier policy bytes c hbytes hc =>
      obtain ⟨root, hroot⟩ := exists_readFrom hc
      exact nomatch
        ((MemberKind.gathered_eq_error_iff hroot .imports policy).mp hgathered).2.1
  | header kept =>
      obtain ⟨d, -, hd⟩ := List.mem_map.mp (mem_of_gathered hgathered)
      exact absurd hd (d.signature_ne_undividedName _ _)

/-- A task that comes to a fault which is not reported breaks the run off. -/
theorem Unreported.of_fails {arguments : List Text} {i : Invocation} {folder : Folder}
    {frontEnd : FrontEnd} {fault : RunFault} {cause : Breakdown}
    (hi : Invocation.ofArguments arguments = .ok i)
    (hfails : i.task.FailsWith i.settings folder frontEnd fault)
    (hcause : fault.breakdown? = some cause) : Unreported arguments folder frontEnd cause := by
  have hopens := i.task.opens folder frontEnd
  cases hfails with
  | opening h =>
      rw [h] at hopens
      exact .of_opens frontEnd hi rfl hopens hcause
  | settings hsource h => exact nomatch hcause
  | generation hsource hg h =>
      -- there is a line end, so the fault is one of the source
      obtain ⟨fault, hgathered, rfl⟩ := (Generator.generate_eq_error_iff hg).mp h
      rw [hsource] at hopens
      rcases RunFault.breakdown?_eq_some_iff.mp hcause with
        ⟨heq, -⟩ | ⟨name, heq, -⟩ | ⟨heq, rfl⟩ | ⟨heq, -⟩
      · exact nomatch heq
      · exact nomatch heq
      · cases heq
        exact .of_gathered frontEnd hi rfl hopens hg hgathered
      · exact nomatch heq

/-- A run whose task comes to a fault that is not reported breaks off. -/
theorem run_ending_of_fails {arguments : List Text} {i : Invocation} {folder : Folder}
    {frontEnd : FrontEnd} {fault : RunFault} {cause : Breakdown}
    (hi : Invocation.ofArguments arguments = .ok i)
    (hfails : i.task.FailsWith i.settings folder frontEnd fault)
    (hcause : fault.breakdown? = some cause) :
    (run arguments folder frontEnd).ending = .brokenOff cause := by
  obtain ⟨announced, hrun⟩ := Invocation.run_of_fails hfails
  rw [run_of_understood folder frontEnd hi, hrun, OpenedInput.failure_ending, hcause]

/-- What breaks a run off does so. -/
theorem Unreported.ending {arguments : List Text} {folder : Folder} {frontEnd : FrontEnd}
    {cause : Breakdown} (h : Unreported arguments folder frontEnd cause) :
    (run arguments folder frontEnd).ending = .brokenOff cause := by
  cases h with
  | emptied h => rw [run, h]
  | charset hi hpath hbytes h =>
      exact run_ending_of_fails hi (.opening (Task.open_badCatalog frontEnd hpath hbytes h)) rfl
  | reference hi hpath hbytes h =>
      exact run_ending_of_fails hi (.opening (Task.open_badCatalog frontEnd hpath hbytes h)) rfl
  | @delegate i path qualifier policy bytes c g d hi htask hbytes hc hg hd hline =>
      have hsource : (i.task.open folder frontEnd).result
          = .ok (.ofDelegates c (some qualifier) policy) := by
        rw [htask]
        exact Task.open_delegates frontEnd qualifier policy hbytes hc
      obtain ⟨root, hroot⟩ := exists_readFrom hc
      have hgathered :=
        (MemberKind.gathered_eq_error_iff hroot .delegates policy).mpr ⟨rfl, rfl, d, hd, hline⟩
      exact run_ending_of_fails hi (.generation hsource hg
        ((Generator.generate_eq_error_iff hg).mpr ⟨_, hgathered, rfl⟩)) rfl
  | output hi hmakes htarget h =>
      rw [run_of_understood folder frontEnd hi, Invocation.run_of_makes hmakes,
        Invocation.deliver, htarget]
      dsimp only
      rw [h]

/-! ## Runs that are reported -/

/-- The report is one that the program means to give: the run ended normally, the command line was
    refused, or the fault that the task came to is reported. -/
inductive Report.IsMeant (r : Report) (arguments : List Text) (folder : Folder)
    (frontEnd : FrontEnd) : Prop where
  | normal (hstatus : r.ending.status? = some 0) : IsMeant r arguments folder frontEnd
  | refused {command : Option Command} {fault : UsageFault}
      (h : Invocation.ofArguments arguments = .error (.fault command fault))
      (hstatus : r.ending.status? = some 2) (herrors : r.errors = faultLine command fault) :
      IsMeant r arguments folder frontEnd
  | failed {i : Invocation} {fault : RunFault} (hi : Invocation.ofArguments arguments = .ok i)
      (hfails : i.task.FailsWith i.settings folder frontEnd fault)
      (hstatus : r.ending.status? = some 1)
      (herrors : r.errors
        = linesOf ((i.task.open folder frontEnd).reports ++ ["Error: ".toList ++ fault.message])) :
      IsMeant r arguments folder frontEnd

/-- A report that is meant is none of a run that broke off. -/
theorem Report.IsMeant.not_brokenOff {r : Report} {arguments : List Text} {folder : Folder}
    {frontEnd : FrontEnd} (h : r.IsMeant arguments folder frontEnd) (cause : Breakdown) :
    r.ending ≠ .brokenOff cause := by
  intro hending
  cases h with
  | normal hstatus => rw [hending] at hstatus; exact nomatch hstatus
  | refused _ hstatus _ => rw [hending] at hstatus; exact nomatch hstatus
  | failed _ _ hstatus _ => rw [hending] at hstatus; exact nomatch hstatus

/-- A text is delivered with a report that is meant, or its output cannot be written. -/
theorem run_of_makes_cases {arguments : List Text} {i : Invocation} {folder : Folder}
    {frontEnd : FrontEnd} {text : Text} (hi : Invocation.ofArguments arguments = .ok i)
    (hmakes : i.task.Makes i.settings folder frontEnd text) :
    (run arguments folder frontEnd).IsMeant arguments folder frontEnd
      ∨ ∃ cause, Unreported arguments folder frontEnd cause := by
  by_cases hwritable : i.Writable folder
  · have hcompleted := (run_of_makes hi hmakes hwritable).completed
    exact Or.inl (.normal (by rw [hcompleted]; rfl))
  · obtain ⟨path, fault, htarget, hwrite⟩ := Invocation.exists_fault_of_not_writable hwritable
    exact Or.inr ⟨_, .output hi hmakes htarget hwrite⟩

/-- A fault is reported as it is meant to be, or it breaks the run off. -/
theorem run_of_fails_cases {arguments : List Text} {i : Invocation} {folder : Folder}
    {frontEnd : FrontEnd} {fault : RunFault} (hi : Invocation.ofArguments arguments = .ok i)
    (hfails : i.task.FailsWith i.settings folder frontEnd fault) :
    (run arguments folder frontEnd).IsMeant arguments folder frontEnd
      ∨ ∃ cause, Unreported arguments folder frontEnd cause := by
  cases hcause : fault.breakdown? with
  | some cause => exact Or.inr ⟨cause, .of_fails hi hfails hcause⟩
  | none =>
      obtain ⟨announced, hrun⟩ := Invocation.run_of_fails hfails
      refine Or.inl (.failed hi hfails ?_ ?_)
      · rw [run_of_understood folder frontEnd hi, hrun, OpenedInput.failure_ending, hcause]
        rfl
      · rw [run_of_understood folder frontEnd hi, hrun, OpenedInput.failure_errors hcause]

/-- Every run ends with a report that is meant, or something breaks it off. -/
theorem run_isMeant_or_unreported (arguments : List Text) (folder : Folder)
    (frontEnd : FrontEnd) :
    (run arguments folder frontEnd).IsMeant arguments folder frontEnd
      ∨ ∃ cause, Unreported arguments folder frontEnd cause := by
  cases hi : Invocation.ofArguments arguments with
  | ok i =>
      rcases i.task.makes_or_fails i.settings folder frontEnd with ⟨text, hmakes⟩ | ⟨fault, hfails⟩
      · exact run_of_makes_cases hi hmakes
      · exact run_of_fails_cases hi hfails
  | error refusal =>
      cases refusal with
      | help command => exact Or.inl (.normal (by rw [run, hi]; rfl))
      | emptied choice => exact Or.inr ⟨_, .emptied hi⟩
      | fault command fault =>
          exact Or.inl (.refused hi (by rw [run, hi]; rfl) (by rw [run, hi]))

/-- **Which runs are reported.**  A run ends with the report that the program means to give
    exactly if nothing of what goes unreported is there, and else it breaks off for what there
    is. -/
theorem run_reported_iff (arguments : List Text) (folder : Folder) (frontEnd : FrontEnd) :
    ((run arguments folder frontEnd).IsMeant arguments folder frontEnd
        ↔ ∀ cause, ¬Unreported arguments folder frontEnd cause)
      ∧ ∀ cause, (run arguments folder frontEnd).ending = .brokenOff cause
        ↔ Unreported arguments folder frontEnd cause := by
  have hcases := run_isMeant_or_unreported arguments folder frontEnd
  refine ⟨⟨fun hmeant cause h => hmeant.not_brokenOff cause h.ending, fun hnone => ?_⟩, ?_⟩
  · rcases hcases with hmeant | ⟨cause, h⟩
    · exact hmeant
    · exact absurd h (hnone cause)
  · refine fun cause => ⟨fun hending => ?_, Unreported.ending⟩
    rcases hcases with hmeant | ⟨other, h⟩
    · exact absurd hending (hmeant.not_brokenOff cause)
    · cases hending.symm.trans h.ending
      exact h

/-- An output that is a folder is not reported: the run of a correct list breaks off. -/
theorem run_unreported_output :
    let words := ["txtlist", "-n", "N", "-c", "C", "-o", "dir", "list"].map String.toList
    let folder : Folder :=
      ⟨[(["list".toList], .file (toUtf8 "int f()".toList)), (["dir".toList], .folder)], []⟩
    ¬(run words folder (.unavailable [])).IsMeant words folder (.unavailable []) := by
  intro words folder hmeant
  exact hmeant.not_brokenOff (.output ⟨.isAFolder, "dir".toList⟩) (by decide +kernel)

end CommandLine

end PointerBindings
