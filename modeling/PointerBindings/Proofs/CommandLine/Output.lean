import PointerBindings.CommandLine.Invocation
import PointerBindings.Proofs.Tables

/-! # Output — the option that names the file of the text

    An output that is named in front of all other options holds unless another one is
    named behind it, and the words behind it mean what they mean without it
    (`Invocation.ofArguments_output_first`).  A draft takes the words one by one, and at
    each of them it makes no difference whether an output that is still open is filled in
    before or afterwards (`Draft.take_outputOr`). -/

namespace PointerBindings.CommandLine

open Text

namespace Draft

/-- No output was named so far, and none emptied. -/
def outputOpen (d : Draft) : Bool :=
  d.output.isNone && !d.emptied.contains .output

/-- The draft with an output where none was named. -/
def outputOr (path : Text) (d : Draft) : Draft :=
  if d.outputOpen then { d with output := some path } else d

/-- Outputs that are named or emptied are left. -/
theorem outputOr_of_closed {d : Draft} (path : Text) (h : d.outputOpen = false) :
    d.outputOr path = d := by
  rw [outputOr, h, if_neg Bool.false_ne_true]

/-- A change that neither looks at the output nor decides whether it is open commutes with
    filling it in. -/
theorem change_outputOr {ε : Type} (change : Draft → Except ε Draft)
    (hchange : ∀ d output, change { d with output } = (change d).map ({ · with output }))
    (hopen : ∀ d d', change d = .ok d' → d'.outputOpen = d.outputOpen) (path : Text) (d : Draft) :
    change (d.outputOr path) = (change d).map (outputOr path) := by
  cases hd : change d with
  | error fault =>
      rw [outputOr]
      split
      · rw [hchange, hd]; rfl
      · exact hd
  | ok d' =>
      show change (d.outputOr path) = .ok (d'.outputOr path)
      rw [outputOr, outputOr, hopen d d' hd]
      split
      · rw [hchange, hd]; rfl
      · exact hd

/-! ## Options -/

theorem setFlag_outputOr (path : Text) (d : Draft) (c : Command) (key : OptionKey) :
    (d.outputOr path).setFlag c key = (d.setFlag c key).map (outputOr path) := by
  refine change_outputOr (fun d => d.setFlag c key) ?_ ?_ path d
  · intro d output
    cases key <;> rfl
  · intro d d' h
    cases key with
    | help => exact nomatch h
    | _ => cases h; rfl

/-- What is filled in behind a reading keeps what every reading keeps. -/
private theorem read_keeps {α : Type} {d d' : Draft} {reading : Except ValueFault α}
    {change : α → Draft} (h : (reading >>= fun a => pure (change a)) = .ok d')
    (hchange : ∀ a, (change a).output = d.output ∧ (change a).emptied = d.emptied) :
    d'.output = d.output ∧ d'.emptied = d.emptied := by
  cases reading with
  | error fault => exact nomatch h
  | ok a => cases h; exact hchange a

/-- Filling in another option leaves the output as it is. -/
theorem fill_keeps {d d' : Draft} {key : OptionKey} {value : Text} (hkey : key ≠ .output)
    (h : d.fill key value = .ok d') : d'.output = d.output ∧ d'.emptied = d.emptied := by
  cases key with
  | output => exact absurd rfl hkey
  | indentation | scope | loader | lineEnd | keepsByRef | keepsTypeNames =>
      exact read_keeps h fun _ => ⟨rfl, rfl⟩
  | _ => cases h; exact ⟨rfl, rfl⟩

/-- Filling in another option does not look at the output. -/
theorem fill_with_output (d : Draft) (output : Option Text) {key : OptionKey} (value : Text)
    (hkey : key ≠ .output) :
    ({ d with output } : Draft).fill key value = (d.fill key value).map ({ · with output }) := by
  cases key with
  | output => exact absurd rfl hkey
  | indentation => rw [fill, fill]; cases readIndentation value <;> rfl
  | scope => rw [fill, fill]; cases readChoice offeredScopes value <;> rfl
  | loader => rw [fill, fill]; cases readChoice offeredLoaders value <;> rfl
  | lineEnd => rw [fill, fill]; cases readChoice offeredLineEnds value <;> rfl
  | keepsByRef | keepsTypeNames => rw [fill, fill]; cases readTruth value <;> rfl
  | _ => rfl

/-- Another option that is emptied or given leaves open what was open. -/
theorem setValue_keeps {d d' : Draft} {key : OptionKey} {value : Text} (hkey : key ≠ .output)
    (h : d.setValue key value = .ok d') : d'.outputOpen = d.outputOpen := by
  have hothers : (d.emptied.filter (· ≠ key)).contains .output = d.emptied.contains .output := by
    simp [List.contains_eq_mem, hkey.symm]
  rw [setValue] at h
  split at h
  · cases h
    have hempty : (d.empty key).output = d.output := by
      cases key with
      | output => exact absurd rfl hkey
      | _ => rfl
    rw [outputOpen, outputOpen, hempty]
    dsimp only
    split
    · rw [hothers]
    · rw [List.contains_cons, hothers, beq_eq_false_iff_ne.mpr hkey.symm, Bool.false_or]
  · obtain ⟨houtput, hemptied⟩ := fill_keeps hkey h
    rw [outputOpen, outputOpen, houtput, hemptied, hothers]

/-- An output that is named or emptied is closed. -/
theorem setValue_output_closed {d d' : Draft} {value : Text}
    (h : d.setValue .output value = .ok d') : d'.outputOpen = false := by
  rw [setValue] at h
  split at h
  · cases h
    simp [outputOpen]
  · cases h
    rfl

theorem setValue_outputOr (path : Text) (d : Draft) (key : OptionKey) (value : Text) :
    (d.outputOr path).setValue key value = (d.setValue key value).map (outputOr path) := by
  by_cases hkey : key = .output
  · -- an output that was filled in before is forgotten
    have hforgotten : (d.outputOr path).setValue key value = d.setValue key value := by
      rw [outputOr, hkey]
      split
      · rw [setValue, setValue]
        split
        · rfl
        · rfl
      · rfl
    rw [hforgotten]
    cases hd : d.setValue key value with
    | error fault => rfl
    | ok d' =>
        rw [hkey] at hd
        exact congrArg Except.ok (outputOr_of_closed path (setValue_output_closed hd)).symm
  · refine change_outputOr (fun d => d.setValue key value) ?_ ?_ path d
    · intro d output
      rw [setValue, setValue]
      split
      · cases key with
        | output => exact absurd rfl hkey
        | _ => rfl
      · exact fill_with_output { d with emptied := d.emptied.filter (· ≠ key) } output value hkey
    · exact fun d d' h => setValue_keeps hkey h

/-- Options without a value are set one by one. -/
theorem setFlags_outputOr (path : Text) (d : Draft) (c : Command) (flags : List OptionForm) :
    flags.foldlM (fun (d : Draft) f => d.setFlag c f.key) (d.outputOr path)
      = (flags.foldlM (fun (d : Draft) f => d.setFlag c f.key) d).map (outputOr path) := by
  induction flags generalizing d with
  | nil => rfl
  | cons f flags ih =>
      rw [List.foldlM_cons, List.foldlM_cons, setFlag_outputOr]
      cases d.setFlag c f.key with
      | error refusal => rfl
      | ok d' => exact ih d'

theorem setOption_outputOr (path : Text) (d : Draft) (c : Command) (flags : List OptionForm)
    (form : OptionForm) (value : Text) :
    (d.outputOr path).setOption c flags form value
      = (d.setOption c flags form value).map (outputOr path) := by
  rw [setOption, setOption, setFlags_outputOr]
  cases flags.foldlM (fun (d : Draft) f => d.setFlag c f.key) d with
  | error refusal => rfl
  | ok d' =>
      simp only [Except.map, bind, Except.bind, setValue_outputOr]
      cases d'.setValue form.key value with
      | error fault => rfl
      | ok d'' => rfl

/-! ## Words -/

/-- What changes without looking at the output commutes with filling it in. -/
private theorem pure_outputOr (change : Draft → Draft)
    (hchange : ∀ d output, change { d with output } = { change d with output })
    (hopen : ∀ d, (change d).outputOpen = d.outputOpen) (path : Text) (d : Draft) :
    change (d.outputOr path) = (change d).outputOr path := by
  rw [outputOr, outputOr, hopen]
  split
  · exact hchange d (some path)
  · rfl

theorem takeArgument_outputOr (path : Text) (d : Draft) (c : Command) (stage : ArgumentStage)
    (t : Text) :
    (d.outputOr path).takeArgument c stage t
      = ((d.takeArgument c stage t).1.outputOr path, (d.takeArgument c stage t).2) := by
  refine Prod.ext (pure_outputOr (fun d => (d.takeArgument c stage t).1) ?_ ?_ path d) ?_
  · intro d output
    cases stage with
    | behindInput => simp only [takeArgument]; split <;> rfl
    | _ => rfl
  · intro d
    cases stage with
    | behindInput => simp only [takeArgument]; split <;> rfl
    | _ => rfl
  · cases stage <;> rfl

/-- Words are left over whatever the output is. -/
private theorem leaveOver_outputOr (path : Text) (d : Draft) (t : Text) :
    { d.outputOr path with leftOver := (d.outputOr path).leftOver ++ [t] }
      = ({ d with leftOver := d.leftOver ++ [t] } : Draft).outputOr path :=
  pure_outputOr (fun d => { d with leftOver := d.leftOver ++ [t] })
    (fun _ _ => rfl) (fun _ => rfl) path d

theorem takeSeparator_outputOr (path : Text) (d : Draft) (stage : ArgumentStage)
    (rest : List Word) :
    (d.outputOr path).takeSeparator stage rest
      = ((d.takeSeparator stage rest).1.outputOr path, (d.takeSeparator stage rest).2) := by
  cases stage with
  | beforeInput =>
      cases rest with
      | nil => exact Prod.ext (leaveOver_outputOr path d "--".toList) rfl
      | cons word rest => rfl
  | behindInput => rfl
  | behindLast => rfl
  | finished => exact Prod.ext (leaveOver_outputOr path d "--".toList) rfl

/-- What is done with a draft once it stands may fill the output in first. -/
private theorem bind_outputOr {path : Text} {goOn : Draft → Except Refusal Draft}
    (h : ∀ d, goOn (d.outputOr path) = (goOn d).map (outputOr path))
    (before : Except Refusal Draft) :
    (before.map (outputOr path) >>= goOn) = (before >>= goOn).map (outputOr path) := by
  cases before with
  | error refusal => rfl
  | ok d => exact h d

/-- **Filling in an open output commutes with taking words.** -/
theorem take_outputOr (path : Text) (c : Command) (d : Draft) (stage : ArgumentStage)
    (words : List Word) :
    take c (d.outputOr path) stage words = (take c d stage words).map (outputOr path) := by
  induction d, stage, words using Draft.take.induct c with
  | case1 d stage => rfl
  | case2 d stage t rest ih => rw [take, take, takeArgument_outputOr]; exact ih
  | case3 d stage rest ih => rw [take, take, takeSeparator_outputOr]; exact ih
  | case4 d stage t rest ih => rw [take, take, leaveOver_outputOr]; exact ih
  | case5 d stage form value flags rest htakes ih =>
      rw [take, take, if_pos htakes, if_pos htakes, setOption_outputOr]
      exact bind_outputOr ih _
  | case6 d stage form value flags rest htakes =>
      rw [take, take, if_neg htakes, if_neg htakes]; rfl
  | case7 d stage form flags htakes value rest ih =>
      rw [take, take, if_pos htakes, if_pos htakes, setOption_outputOr]
      exact bind_outputOr ih _
  | case8 d stage form flags rest htakes hnone =>
      -- the value is missing in either draft
      rw [take, take, if_pos htakes, if_pos htakes]
      · rfl
      · exact hnone
      · exact hnone
  | case9 d stage form flags rest htakes ih =>
      have hflags : ∀ d, take c d stage (.option form none flags :: rest)
          = (flags ++ [form]).foldlM (fun d f => d.setFlag c f.key) d
            >>= fun d => take c d stage.interrupted rest := by
        intro d
        rw [take.eq_def]
        exact if_neg htakes
      rw [hflags, hflags, setFlags_outputOr]
      exact bind_outputOr ih _

/-- What does not look at the output is the same with one filled in. -/
private theorem outputOr_keeps {α : Type} (look : Draft → α)
    (hlook : ∀ d output, look { d with output } = look d) (path : Text) (d : Draft) :
    look (d.outputOr path) = look d := by
  rw [outputOr]
  split
  · exact hlook d (some path)
  · rfl

theorem missing_outputOr (path : Text) (d : Draft) (c : Command) :
    (d.outputOr path).missing c = d.missing c :=
  outputOr_keeps (·.missing c) (fun _ _ => rfl) path d

theorem input_outputOr (path : Text) (d : Draft) : (d.outputOr path).input = d.input :=
  outputOr_keeps (·.input) (fun _ _ => rfl) path d

theorem leftOver_outputOr (path : Text) (d : Draft) : (d.outputOr path).leftOver = d.leftOver :=
  outputOr_keeps (·.leftOver) (fun _ _ => rfl) path d

end Draft

/-! ## Command lines -/

/-- The invocation with an output where none was named, and none emptied. -/
def Invocation.outputOr (path : Text) (i : Invocation) : Invocation :=
  if i.output.isNone && !i.emptied.contains .output then { i with output := some path } else i

/-- The same is done with the same settings, whatever output is filled in. -/
theorem Invocation.outputOr_keeps (path : Text) (i : Invocation) :
    (i.outputOr path).task = i.task ∧ (i.outputOr path).settings = i.settings ∧
      (i.outputOr path).emptied = i.emptied := by
  rw [outputOr]
  split
  · exact ⟨rfl, rfl, rfl⟩
  · exact ⟨rfl, rfl, rfl⟩

/-- What is understood of a draft with an output filled in is filled in as well. -/
theorem Draft.invocation_outputOr (path : Text) (d : Draft) (c : Command) (input : Text) :
    ({ task := (d.outputOr path).task c input, settings := (d.outputOr path).settings,
       output := (d.outputOr path).output, emptied := (d.outputOr path).emptied } : Invocation)
      = Invocation.outputOr path
          { task := d.task c input, settings := d.settings, output := d.output,
            emptied := d.emptied } := by
  show _ = if d.outputOpen then _ else _
  rw [outputOr]
  split
  · rfl
  · rfl

/-- The option that names the output. -/
def outputForm : OptionForm :=
  ⟨.output, ["-o".toList, "--output".toList], true⟩

/-- An output that is named is an option with its value. -/
theorem Word.ofTexts_output (c : Command) {path : Text} (hpath : path.head? ≠ some '-')
    (texts : List Text) :
    Word.ofTexts c.forms ("-o".toList :: path :: texts)
      = (Word.ofTexts c.forms texts).map fun words =>
          .option outputForm none [] :: .argument path :: words := by
  have hform : Word.ofText c.forms "-o".toList = .ok (.option outputForm none []) := by
    cases c with
    | _ => rfl
  have hargument : Word.ofText c.forms path = .ok (.argument path) := if_pos hpath
  have hne : path ≠ "--".toList := fun h => hpath (h ▸ rfl)
  rw [Word.ofTexts, if_neg (by decide), hform, Word.ofTexts, if_neg hne, hargument]
  cases Word.ofTexts c.forms texts with
  | error a => rfl
  | ok words => rfl

/-- Naming an output first is filling one in. -/
theorem Draft.take_output_first (c : Command) {path : Text} (hpath : path.head? ≠ some '-')
    (words : List Word) :
    Draft.take c {} .beforeInput (.option outputForm none [] :: .argument path :: words)
      = (Draft.take c {} .beforeInput words).map (Draft.outputOr path) := by
  have hne : path ≠ emptyingWord := fun h => hpath (h ▸ rfl)
  have hvalue : ({} : Draft).setValue outputForm.key path = .ok (({} : Draft).outputOr path) :=
    if_neg hne
  have hset : ({} : Draft).setOption c [] outputForm path = .ok (({} : Draft).outputOr path) := by
    rw [setOption]
    simp only [List.foldlM_nil, pure_bind, hvalue]
  rw [Draft.take, if_pos (show outputForm.takesValue = true from rfl), hset,
    ← Draft.take_outputOr]
  rfl

theorem Command.understand_output_first (c : Command) {path : Text}
    (hpath : path.head? ≠ some '-') (texts : List Text) :
    c.understand ("-o".toList :: path :: texts)
      = (c.understand texts).map (Prod.map (Invocation.outputOr path) id) := by
  rw [understand, understand, Word.ofTexts_output c hpath]
  cases Word.ofTexts c.forms texts with
  | error a => rfl
  | ok words =>
      simp only [Except.map, bind, Except.bind, pure, Except.pure, Draft.take_output_first c hpath]
      cases Draft.take c {} .beforeInput words with
      | error refusal => rfl
      | ok d =>
          dsimp only
          rw [Draft.missing_outputOr, Draft.input_outputOr, Draft.leftOver_outputOr]
          split
          · exact congrArg (fun i => Except.ok (i, d.leftOver))
              (Draft.invocation_outputOr path d c _)
          · rfl

theorem Invocation.chosen_outputOr (path : Text) (i : Invocation) :
    (i.outputOr path).chosen = i.chosen.map (outputOr path) := by
  rw [chosen, chosen, (i.outputOr_keeps path).2.2]
  split
  · rfl
  · split
    · rfl
    · rfl

/-- Short options in one word make an option, never an argument. -/
theorem bundle_ne_argument (forms flags : List OptionForm) (form : OptionForm) (t other : Text) :
    bundle forms flags form t ≠ .argument other := by
  induction t generalizing flags form with
  | nil => exact nofun
  | cons ch rest ih =>
      rw [bundle]
      split
      · exact nofun
      · split
        · exact nofun
        · split
          · exact nofun
          · exact ih _ _

theorem lookAlike_eq_argument {t other : Text} (h : lookAlike t = .argument other) :
    other = t := by
  rw [lookAlike] at h
  split at h
  · cases h; rfl
  · exact nomatch h

/-- An argument is the word itself. -/
theorem Word.ofText_eq_argument {forms : List OptionForm} {t other : Text}
    (h : Word.ofText forms t = .ok (.argument other)) : other = t := by
  rw [ofText] at h
  split at h
  · cases h; rfl
  · split at h
    · exact nomatch h
    · split at h
      · cases h; rfl
      · split at h
        · have hassigned := Except.ok.inj h
          rw [assignment] at hassigned
          split at hassigned
          · exact nomatch hassigned
          · exact (bundle_ne_argument _ _ _ _ _ hassigned).elim
        · split at h
          · rw [longOption] at h
            split at h
            split at h
            · exact lookAlike_eq_argument (Except.ok.inj h)
            · exact nomatch h
            · exact nomatch h
          · have hshort := Except.ok.inj h
            rw [shortOption] at hshort
            split at hshort
            · exact lookAlike_eq_argument hshort
            · split at hshort
              · exact nomatch hshort
              · exact (bundle_ne_argument _ _ _ _ _ hshort).elim

/-- A command is called by its spelling, with nothing left over in front. -/
theorem callCommand_eq_ok {leftOver : List Text} {word : Text} {rest : List Text} {i : Invocation}
    (h : callCommand leftOver word rest = .ok i) :
    leftOver = [] ∧ ∃ c : Command, word = c.spelling := by
  rw [callCommand, readChoice] at h
  cases hlookup : offeredCommands.lookup word with
  | none => rw [hlookup] at h; exact nomatch h
  | some c =>
      refine ⟨?_, c, ?_⟩
      · rw [hlookup] at h
        dsimp only at h
        cases hunderstood : c.understand rest with
        | error refusal => rw [hunderstood] at h; exact nomatch h
        | ok understood =>
            rw [hunderstood] at h
            simp only [bind, Except.bind] at h
            split at h
            · rename_i hempty
              exact (List.append_eq_nil_iff.mp (List.isEmpty_iff.mp hempty)).1
            · exact nomatch h
      · obtain ⟨c', -, heq⟩ := List.mem_map.mp (mem_of_lookup hlookup)
        cases heq
        rfl

theorem understandFrom_eq_ok {leftOver arguments : List Text} {i : Invocation}
    (h : understandFrom leftOver arguments = .ok i) :
    leftOver = [] ∧ ∃ (c : Command) (rest : List Text), arguments = c.spelling :: rest := by
  induction arguments generalizing leftOver with
  | nil => exact nomatch h
  | cons t rest ih =>
      have hcalled : callCommand leftOver t rest = .ok i →
          leftOver = [] ∧ ∃ (c : Command) (words : List Text), t :: rest = c.spelling :: words := by
        intro hcall
        obtain ⟨hnone, c, rfl⟩ := callCommand_eq_ok hcall
        exact ⟨hnone, c, rest, rfl⟩
      rw [understandFrom] at h
      split at h
      · split at h
        · exact nomatch h
        · exact hcalled h
      · cases hword : Word.ofText [helpForm] t with
        | error a => rw [hword] at h; exact nomatch h
        | ok word =>
            rw [hword] at h
            cases word with
            | option form value flags => cases value <;> exact nomatch h
            | unknown other => exact absurd (ih h).1 (List.append_ne_nil_of_right_ne_nil _ nofun)
            | argument other =>
                obtain rfl : other = t := Word.ofText_eq_argument hword
                exact hcalled h
            | separator => exact hcalled h

/-- A command line that is understood begins with the word that calls a command. -/
theorem Invocation.ofArguments_calls {arguments : List Text} {i : Invocation}
    (h : ofArguments arguments = .ok i) :
    ∃ (c : Command) (rest : List Text), arguments = c.spelling :: rest :=
  (understandFrom_eq_ok h).2

/-- A command that is called understands the words behind its spelling. -/
theorem Invocation.ofArguments_command (c : Command) (texts : List Text) :
    ofArguments (c.spelling :: texts)
      = c.understand texts >>= fun (invocation, more) =>
          if more.isEmpty then invocation.chosen
          else .error (.fault none (.unrecognized more)) := by
  have hcall : ofArguments (c.spelling :: texts) = callCommand [] c.spelling texts := by
    cases c with
    | _ => rfl
  have hchoice : readChoice offeredCommands c.spelling = .ok c := by
    cases c with
    | _ => rfl
  rw [hcall, callCommand, hchoice]
  rfl

/-- **An output that is named first** only fills in the one that is not named behind it. -/
theorem Invocation.ofArguments_output_first (c : Command) {path : Text}
    (hpath : path.head? ≠ some '-') (rest : List Text) :
    ofArguments (c.spelling :: "-o".toList :: path :: rest)
      = (ofArguments (c.spelling :: rest)).map (outputOr path) := by
  rw [ofArguments_command, ofArguments_command, Command.understand_output_first c hpath]
  cases c.understand rest with
  | error refusal => rfl
  | ok understood =>
      obtain ⟨i, more⟩ := understood
      simp only [Except.map, bind, Except.bind, Prod.map_apply, id]
      split
      · exact chosen_outputOr path i
      · rfl

end PointerBindings.CommandLine
