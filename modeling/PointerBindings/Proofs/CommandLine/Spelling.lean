import PointerBindings.Proofs.CommandLine.Output

/-! # Spelling — the words that an option is written in

    What an option says is written in one word or in two: a flag in one of its spellings, any
    other value behind the option or, for a long spelling, behind an equals sign.  Whatever words
    follow, these are told from them, and the value that is read from them is the one that was
    written (`OptionValue.WrittenAs.read`). -/

namespace PointerBindings.CommandLine

open Text

/-- The spellings that an option has for a command. -/
def Command.spellings (c : Command) (key : OptionKey) : List Text :=
  (c.forms.filter fun form => form.key = key).flatMap OptionForm.spellings

/-! ## Option values -/

/-- The line ends that can be asked for. -/
inductive LineEnd where
  | lf
  | crlf
deriving DecidableEq

/-- The line end as an option spells it. -/
def LineEnd.spelling : LineEnd → Text
  | .lf => "lf".toList
  | .crlf => "crlf".toList

/-- The characters of the line end. -/
def LineEnd.text : LineEnd → Text
  | .lf => ['\n']
  | .crlf => ['\r', '\n']

/-- What one option says, or says by being left out. -/
inductive OptionValue where
  | namespaceName (name : Text)
  | className (name : Text)
  | convention (name : Option Text)
  | indentation (spaces : Fin 256)
  | scope (scope : Scope)
  | loader (loader : Loader)
  | inlined (isInlined : Bool)
  | lineEnd (lineEnd : Option LineEnd)
  | output (path : Option Text)
  | wordSize (word : WordSize)
  | keepsByRef (keeps : Bool)
  | keepsTypeNames (keeps : Bool)
  | includeFolder (path : Text)
  | callbacks (wanted : Bool)
  | frontEndPath (path : Option Text)
deriving DecidableEq

namespace OptionValue

/-- The option that says it. -/
def key : OptionValue → OptionKey
  | .namespaceName _ => .namespaceName
  | .className _ => .className
  | .convention _ => .convention
  | .indentation _ => .indentation
  | .scope _ => .scope
  | .loader _ => .loader
  | .inlined _ => .notInlined
  | .lineEnd _ => .lineEnd
  | .output _ => .output
  | .wordSize _ => .wordSize
  | .keepsByRef _ => .keepsByRef
  | .keepsTypeNames _ => .keepsTypeNames
  | .includeFolder _ => .includeFolder
  | .callbacks _ => .callbacks
  | .frontEndPath _ => .frontEndPath

/-- The word for a truth value. -/
def truthWord (holds : Bool) : Text :=
  if holds then "true".toList else "false".toList

/-- The word that the option has for its value, unless it is left out or a flag. -/
def word? : OptionValue → Option Text
  | .namespaceName t | .className t | .includeFolder t => some t
  | .convention t | .output t | .frontEndPath t => t
  | .indentation n => some (decimal n)
  | .scope s => some s.spelling
  | .loader l => some l.spelling
  | .lineEnd e => e.map LineEnd.spelling
  | .wordSize w => some w.spelling
  | .keepsByRef holds | .keepsTypeNames holds => some (truthWord holds)
  | .inlined _ | .callbacks _ => none

/-- The value is that of a flag which is given. -/
def isFlag : OptionValue → Bool
  | .inlined isInlined => !isInlined
  | .callbacks wanted => wanted
  | _ => false

/-- What is said by leaving options out. -/
def defaults : List OptionValue :=
  [.convention none, .indentation 0, .scope .static, .loader .function, .inlined true,
    .lineEnd none, .output none, .wordSize .intPtr, .keepsByRef true, .keepsTypeNames false,
    .callbacks false, .frontEndPath none]

/-- The words that the value is written in for a command. -/
inductive WrittenAs (c : Command) (v : OptionValue) : List Text → Prop where
  | flag {spelling : Text} (hspelling : spelling ∈ c.spellings v.key) (hflag : v.isFlag = true) :
      WrittenAs c v [spelling]
  /-- The value is a word of its own, which must not look like an option. -/
  | apart {spelling word : Text} (hspelling : spelling ∈ c.spellings v.key)
      (hword : v.word? = some word) (hhyphen : word.head? ≠ some '-') :
      WrittenAs c v [spelling, word]
  /-- The value stands behind an equals sign; two hyphens there would empty the option. -/
  | assigned {spelling word : Text} (hspelling : spelling ∈ c.spellings v.key)
      (hlong : "--".toList.isPrefixOf spelling = true) (hword : v.word? = some word)
      (hhyphens : word ≠ emptyingWord) : WrittenAs c v [spelling ++ '=' :: word]

end OptionValue

/-! ## Values read back -/

/-- A number that an indentation can have is read from its digits. -/
theorem readInteger?_decimal (n : Fin 256) : readInteger? (decimal n) = some (n : Int) := by
  have hdigits : ∀ n : Fin 256, readInteger? (Nat.toDigits 10 n) = some (n : Int) := by
    decide +kernel
  rw [decimal, Nat.repr, String.toList_ofList]
  exact hdigits n

theorem readIndentation_decimal (n : Fin 256) : readIndentation (decimal n) = .ok (n : Int) := by
  rw [readIndentation, readInteger?_decimal]
  exact if_pos (by omega)

/-- The draft with what an option says. -/
def Draft.enter (d : Draft) : OptionValue → Draft
  | .namespaceName t => { d with settings := { d.settings with namespaceName := some t } }
  | .className t => { d with settings := { d.settings with className := some t } }
  | .convention t => { d with settings := { d.settings with convention := t } }
  | .indentation n => { d with settings := { d.settings with indentation := .whole n } }
  | .scope s => { d with settings := { d.settings with scope := .known s } }
  | .loader l => { d with settings := { d.settings with loader := .known l } }
  | .inlined isInlined => { d with settings := { d.settings with inlined := isInlined } }
  | .lineEnd e => { d with settings := { d.settings with lineEnd := e.map LineEnd.text } }
  | .output t => { d with output := t }
  | .wordSize w => { d with policy := { d.policy with word := w } }
  | .keepsByRef keeps => { d with policy := { d.policy with keepsByRef := keeps } }
  | .keepsTypeNames keeps => { d with policy := { d.policy with keepsTypeNames := keeps } }
  | .includeFolder t => { d with includeFolders := d.includeFolders ++ [some t] }
  | .callbacks wanted => { d with callbacks := wanted }
  | .frontEndPath t => { d with frontEndPath := t }

theorem Draft.enter_emptied (d : Draft) (v : OptionValue) : (d.enter v).emptied = d.emptied := by
  cases v with
  | _ => rfl

/-- The word for a value fills in the value. -/
theorem Draft.fill_word {v : OptionValue} {word : Text} (h : v.word? = some word) (d : Draft) :
    d.fill v.key word = .ok (d.enter v) := by
  cases v with
  | namespaceName | className | includeFolder => cases h; rfl
  | convention | output | frontEndPath => cases h; rfl
  | indentation n =>
      cases h
      show (readIndentation (decimal n) >>= fun n => _) = _
      rw [readIndentation_decimal]
      rfl
  | scope s => cases h; cases s <;> rfl
  | loader l => cases h; cases l <;> rfl
  | lineEnd e =>
      obtain ⟨e, rfl, rfl⟩ := Option.map_eq_some_iff.mp h
      cases e <;> rfl
  | wordSize w => cases h; cases w <;> rfl
  | keepsByRef keeps => cases h; cases keeps <;> rfl
  | keepsTypeNames keeps => cases h; cases keeps <;> rfl
  | inlined | callbacks => exact nomatch h

/-! ## Words told apart -/

theorem Command.mem_spellings_iff {c : Command} {key : OptionKey} {spelling : Text} :
    spelling ∈ c.spellings key
      ↔ ∃ form ∈ c.forms, form.key = key ∧ spelling ∈ form.spellings := by
  simp only [spellings, List.mem_flatMap, List.mem_filter, decide_eq_true_eq, and_assoc]

/-- What all spellings of options have in common. -/
theorem Command.spelling_of_mem (c : Command) {form : OptionForm} (hform : form ∈ c.forms)
    {spelling : Text} (hspelling : spelling ∈ form.spellings) :
    (spellingsOf c.forms).lookup spelling = some form ∧ '=' ∉ spelling
      ∧ spelling.head? = some '-' ∧ spelling ≠ "--".toList := by
  revert form spelling
  cases c with
  | _ => decide

/-- The option takes no value. -/
def OptionKey.isFlag : OptionKey → Bool
  | .help | .notInlined | .callbacks => true
  | _ => false

theorem Command.takesValue_eq (c : Command) {form : OptionForm} (hform : form ∈ c.forms) :
    form.takesValue = !form.key.isFlag := by
  revert form
  cases c with
  | _ => decide

/-- A spelling is an option whose value is not in the word. -/
theorem Word.ofText_spelling {c : Command} {form : OptionForm} (hform : form ∈ c.forms)
    {spelling : Text} (hspelling : spelling ∈ form.spellings) :
    Word.ofText c.forms spelling = .ok (.option form none []) := by
  obtain ⟨hlookup, -, hhyphen, -⟩ := c.spelling_of_mem hform hspelling
  rw [ofText, if_neg fun hne => hne hhyphen, hlookup]

/-- No spelling has an equals sign in it. -/
theorem lookup_assigned (c : Command) (spelling word : Text) :
    (spellingsOf c.forms).lookup (spelling ++ '=' :: word) = none := by
  have hsign : ∀ entry ∈ spellingsOf c.forms, '=' ∉ entry.1 := by
    cases c with
    | _ => decide
  refine List.lookup_eq_none_iff.mpr fun entry hentry => bne_iff_ne.mpr fun heq => ?_
  exact hsign entry hentry (heq ▸ List.mem_append_right spelling List.mem_cons_self)

/-- A long spelling with an equals sign behind it is an option with the value that follows. -/
theorem Word.ofText_assigned {c : Command} {form : OptionForm} (hform : form ∈ c.forms)
    {spelling : Text} (hspelling : spelling ∈ form.spellings)
    (hlong : "--".toList.isPrefixOf spelling = true) (word : Text) :
    Word.ofText c.forms (spelling ++ '=' :: word) = .ok (.option form (some word) []) := by
  obtain ⟨hlookup, hsign, hhyphen, -⟩ := c.spelling_of_mem hform hspelling
  have hhead : (spelling ++ '=' :: word).head? = some '-' := by
    rw [List.head?_append, hhyphen]
    rfl
  have hne : spelling ++ '=' :: word ≠ ['-'] := by
    intro heq
    have hm : '=' ∈ ['-'] := heq ▸ List.mem_append_right spelling List.mem_cons_self
    exact absurd hm (by decide)
  rw [ofText, if_neg fun hother => hother hhead, lookup_assigned]
  dsimp only
  rw [if_neg hne, cutFirst_append word hsign, Option.bind_some]
  dsimp only
  rw [hlookup, Option.map_some]
  dsimp only
  rw [assignment, hlong, Bool.or_true, Bool.true_or, if_pos rfl]

/-! ## Words read -/

/-- What a command makes of words, once they are told apart. -/
def Command.read (c : Command) (d : Draft) (stage : ArgumentStage) (texts : List Text) :
    Except Refusal Draft :=
  match Word.ofTexts c.forms texts with
  | .ok words => Draft.take c d stage words
  | .error a => .error (.fault (some c) (.ambiguous a))

/-- A word that is told apart and taken at once leaves the rest to be read. -/
theorem Command.read_cons {c : Command} {d d' : Draft} {stage stage' : ArgumentStage}
    {text : Text} {word : Word} (hne : text ≠ "--".toList)
    (hword : Word.ofText c.forms text = .ok word)
    (htake : ∀ words, Draft.take c d stage (word :: words) = Draft.take c d' stage' words)
    (rest : List Text) : c.read d stage (text :: rest) = c.read d' stage' rest := by
  rw [read, read, Word.ofTexts, if_neg hne, hword]
  cases Word.ofTexts c.forms rest with
  | error a => rfl
  | ok words => exact htake words

/-- The same of a word that needs the one behind it. -/
theorem Command.read_cons_cons {c : Command} {d d' : Draft} {stage stage' : ArgumentStage}
    {text text' : Text} {word word' : Word} (hne : text ≠ "--".toList)
    (hword : Word.ofText c.forms text = .ok word) (hne' : text' ≠ "--".toList)
    (hword' : Word.ofText c.forms text' = .ok word')
    (htake : ∀ words, Draft.take c d stage (word :: word' :: words) = Draft.take c d' stage' words)
    (rest : List Text) : c.read d stage (text :: text' :: rest) = c.read d' stage' rest := by
  rw [read, read, Word.ofTexts, if_neg hne, hword, Word.ofTexts, if_neg hne', hword']
  cases Word.ofTexts c.forms rest with
  | error a => rfl
  | ok words => exact htake words

/-- A word without a hyphen in front is an argument, and none that opens the arguments. -/
theorem Word.ofText_argument (forms : List OptionForm) {t : Text} (h : t.head? ≠ some '-') :
    t ≠ "--".toList ∧ Word.ofText forms t = .ok (.argument t) :=
  ⟨fun heq => h (heq ▸ rfl), if_pos h⟩

/-- An option with a word for its value is filled in. -/
theorem Draft.setOption_word {c : Command} {d : Draft} (hd : d.emptied = []) {v : OptionValue}
    {form : OptionForm} (hkey : form.key = v.key) {word : Text} (hword : v.word? = some word)
    (hne : word ≠ emptyingWord) : d.setOption c [] form word = .ok (d.enter v) := by
  have hothers : ({ d with emptied := d.emptied.filter (· ≠ v.key) } : Draft) = d := by
    rw [hd, List.filter_nil, ← hd]
  have hvalue : d.setValue form.key word = .ok (d.enter v) := by
    rw [hkey, setValue, if_neg hne, hothers]
    exact fill_word hword d
  rw [setOption]
  simp only [List.foldlM_nil, pure_bind, hvalue]

/-- A value with a word for it is that of an option which takes one. -/
theorem OptionValue.takesValue_of_word {c : Command} {v : OptionValue} {form : OptionForm}
    (hform : form ∈ c.forms) (hkey : form.key = v.key) {word : Text} (h : v.word? = some word) :
    form.takesValue = true := by
  rw [c.takesValue_eq hform, hkey]
  cases v with
  | inlined | callbacks => exact nomatch h
  | _ => rfl

/-- A flag that is given says what it is there to say. -/
theorem OptionValue.setFlag {v : OptionValue} (h : v.isFlag = true) (c : Command) (d : Draft) :
    v.key.isFlag = true ∧ d.setFlag c v.key = .ok (d.enter v) := by
  cases v with
  | inlined isInlined =>
      cases isInlined with
      | true => exact nomatch h
      | false => exact ⟨rfl, rfl⟩
  | callbacks wanted =>
      cases wanted with
      | true => exact ⟨rfl, rfl⟩
      | false => exact nomatch h
  | _ => exact nomatch h

/-- **What is written is read**: the words of an option are told from all that follow, and the
    draft gets the value. -/
theorem OptionValue.WrittenAs.read {c : Command} {v : OptionValue} {texts : List Text}
    (h : v.WrittenAs c texts) {d : Draft} (hd : d.emptied = []) (stage : ArgumentStage)
    (rest : List Text) :
    c.read d stage (texts ++ rest) = c.read (d.enter v) stage.interrupted rest := by
  cases h with
  | flag hmem hflag =>
      obtain ⟨form, hform, hkey, hspelling⟩ := Command.mem_spellings_iff.mp hmem
      obtain ⟨hisFlag, hset⟩ := setFlag hflag c d
      have htakes : ¬form.takesValue = true := by
        rw [c.takesValue_eq hform, hkey, hisFlag]
        exact Bool.false_ne_true
      refine Command.read_cons (c.spelling_of_mem hform hspelling).2.2.2
        (Word.ofText_spelling hform hspelling) (fun words => ?_) rest
      rw [Draft.take.eq_def]
      show (if form.takesValue = true then _ else _) = _
      rw [if_neg htakes]
      simp only [List.nil_append, List.foldlM_cons, List.foldlM_nil, hkey, hset]
      rfl
  | apart hmem hword hhyphen =>
      obtain ⟨form, hform, hkey, hspelling⟩ := Command.mem_spellings_iff.mp hmem
      have htakes := takesValue_of_word hform hkey hword
      obtain ⟨hne, hargument⟩ := Word.ofText_argument c.forms hhyphen
      refine Command.read_cons_cons (c.spelling_of_mem hform hspelling).2.2.2
        (Word.ofText_spelling hform hspelling) hne hargument (fun words => ?_) rest
      rw [Draft.take, if_pos htakes, Draft.setOption_word hd hkey hword hne]
      rfl
  | @assigned spelling word hmem hlong hword hhyphens =>
      obtain ⟨form, hform, hkey, hspelling⟩ := Command.mem_spellings_iff.mp hmem
      have htakes := takesValue_of_word hform hkey hword
      have hne : spelling ++ '=' :: word ≠ "--".toList := by
        intro heq
        have hm : '=' ∈ "--".toList := heq ▸ List.mem_append_right spelling List.mem_cons_self
        exact absurd hm (by decide)
      refine Command.read_cons hne (Word.ofText_assigned hform hspelling hlong word)
        (fun words => ?_) rest
      rw [Draft.take, if_pos htakes, Draft.setOption_word hd hkey hword hhyphens]
      rfl

end PointerBindings.CommandLine
