import PointerBindings.CommandLine.Option
import PointerBindings.Text.DecimalDigit

/-! # Command line words — options told from arguments

    A word that begins with a hyphen is an option if it spells one, with its value behind
    an equals sign or, for short options, right behind the letter.  A short option
    without a value may have further short options behind its letter.  A long option may
    be cut short as long as only one begins that way.  A hyphen alone, a negative number
    and a word with a space in it are arguments; so is every word behind two hyphens.

    Letters that stand behind an option without a value, such as `-h`, and spell no option
    are taken for a value, as the option parser takes them before its release 3.11.9
    (`bundle`, `assignment`).  From that release on it carries the option out, so that
    `-h` shows the help whatever stands behind it. -/

namespace PointerBindings.CommandLine

open Text

/-- A word of a command line. -/
inductive Word where
  | argument (t : Text)
  /-- Two hyphens, behind which there are only arguments. -/
  | separator
  /-- An option, the value written in the same word, and the short options without a
      value that the same word begins with. -/
  | option (form : OptionForm) (value : Option Text) (flags : List OptionForm)
  /-- A word that looks like an option and is none. -/
  | unknown (t : Text)
deriving DecidableEq

/-- A word that more than one option begins with. -/
structure Ambiguity where
  word : Text
  spellings : List Text
deriving DecidableEq

/-- The word is a negative number, whole or with a point. -/
def isNegativeNumber : Text → Bool
  | '-' :: rest =>
      let t := dropFinal '\n' rest
      match t.dropWhile isDecimalDigit with
      | [] => !t.isEmpty
      | '.' :: places => !places.isEmpty && places.all isDecimalDigit
      | _ => false
  | _ => false

/-- Short options in one word, from behind the letter of one that takes no value; what is
    behind the last letter that spells one is its value, whether it takes one or not. -/
def bundle (forms : List OptionForm) (flags : List OptionForm) (form : OptionForm) : Text → Word
  | [] => .option form none flags
  | c :: rest =>
      match (spellingsOf forms).lookup ['-', c] with
      | none => .option form (some (c :: rest)) flags
      | some next =>
          if rest.isEmpty then .option next none (flags ++ [form])
          else if next.takesValue then .option next (some rest) (flags ++ [form])
          else bundle forms (flags ++ [form]) next rest

/-- A word that no option spells in full. -/
def lookAlike (t : Text) : Word :=
  if isNegativeNumber t || t.contains ' ' then .argument t else .unknown t

/-- A word with two hyphens in front, in full or cut short. -/
def longOption (forms : List OptionForm) (t : Text) : Except Ambiguity Word :=
  let (name, value) : Text × Option Text :=
    match cutFirst '=' t with
    | some (name, value) => (name, some value)
    | none => (t, none)
  match (spellingsOf forms).filter fun entry => name.isPrefixOf entry.1 with
  | [] => .ok (lookAlike t)
  | [(_, form)] => .ok (.option form value [])
  | candidates => .error ⟨t, candidates.map Prod.fst⟩

/-- A word with one hyphen in front. -/
def shortOption (forms : List OptionForm) (t : Text) : Word :=
  match (spellingsOf forms).lookup (t.take 2) with
  | none => lookAlike t
  | some form =>
      if form.takesValue then .option form (some (t.drop 2)) []
      else bundle forms [] form (t.drop 2)

/-- A word that spells an option in full before an equals sign, with what is behind that.
    Behind a short option without a value this may still be further short options. -/
def assignment (forms : List OptionForm) (name : Text) (form : OptionForm) (value : Text) : Word :=
  if form.takesValue || "--".toList.isPrefixOf name || value.isEmpty then
    .option form (some value) []
  else bundle forms [] form value

/-- What a word is before any separator. -/
def Word.ofText (forms : List OptionForm) (t : Text) : Except Ambiguity Word :=
  if t.head? ≠ some '-' then .ok (.argument t)
  else
    match (spellingsOf forms).lookup t with
    | some form => .ok (.option form none [])
    | none =>
        if t = ['-'] then .ok (.argument t)
        else
          match (cutFirst '=' t).bind fun (name, value) =>
              ((spellingsOf forms).lookup name).map fun form => (name, form, value) with
          | some (name, form, value) => .ok (assignment forms name form value)
          | none =>
              if (t.drop 1).head? = some '-' then longOption forms t
              else .ok (shortOption forms t)

/-- The words of a command line. -/
def Word.ofTexts (forms : List OptionForm) : List Text → Except Ambiguity (List Word)
  | [] => .ok []
  | t :: rest =>
      if t = "--".toList then .ok (.separator :: rest.map .argument)
      else do
        let word ← Word.ofText forms t
        let words ← Word.ofTexts forms rest
        return word :: words

end PointerBindings.CommandLine
