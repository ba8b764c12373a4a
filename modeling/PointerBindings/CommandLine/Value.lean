import PointerBindings.Settings
import PointerBindings.Text.LowerCase
import PointerBindings.Unmanaged.Policy

/-! # Option values — words turned into what they mean

    Truth values, indentations and the spelling of words are read leniently, blanks and
    letter size aside, but a truth value must be one and an indentation must lie in its
    range.  The remaining options offer a fixed choice of spellings. -/

namespace PointerBindings.CommandLine

open Text

/-- Why a word is no value for an option. -/
inductive ValueFault where
  | noTruth (word : Text)
  | noNumber (word : Text)
  | indentationRange (value : Int)
  | noChoice (word : Text) (choices : List Text)
deriving DecidableEq

/-- The fault in words. -/
def ValueFault.message : ValueFault → Text
  | .noTruth word => "expected true or false, got '".toList ++ word ++ "'".toList
  | .noNumber word => "indentation must be a number, got '".toList ++ word ++ "'".toList
  | .indentationRange value =>
      "indentation must be between 0 and 255, got ".toList ++ signedDecimal value
  | .noChoice word choices =>
      "invalid choice: ".toList ++ quoted word ++ " (choose from ".toList
        ++ joined ", ".toList (choices.map quoted) ++ [')']

/-- The truth value that a word names. -/
def readTruth (word : Text) : Except ValueFault Bool :=
  let plain := lower (trim word)
  if plain = "true".toList then .ok true
  else if plain = "false".toList then .ok false
  else .error (.noTruth word)

/-- The indentation that a word names. -/
def readIndentation (word : Text) : Except ValueFault Int :=
  match readInteger? word with
  | none => .error (.noNumber word)
  | some n => if 0 ≤ n ∧ n ≤ 255 then .ok n else .error (.indentationRange n)

/-- The spelling of integers of pointer size that a word names; every word but one names
    the usual one. -/
def readWordSize (word : Text) : WordSize :=
  if lower (trim word) = WordSize.nint.spelling then .nint else .intPtr

/-- What a word chooses among things that have spellings. -/
def readChoice {α : Type} (offered : List (Text × α)) (word : Text) : Except ValueFault α :=
  match offered.lookup word with
  | some a => .ok a
  | none => .error (.noChoice word (offered.map Prod.fst))

/-- The scopes on offer. -/
def offeredScopes : List (Text × Scope) :=
  Scope.all.map fun s => (s.spelling, s)

/-- The loaders on offer. -/
def offeredLoaders : List (Text × Loader) :=
  Loader.all.map fun l => (l.spelling, l)

/-- The line ends on offer. -/
def offeredLineEnds : List (Text × Text) :=
  [("crlf".toList, ['\r', '\n']), ("lf".toList, ['\n'])]

end PointerBindings.CommandLine
