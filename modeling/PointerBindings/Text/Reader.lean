import PointerBindings.Text.Basic

/-! # Readers — taking a text apart from its beginning

    A reader takes something off the beginning of a text and leaves the rest, or finds
    that the text does not begin that way.  Repeating a reader is bounded by the length
    of the text, which is no bound at all for a reader that takes a character or more
    each time. -/

namespace PointerBindings.Text

/-- A reader takes a value off the beginning of a text, or finds none there. -/
abbrev Reader := StateT Text Option

namespace Reader

/-- Takes the given beginning off. -/
def literal (start : Text) : Reader Unit := fun t =>
  (after? start t).map fun rest => ((), rest)

/-- Takes the given beginning off if it is there, and says whether it was. -/
def optional (start : Text) : Reader Bool := fun t =>
  match after? start t with
  | some rest => some (true, rest)
  | none => some (false, t)

/-- Whether the text begins in the given way; nothing is taken off. -/
def sees (start : Text) : Reader Bool := fun t =>
  some (start.isPrefixOf t, t)

/-- The first character, which stays where it is. -/
def next? : Reader (Option Char) := fun t =>
  some (t.head?, t)

/-- Takes the first character off. -/
def character : Reader Char
  | [] => none
  | c :: rest => some (c, rest)

/-- Takes the longest run of characters of one class off. -/
def run (belongs : Char → Bool) : Reader Text := fun t =>
  some (t.takeWhile belongs, t.dropWhile belongs)

/-- Takes a run of at least one character off. -/
def run1 (belongs : Char → Bool) : Reader Text := do
  let taken ← run belongs
  if taken.isEmpty then failure else return taken

/-- The text before and after the first place where another text begins. -/
def cutAt (stop : Text) : Text → Option (Text × Text)
  | [] => if stop.isEmpty then some ([], []) else none
  | c :: rest =>
      match after? stop (c :: rest) with
      | some behind => some ([], behind)
      | none => (cutAt stop rest).map fun (before, behind) => (c :: before, behind)

/-- Takes everything before the first place where another text begins, and that text
    with it. -/
def upTo (stop : Text) : Reader Text :=
  cutAt stop

/-- Repeats a reader until it answers with nothing, at most once for each character of the
    bound. -/
def repeated {α : Type} (step : Reader (Option α)) : Text → Reader (List α)
  | [] => failure
  | _ :: bound => do
      match ← step with
      | none => return []
      | some a => return a :: (← repeated step bound)

/-- Repeats a reader until it answers with nothing: at most once for each character that
    is left, and once more. -/
def many {α : Type} (step : Reader (Option α)) : Reader (List α) := do
  let t ← get
  repeated step (' ' :: t)

/-- What a reader makes of the whole of a text. -/
def whole? {α : Type} (reader : Reader α) (t : Text) : Option α :=
  match reader t with
  | some (a, []) => some a
  | _ => none

end Reader

end PointerBindings.Text
