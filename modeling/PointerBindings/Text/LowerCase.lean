import PointerBindings.Text.Basic
import PointerBindings.Text.LetterCase

/-! # Lower case — the small form of a text

    Each character is replaced by its small form, with two exceptions that no
    table of letters shows: the dotted capital I becomes two characters, and the
    capital sigma becomes the final sigma at the end of a word.  A word ends at a
    sigma when the nearest character before it that is not passed over has case
    and the nearest such character after it has none. -/

namespace PointerBindings.Text

/-- The small form of a letter whose neighbours do not matter. -/
def smallLetter (c : Char) : Char :=
  match caseStretches.find? (·.covers c.toNat) with
  | some s => Char.ofNat (Int.toNat (c.toNat + s.shift))
  | none => c

/-- The nearest character that is not passed over has case. -/
def meetsCased : Text → Bool
  | [] => false
  | c :: rest =>
      if inRanges caseIgnorableCodes c.toNat then meetsCased rest
      else inRanges casedCodes c.toNat

/-- The small form of what follows, after the given characters, nearest first. -/
def lowerAfter (before : Text) : Text → Text
  | [] => []
  | c :: rest =>
      let small :=
        if c.toNat = 304 then ['i', Char.ofNat 775]
        else if c.toNat = 931 then
          [Char.ofNat (if meetsCased before && !meetsCased rest then 962 else 963)]
        else [smallLetter c]
      small ++ lowerAfter (c :: before) rest

/-- The small form of a text. -/
def lower (t : Text) : Text :=
  lowerAfter [] t

end PointerBindings.Text
