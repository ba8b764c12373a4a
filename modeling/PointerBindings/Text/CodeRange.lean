/-! # Code ranges — character classes as tables

    A class of characters that no rule describes is kept as the list of the code
    ranges that make it up, ascending and apart.  Membership is a search of the
    list, so a class is as good as its table and nothing is hidden in a program. -/

namespace PointerBindings.Text

/-- Both ends of a range of character codes; both belong to the range. -/
abbrev CodeRange := Nat × Nat

/-- The code lies in one of the ranges. -/
def inRanges (ranges : List CodeRange) (code : Nat) : Bool :=
  ranges.any fun r => Nat.ble r.1 code && Nat.ble code r.2

end PointerBindings.Text
