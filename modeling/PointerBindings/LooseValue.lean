import PointerBindings.Decimal.Shortest
import PointerBindings.Text.Numeral
import PointerBindings.Text.Quoted

/-! # Loose values — what a caller may put where a choice is expected

    Some settings are filled in by callers that do not check what they pass.  Such a
    value is kept as it is until a rule asks for it, and it can be shown in a
    message: nothing, truth values and lists have fixed spellings, texts are quoted,
    whole numbers are written out and other numbers as the shortest decimal. -/

namespace PointerBindings

open Text

/-- A value of any kind. -/
inductive LooseValue where
  | nothing
  | truth (value : Bool)
  | whole (value : Int)
  | fraction (value : Decimal)
  | text (value : Text)
  | list (items : List LooseValue)
  | table (entries : List (Text × LooseValue))
deriving Inhabited

mutual

/-- The value as a message shows it. -/
def LooseValue.shown : LooseValue → Text
  | .nothing => "None".toList
  | .truth true => "True".toList
  | .truth false => "False".toList
  | .whole n => signedDecimal n
  | .fraction d => d.toText
  | .text t => quoted t
  | .list items => '[' :: joined ", ".toList (shownItems items) ++ [']']
  | .table entries =>
      '\x7b' :: joined ", ".toList (shownEntries entries) ++ ['\x7d']

/-- The items of a list as a message shows them. -/
def shownItems : List LooseValue → List Text
  | [] => []
  | item :: rest => item.shown :: shownItems rest

/-- The entries of a table as a message shows them. -/
def shownEntries : List (Text × LooseValue) → List Text
  | [] => []
  | (key, value) :: rest => (quoted key ++ ": ".toList ++ value.shown) :: shownEntries rest

end

end PointerBindings
