import PointerBindings.Text.Basic

/-! # Signatures — what a native function takes and returns

    A signature is all that a generated class knows about a function: its name, the
    text of its return type, the text and name of each parameter, and the calling
    convention if the source names one.  Types are opaque texts by now; only the
    return type `void` has a meaning of its own, that nothing is returned. -/

namespace PointerBindings

/-- A parameter: the text of its type, with a direction in front if it is passed by
    reference, and its name. -/
structure Parameter where
  type : Text
  name : Text
deriving DecidableEq, Inhabited

/-- A function as the generated class sees it. -/
structure Signature where
  name : Text
  returnType : Text
  convention : Option Text := none
  parameters : List Parameter := []
deriving DecidableEq, Inhabited

/-- The return type of a function that returns nothing. -/
def Signature.voidType : Text :=
  "void".toList

end PointerBindings
