import PointerBindings.Text.Basic

/-! # Type policy — how all types are spelled

    Three decisions are left to the caller: how integers of pointer size are spelled,
    whether framework types keep their names, and whether parameters passed by
    reference stay references or become pointers. -/

namespace PointerBindings

/-- The spelling of integers of pointer size. -/
inductive WordSize where
  | intPtr
  | nint
deriving DecidableEq, Inhabited

/-- The word as an option spells it. -/
def WordSize.spelling : WordSize → Text
  | .intPtr => "IntPtr".toList
  | .nint => "nint".toList

/-- The policy that all types are spelled by. -/
structure TypePolicy where
  word : WordSize := .intPtr
  keepsTypeNames : Bool := false
  keepsByRef : Bool := true
deriving DecidableEq, Inhabited

/-- The text of a type that is passed around without being looked into. -/
def opaquePointer : Text :=
  "void*".toList

end PointerBindings
