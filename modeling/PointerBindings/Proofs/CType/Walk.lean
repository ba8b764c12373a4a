import PointerBindings.Proofs.Tables
import PointerBindings.Unmanaged.CTypes

/-! # The walk — from a type to the one that its text comes from

    A type is spelled by going on to another one: below a pointer or an array, behind a
    typedef or an elaborated type.  Here stands what each kind of type makes of the text of
    the type that it goes on to, in the answers of the front end and not in what it left
    out, so that a missing type is the invalid one and a type without a canonical one is
    its own. -/

namespace PointerBindings

open Text

/-- The kind is that of a type of which nothing but its spelling is looked at. -/
def CTypeKind.isSpelled : CTypeKind → Bool
  | .prototype => true
  | .unprototyped => true
  | .invalid => true
  | .other => true
  | _ => false

namespace CType

/-- The spelling of a type that is known by its name. -/
def known? (word : WordSize) (t : CType) : Option Text :=
  (knownTypedefs word).lookup (cleanSpelling t.spelling)

/-- The text that a type has by its spelling: that of an opaque pointer if there is none. -/
def spelledText (t : CType) : Text :=
  match cleanSpelling t.spelling with
  | [] => opaquePointer
  | text => text

variable {word : WordSize} {t : CType}

/-! ## Kind by kind -/

/-- The text of a type in the answers of the front end.  A typedef without a canonical type goes
    on to itself here, and has no text. -/
theorem unmanaged?_eq (word : WordSize) (t : CType) :
    t.unmanaged? word = match t.kind with
      | .pointer =>
          if t.pointee.isFunction then some opaquePointer
          else if t.pointee.kind.isPlainChar then some "byte*".toList
          else (t.pointee.unmanaged? word).map starred
      | .array _ => (t.element.unmanaged? word).map starred
      | .builtin b => some b.unmanaged
      | .elaborated =>
          match t.known? word with
          | some known => some known
          | none =>
              if t.named.kind = .invalid then some (stripTag (cleanSpelling t.spelling))
              else t.named.unmanaged? word
      | .typeAlias =>
          match t.known? word with
          | some known => some known
          | none =>
              if t.canonical.kind = .record ∨ t.canonical.kind = .enum then
                some (cleanSpelling t.spelling)
              else if t.canonical.kind.isFunction then some opaquePointer
              else t.canonical.unmanaged? word
      | .record => some (stripTag (cleanSpelling t.spelling))
      | .enum => some (stripTag (cleanSpelling t.spelling))
      | _ => some t.spelledText := by
  obtain ⟨kind, spelling, pointee, element, named, canonical, result, arguments, variadic⟩ := t
  cases kind with
  | pointer =>
      cases pointee with
      | none => rfl
      | some target => rw [unmanaged?]; rfl
  | array length =>
      cases element with
      | none => rfl
      | some item => rw [unmanaged?]; rfl
  | elaborated =>
      cases named with
      | none => rw [unmanaged?]; rfl
      | some target => rw [unmanaged?]; rfl
  | typeAlias =>
      cases canonical with
      | none =>
          -- such a typedef is its own canonical type, and both sides ask for the same text
          cases hname : (knownTypedefs word).lookup (cleanSpelling spelling) with
          | none => simp only [known?, CType.spelling, hname]; rfl
          | some known => simp only [unmanaged?, known?, CType.spelling, hname]; rfl
      | some target =>
          rw [unmanaged?]
          simp only [Bool.or_eq_true, decide_eq_true_eq]
          rfl
  | builtin | record | enum => rw [unmanaged?]; rfl
  | prototype | unprototyped | invalid | other =>
      simp only [unmanaged?, spelledText, CType.spelling]
      cases cleanSpelling spelling <;> rfl

/-! ## Layers -/

/-- A pointer looks at the type below it before it asks for its text. -/
theorem unmanaged?_of_pointer (h : t.kind = .pointer) :
    t.unmanaged? word
      = if t.pointee.isFunction then some opaquePointer
        else if t.pointee.kind.isPlainChar then some "byte*".toList
        else (t.pointee.unmanaged? word).map starred := by
  rw [unmanaged?_eq word t, h]

/-- An array asks for nothing but the text below it. -/
theorem unmanaged?_of_array {length : ArrayLength} (h : t.kind = .array length) :
    t.unmanaged? word = (t.element.unmanaged? word).map starred := by
  rw [unmanaged?_eq word t, h]

/-! ## Names -/

/-- A name is known from the table of typedefs. -/
theorem mem_of_known? {known : Text} (h : t.known? word = some known) :
    (cleanSpelling t.spelling, known) ∈ knownTypedefs word :=
  mem_of_lookup h

/-- A known name is not seen through. -/
theorem unmanaged?_of_known (h : t.kind = .elaborated ∨ t.kind = .typeAlias) {known : Text}
    (hname : t.known? word = some known) : t.unmanaged? word = some known := by
  rcases h with h | h
  · rw [unmanaged?_eq word t, h, hname]
  · rw [unmanaged?_eq word t, h, hname]

/-- An elaborated type has the text of the type that it names. -/
theorem unmanaged?_of_elaborated (h : t.kind = .elaborated) (hname : t.known? word = none)
    (hnamed : t.named.kind ≠ .invalid) : t.unmanaged? word = t.named.unmanaged? word := by
  rw [unmanaged?_eq word t, h, hname]
  exact if_neg hnamed

/-- A typedef keeps its name for a record or an enumeration; else it has the text of its
    canonical type, where a function is a callback. -/
theorem unmanaged?_of_typeAlias (h : t.kind = .typeAlias) (hname : t.known? word = none) :
    t.unmanaged? word
      = if t.canonical.kind = .record ∨ t.canonical.kind = .enum then
          some (cleanSpelling t.spelling)
        else if t.canonical.kind.isFunction then some opaquePointer
        else t.canonical.unmanaged? word := by
  rw [unmanaged?_eq word t, h, hname]

/-- A typedef that is its own canonical type has no text. -/
theorem unmanaged?_of_endless (h : t.kind = .typeAlias) (hname : t.known? word = none)
    (hself : t.canonical = t) : t.unmanaged? word = none := by
  obtain ⟨kind, spelling, pointee, element, named, canonical, result, arguments, variadic⟩ := t
  rw [known?, CType.spelling] at hname
  cases h
  cases canonical with
  | none => simp only [unmanaged?, hname]
  | some target =>
      -- a type does not carry itself
      have hsize := congrArg sizeOf hself
      simp only [CType.canonical, Option.getD_some, mk.sizeOf_spec, Option.some.sizeOf_spec] at hsize
      omega

/-! ## Ends -/

/-- An elaborated type that names nothing is called what it is written as. -/
theorem unmanaged?_of_unnamed (h : t.kind = .elaborated) (hname : t.known? word = none)
    (hnamed : t.named.kind = .invalid) :
    t.unmanaged? word = some (stripTag (cleanSpelling t.spelling)) := by
  rw [unmanaged?_eq word t, h, hname]
  exact if_pos hnamed

/-- Records and enumerations are called what they are written as. -/
theorem unmanaged?_of_tagged (h : t.kind = .record ∨ t.kind = .enum) :
    t.unmanaged? word = some (stripTag (cleanSpelling t.spelling)) := by
  rcases h with h | h
  · rw [unmanaged?_eq word t, h]
  · rw [unmanaged?_eq word t, h]

theorem unmanaged?_of_builtin {b : BuiltinKind} (h : t.kind = .builtin b) :
    t.unmanaged? word = some b.unmanaged := by
  rw [unmanaged?_eq word t, h]

/-- Of the other kinds nothing but the spelling counts. -/
theorem unmanaged?_of_spelled (h : t.kind.isSpelled = true) :
    t.unmanaged? word = some t.spelledText := by
  rw [unmanaged?_eq word t]
  cases hkind : t.kind with
  | prototype | unprototyped | invalid | other => rfl
  | _ => rw [hkind] at h; cases h

end CType

end PointerBindings
