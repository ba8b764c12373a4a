import PointerBindings.Proofs.CType.Layers

/-! # Callbacks — C types that are functions behind their names

    A callback is a function or a pointer to one once all typedefs are seen through, and it
    should be spelled as an opaque pointer.  The walk looks for a function in two places
    only: below a pointer and behind a typedef.  So a callback is spelled as an opaque
    pointer exactly if it is one of these, or an elaborated type that names one of these
    (`CType.callback_opaque_iff`); a function that is written as such keeps the spelling of
    a function. -/

namespace PointerBindings

open Text

/-- The kind is that of a type that is no function, is spelled without regard to one and hides
    none behind a name. -/
def CTypeKind.isDatum : CTypeKind → Bool
  | .builtin _ => true
  | .array _ => true
  | .record => true
  | .enum => true
  | _ => false

namespace CType

/-- All typedefs seen through, the type is a function or a pointer to one. -/
def IsCallback (t : CType) : Prop :=
  t.isFunction = true ∨ t.canonical.kind = .pointer ∧ t.canonical.pointee.isFunction = true

/-- What the front end says of the type fits what it says of its canonical type: that of a pointer
    is a pointer to the canonical type below, that of an elaborated type is that of the type it
    names, and that of data is of the same kind. -/
inductive Coherent : CType → Prop where
  | pointer {t : CType} (hkind : t.kind = .pointer) (hcanonical : t.canonical.kind = .pointer)
      (hpointee : t.canonical.pointee.canonical = t.pointee.canonical) : Coherent t
  | elaborated {t : CType} (hkind : t.kind = .elaborated) (hnamed : t.named.kind ≠ .invalid)
      (hcanonical : t.named.canonical = t.canonical) (inner : Coherent t.named) : Coherent t
  | datum {t : CType} (hkind : t.kind.isDatum = true) (hcanonical : t.canonical.kind = t.kind) :
      Coherent t
  | typeAlias {t : CType} (hkind : t.kind = .typeAlias) : Coherent t
  | spelled {t : CType} (hkind : t.kind.isSpelled = true) : Coherent t

/-- The walk comes to a place where it looks for a function, and no name on the way is known; or
    the type is spelled like an opaque pointer by itself. -/
inductive SeenAsCallback (word : WordSize) : CType → Prop where
  | pointer {t : CType} (hkind : t.kind = .pointer) : SeenAsCallback word t
  | typeAlias {t : CType} (hkind : t.kind = .typeAlias) (hname : t.known? word = none) :
      SeenAsCallback word t
  | elaborated {t : CType} (hkind : t.kind = .elaborated) (hname : t.known? word = none)
      (inner : SeenAsCallback word t.named) : SeenAsCallback word t
  | spelled {t : CType} (hkind : t.kind.isSpelled = true) (htext : t.spelledText = opaquePointer) :
      SeenAsCallback word t

variable {word : WordSize} {t : CType}

/-! ## Where a function is looked for -/

theorem seenAsCallback_iff_of_typeAlias (hkind : t.kind = .typeAlias) :
    t.SeenAsCallback word ↔ t.known? word = none := by
  constructor
  · intro h
    cases h with
    | typeAlias _ hname => exact hname
    | pointer hother => cases hkind.symm.trans hother
    | elaborated hother => cases hkind.symm.trans hother
    | spelled hother => rw [hkind] at hother; cases hother
  · exact .typeAlias hkind

theorem seenAsCallback_iff_of_elaborated (hkind : t.kind = .elaborated) :
    t.SeenAsCallback word ↔ t.known? word = none ∧ t.named.SeenAsCallback word := by
  constructor
  · intro h
    cases h with
    | elaborated _ hname inner => exact ⟨hname, inner⟩
    | pointer hother => cases hkind.symm.trans hother
    | typeAlias hother => cases hkind.symm.trans hother
    | spelled hother => rw [hkind] at hother; cases hother
  · rintro ⟨hname, inner⟩
    exact .elaborated hkind hname inner

theorem seenAsCallback_iff_of_spelled (hkind : t.kind.isSpelled = true) :
    t.SeenAsCallback word ↔ t.spelledText = opaquePointer := by
  constructor
  · intro h
    cases h with
    | spelled _ htext => exact htext
    | pointer hother => rw [hother] at hkind; cases hkind
    | typeAlias hother => rw [hother] at hkind; cases hkind
    | elaborated hother => rw [hother] at hkind; cases hkind
  · exact .spelled hkind

/-! ## Texts -/

/-- No known name is spelled as an opaque pointer. -/
theorem known?_ne_opaque {known : Text} (h : t.known? word = some known) :
    known ≠ opaquePointer := by
  have hall : ∀ entry ∈ knownTypedefs word, entry.2 ≠ opaquePointer := by
    cases word with
    | intPtr => decide
    | nint => decide
  exact hall _ (mem_of_known? h)

/-- A pointer to a function is opaque. -/
theorem unmanaged?_of_pointer_to_function (hkind : t.kind = .pointer)
    (hfunction : t.pointee.isFunction = true) : t.unmanaged? word = some opaquePointer := by
  rw [unmanaged?_of_pointer hkind, if_pos hfunction]

/-- A typedef for a callback is opaque. -/
theorem IsCallback.unmanaged?_of_typeAlias (h : t.IsCallback) (hkind : t.kind = .typeAlias)
    (hname : t.known? word = none) : t.unmanaged? word = some opaquePointer := by
  have hkept : ¬ (t.canonical.kind = .record ∨ t.canonical.kind = .enum) := by
    rintro (hrecord | henum) <;> rcases h with hfunction | ⟨hpointer, -⟩
    · rw [isFunction, hrecord] at hfunction; cases hfunction
    · cases hrecord.symm.trans hpointer
    · rw [isFunction, henum] at hfunction; cases hfunction
    · cases henum.symm.trans hpointer
  rw [CType.unmanaged?_of_typeAlias hkind hname, if_neg hkept]
  split
  · rfl
  · rename_i hfunction
    obtain ⟨hpointer, hbelow⟩ := h.resolve_left hfunction
    exact unmanaged?_of_pointer_to_function hpointer hbelow

/-- **Callbacks are opaque.**  A callback of which the front end speaks coherently is spelled as an
    opaque pointer exactly if a function is looked for where it lies. -/
theorem callback_opaque_iff (hcallback : t.IsCallback) (hcoherent : t.Coherent)
    (word : WordSize) : t.unmanaged? word = some opaquePointer ↔ t.SeenAsCallback word := by
  induction hcoherent with
  | @pointer t hkind hcanonical hpointee =>
      have hfunction : t.pointee.isFunction = true := by
        rcases hcallback with hfunction | ⟨-, hfunction⟩
        · rw [isFunction, hcanonical] at hfunction
          cases hfunction
        · rwa [isFunction, hpointee] at hfunction
      exact iff_of_true (unmanaged?_of_pointer_to_function hkind hfunction) (.pointer hkind)
  | @elaborated t hkind hnamed hcanonical inner ih =>
      rw [seenAsCallback_iff_of_elaborated hkind]
      cases hname : t.known? word with
      | some known =>
          rw [unmanaged?_of_known (.inl hkind) hname]
          exact iff_of_false (fun h => known?_ne_opaque hname (Option.some.inj h))
            (fun h => by cases h.1)
      | none =>
          -- the type that is named is the same callback
          have hinner : t.named.IsCallback := by rwa [IsCallback, isFunction, hcanonical]
          rw [unmanaged?_of_elaborated hkind hname hnamed, ih hinner]
          exact (and_iff_right rfl).symm
  | @datum t hkind hcanonical =>
      rcases hcallback with hfunction | ⟨hpointer, -⟩
      · rw [isFunction, hcanonical] at hfunction
        cases hdatum : t.kind with
        | prototype | unprototyped => rw [hdatum] at hkind; cases hkind
        | _ => rw [hdatum] at hfunction; cases hfunction
      · rw [← hcanonical, hpointer] at hkind
        cases hkind
  | @typeAlias t hkind =>
      rw [seenAsCallback_iff_of_typeAlias hkind]
      cases hname : t.known? word with
      | some known =>
          rw [unmanaged?_of_known (.inr hkind) hname]
          exact iff_of_false (fun h => known?_ne_opaque hname (Option.some.inj h))
            (fun h => by cases h)
      | none => exact iff_of_true (hcallback.unmanaged?_of_typeAlias hkind hname) rfl
  | @spelled t hkind =>
      rw [seenAsCallback_iff_of_spelled hkind, unmanaged?_of_spelled hkind]
      exact Option.some_inj

/-- The type `void (int)`. -/
def handlerFunction : CType :=
  .mk .prototype "void (int)".toList none none none none
    (some (.mk (.builtin .void) "void".toList none none none none none [] false))
    [.mk (.builtin .int) "int".toList none none none none none [] false] false

/-- The type `handler_t` of `typedef void (*handler_t)(int);`. -/
def handlerAlias : CType :=
  .mk .typeAlias "handler_t".toList none none none
    (some (pointerTo "void (*)(int)".toList handlerFunction)) none [] false

/-- The type `handler_t` as a declaration names it. -/
def handlerName : CType :=
  .mk .elaborated "handler_t".toList none none (some handlerAlias)
    (some (pointerTo "void (*)(int)".toList handlerFunction)) none [] false

/-- A callback that is named twice is an opaque pointer. -/
theorem callback_opaque_iff_handler :
    handlerName.IsCallback ∧ handlerName.Coherent
      ∧ (handlerName.unmanaged? .nint = some opaquePointer ↔ handlerName.SeenAsCallback .nint) := by
  have hcallback : handlerName.IsCallback := .inr ⟨rfl, rfl⟩
  have hcoherent : handlerName.Coherent := .elaborated rfl nofun rfl (.typeAlias rfl)
  exact ⟨hcallback, hcoherent, callback_opaque_iff hcallback hcoherent .nint⟩

/-- A parameter that is declared as a function keeps the spelling of a function. -/
theorem function_parameter_spelled_out :
    handlerFunction.IsCallback ∧ handlerFunction.Coherent
      ∧ handlerFunction.unmanaged? .intPtr ≠ some opaquePointer :=
  ⟨.inl rfl, .spelled rfl, by decide⟩

end CType

end PointerBindings
