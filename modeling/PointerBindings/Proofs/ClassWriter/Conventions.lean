import PointerBindings.Proofs.ClassWriter.Lines
import PointerBindings.Proofs.Text.Blank

/-! # Conventions — a shared one and one for each function

    A function is called by its own convention, or by the one that the settings share if
    its own says nothing, and either is written without the blanks around it.  Nothing
    else in a class asks for a convention, so that the lines of two writers are the same
    where every function resolves to the same text (`ClassWriter.classLines_congr`).  The
    shared convention can then be written out for each function that names none, and the
    blanks can be left out (`Settings.generated_conventions`). -/

namespace PointerBindings

open Text

/-! ## What a convention says -/

/-- What a convention says: nothing if it is missing or blank, else its text without the blanks
    around it. -/
def spokenConvention (convention : Option Text) : Option Text :=
  if isUnnamed convention then none else convention.map trim

theorem spokenConvention_of_isUnnamed {convention : Option Text} (h : isUnnamed convention = true) :
    spokenConvention convention = none :=
  if_pos h

/-- Blanks around a convention say nothing. -/
theorem spokenConvention_trim (convention : Option Text) :
    spokenConvention (convention.map trim) = spokenConvention convention := by
  cases convention with
  | none => rfl
  | some t =>
      have hblank : isUnnamed (some (trim t)) = isUnnamed (some t) := by
        rw [isUnnamed, isUnnamed, Bool.eq_iff_iff, ← trim_eq_nil_iff, ← trim_eq_nil_iff, trim_trim]
      rw [spokenConvention, spokenConvention, Option.map_some, hblank, Option.map_some, trim_trim]

/-- A convention in place of one that says nothing says what it does, and no other is replaced. -/
theorem spokenConvention_default (own shared : Option Text) :
    spokenConvention (if isUnnamed own then shared else own)
      = (spokenConvention own).or (spokenConvention shared) := by
  by_cases hown : isUnnamed own = true
  · rw [if_pos hown, spokenConvention_of_isUnnamed hown, Option.none_or]
  · rw [if_neg hown]
    cases own with
    | none => exact absurd rfl hown
    | some t => rw [spokenConvention, if_neg hown, Option.map_some, Option.some_or]

/-- A function is called by what its own convention says, or else by what the shared one does. -/
theorem ClassWriter.conventionOf_eq (w : ClassWriter) (f : Signature) :
    w.conventionOf f
      = (spokenConvention f.convention).or (spokenConvention w.settings.convention) := by
  have hfallback : conventionOf.fallback w = spokenConvention w.settings.convention := by
    rw [conventionOf.fallback, spokenConvention]
    cases w.settings.convention with
    | none => rfl
    | some shared => rfl
  rw [conventionOf, hfallback]
  cases f.convention with
  | none => rfl
  | some own =>
      show (if allBlank own then _ else _) = _
      by_cases hown : allBlank own = true
      · have hnone : spokenConvention (some own) = none := spokenConvention_of_isUnnamed hown
        rw [if_pos hown, hnone, Option.none_or]
      · rw [if_neg hown, spokenConvention, isUnnamed, if_neg hown, Option.map_some, Option.some_or]

/-! ## Other conventions -/

/-- The function with another convention of its own. -/
def Signature.withConvention (f : Signature) (convention : Option Text) : Signature :=
  { f with convention }

/-- The function with the given convention, if its own is missing or blank. -/
def Signature.withDefault (shared : Option Text) (f : Signature) : Signature :=
  f.withConvention (if isUnnamed f.convention then shared else f.convention)

/-- The function with the blanks around its convention taken off. -/
def Signature.withTrimmed (f : Signature) : Signature :=
  f.withConvention (f.convention.map trim)

/-- The settings with another convention to share. -/
def Settings.withConvention (s : Settings) (convention : Option Text) : Settings :=
  s.edit (.convention convention)

namespace ClassWriter

/-- The writer with another convention to share. -/
def withConvention (w : ClassWriter) (convention : Option Text) : ClassWriter :=
  { w with settings := w.settings.withConvention convention }

section Resolved

variable {w : ClassWriter} {shared : Option Text} {own : Signature → Option Text}
  (hsame : ∀ f : Signature,
    (w.withConvention shared).conventionOf (f.withConvention (own f)) = w.conventionOf f)
include hsame

/-- The resolved convention is all that a pointer type has of one. -/
theorem pointerType_congr (f : Signature) :
    (w.withConvention shared).pointerType (f.withConvention (own f)) = w.pointerType f := by
  have htypes : pointerTypes (f.withConvention (own f)) = pointerTypes f := rfl
  unfold pointerType
  rw [hsame f, htypes]

theorem fieldSection_congr (functions : List Signature) :
    (w.withConvention shared).fieldSection (functions.map fun f => f.withConvention (own f))
      = w.fieldSection functions := by
  rw [fieldSection, List.map_map]
  refine List.map_congr_left fun f _ => ?_
  rw [Function.comp_apply, pointerField, pointerType_congr hsame f]
  rfl

theorem loaderSection_congr (functions : List Signature) :
    (w.withConvention shared).loaderSection (functions.map fun f => f.withConvention (own f))
      = w.loaderSection functions := by
  have hassignments : (functions.map fun f => f.withConvention (own f)).map
      (w.withConvention shared).loaderAssignment = functions.map w.loaderAssignment := by
    rw [List.map_map]
    refine List.map_congr_left fun f _ => ?_
    rw [Function.comp_apply, loaderAssignment, pointerType_congr hsame f]
    rfl
  rw [loaderSection, hassignments]
  rfl

/-- **Only the resolved convention is written**: where every function resolves to the same text,
    the lines are the same. -/
theorem classLines_congr (functions : List Signature) :
    (w.withConvention shared).classLines (functions.map fun f => f.withConvention (own f))
      = w.classLines functions := by
  -- a wrapper does not ask for the convention at all
  have hwrappers : (w.withConvention shared).wrapperSection
        (functions.map fun f => f.withConvention (own f)) = w.wrapperSection functions := by
    rw [wrapperSection, List.flatMap_map]
    rfl
  rw [classLines, fieldSection_congr hsame, loaderSection_congr hsame, hwrappers]
  rfl

/-- The same lines make the same text. -/
theorem textOf_congr (functions : List Signature) :
    (w.withConvention shared).textOf ((functions.map fun f => f.withConvention (own f)).map .ok)
      = w.textOf (functions.map .ok) := by
  have hend : (w.withConvention shared).settings.lineEnd = w.settings.lineEnd := rfl
  rw [textOf, textOf, gathered_eq_ok_iff.mpr rfl, gathered_eq_ok_iff.mpr rfl, hend]
  cases w.settings.lineEnd with
  | none => rfl
  | some lineEnd =>
      dsimp only
      rw [classText, classLines_congr hsame, classText]

end Resolved

/-- What is settled when a writer is made has nothing to do with conventions. -/
theorem ofSettings_withConvention (s : Settings) (shared : Option Text) :
    ofSettings (s.withConvention shared) = (ofSettings s).map (·.withConvention shared) := by
  rw [ofSettings, ofSettings]
  dsimp only [Settings.withConvention, Settings.edit]
  split
  · rfl
  · rfl
  · rfl

end ClassWriter

/-- Conventions are not checked. -/
theorem Settings.validated_withConvention (s : Settings) (shared : Option Text) :
    (s.withConvention shared).validated = s.validated.map (·.withConvention shared) := by
  have hclass : (s.withConvention shared).className = s.className := rfl
  have hnamespace : (s.withConvention shared).namespaceName = s.namespaceName := rfl
  have hindentation : (s.withConvention shared).indentation = s.indentation := rfl
  rw [validated, hclass, hnamespace, hindentation, validated]
  split
  · rfl
  · split
    · rfl
    · split
      · split
        · rfl
        · rfl
      · rfl

/-! ## The artifact -/

/-- What comes of settings and signatures at hand: a fault if no generator can be made, else what
    that generates. -/
def Settings.generated (s : Settings) (functions : List Signature) :
    Except GeneratorFault (Except GenerationFault Text) :=
  (Generator.ofSettings s (.ofSignatures functions)).map fun g => g.generate.1

/-- The writer of a generator that is made of the settings. -/
def Settings.writer (s : Settings) : Except GeneratorFault ClassWriter :=
  match s.validated with
  | .error fault => .error (.settings fault)
  | .ok checked => (ClassWriter.ofSettings checked).mapError .scope

/-- What is generated for signatures at hand is what the writer makes of them. -/
theorem Settings.generated_eq (s : Settings) (functions : List Signature) :
    s.generated functions = s.writer.map fun w => w.textOf (functions.map .ok) := by
  have htext (w : ClassWriter) :
      (Generator.generate ⟨w, { source := .ofSignatures functions }⟩).1
        = w.textOf (functions.map .ok) :=
    (Generator.generate_spec _).1
  rw [generated, Generator.ofSettings, writer]
  cases s.validated with
  | error fault => rfl
  | ok checked =>
      dsimp only
      cases ClassWriter.ofSettings checked with
      | error fault => rfl
      | ok w => exact congrArg Except.ok (htext w)

theorem Settings.writer_withConvention (s : Settings) (shared : Option Text) :
    (s.withConvention shared).writer = s.writer.map (·.withConvention shared) := by
  rw [writer, validated_withConvention, writer]
  cases s.validated with
  | error fault => rfl
  | ok checked =>
      dsimp only [Except.map]
      rw [ClassWriter.ofSettings_withConvention]
      cases ClassWriter.ofSettings checked with
      | error fault => rfl
      | ok w => rfl

/-- The writer keeps the convention that the settings share. -/
theorem Settings.writer_convention {s : Settings} {w : ClassWriter} (h : s.writer = .ok w) :
    w.settings.convention = s.convention := by
  rw [writer] at h
  cases hchecked : s.validated with
  | error fault =>
      rw [hchecked] at h
      exact nomatch h
  | ok checked =>
      obtain rfl := Settings.validated_eq_ok hchecked
      rw [hchecked] at h
      dsimp only at h
      cases hw : ClassWriter.ofSettings s.withLineEnd with
      | error fault =>
          rw [hw] at h
          exact nomatch h
      | ok made =>
          rw [hw] at h
          cases h
          rw [ClassWriter.ofSettings_settings hw]
          rfl

/-- Other conventions make no difference, if for every function its own and the shared one still
    say the same together. -/
theorem Settings.generated_congr (s : Settings) (shared : Option Text)
    (own : Option Text → Option Text)
    (hsame : ∀ convention, (spokenConvention (own convention)).or (spokenConvention shared)
      = (spokenConvention convention).or (spokenConvention s.convention))
    (functions : List Signature) :
    (s.withConvention shared).generated
        (functions.map fun f => f.withConvention (own f.convention))
      = s.generated functions := by
  rw [generated_eq, generated_eq, writer_withConvention]
  cases hw : s.writer with
  | error fault => rfl
  | ok w =>
      refine congrArg Except.ok (ClassWriter.textOf_congr (fun f => ?_) functions)
      rw [ClassWriter.conventionOf_eq, ClassWriter.conventionOf_eq, writer_convention hw]
      exact hsame f.convention

/-- **A shared convention is a default for each function.**  What comes of settings and signatures
    stays the same, artifact or fault, if every signature that names no convention is given the
    shared one and that is taken out of the settings.  The blanks around conventions can be taken
    off, those of the signatures alone or with them that of the settings. -/
theorem Settings.generated_conventions (s : Settings) (functions : List Signature) :
    (s.withConvention none).generated (functions.map (Signature.withDefault s.convention))
        = s.generated functions
      ∧ (s.withConvention (s.convention.map trim)).generated (functions.map Signature.withTrimmed)
        = s.generated functions
      ∧ s.generated (functions.map Signature.withTrimmed) = s.generated functions := by
  have hdefault (own : Option Text) :
      (spokenConvention (if isUnnamed own then s.convention else own)).or (spokenConvention none)
        = (spokenConvention own).or (spokenConvention s.convention) := by
    have hnone : spokenConvention none = none := rfl
    rw [spokenConvention_default, hnone, Option.or_none]
  have htrimmed (own : Option Text) :
      (spokenConvention (own.map trim)).or (spokenConvention (s.convention.map trim))
        = (spokenConvention own).or (spokenConvention s.convention) := by
    rw [spokenConvention_trim, spokenConvention_trim]
  have hown (own : Option Text) :
      (spokenConvention (own.map trim)).or (spokenConvention s.convention)
        = (spokenConvention own).or (spokenConvention s.convention) := by
    rw [spokenConvention_trim]
  exact ⟨generated_congr s none _ hdefault functions,
    generated_congr s (s.convention.map trim) _ htrimmed functions,
    generated_congr s s.convention _ hown functions⟩

end PointerBindings
