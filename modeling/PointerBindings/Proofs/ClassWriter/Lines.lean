import PointerBindings.Proofs.Session.History

/-! # Lines — what the text of a generator is put together from

    A generator that is made for signatures at hand always writes, and what it writes are
    the lines of the class for just these signatures, whichever pass looked at them
    (`Generator.writesLines`).  So everything that is said of an artifact can be said of
    the lines that its writer has for a list of signatures, and of the writer no more
    matters than the settings: its unit is a run of blanks that they give, and it calls the
    class `this` or by its name. -/

namespace PointerBindings

open Text

/-! ## Texts at a level -/

/-- The text begins with something, and that is no blank. -/
structure IsFlush (t : Text) : Prop where
  ne_nil : t ≠ []
  head : ∀ c ∈ t.head?, isBlank c = false

instance (t : Text) : Decidable (IsFlush t) :=
  decidable_of_iff (t ≠ [] ∧ t.head?.all (!isBlank ·) = true) (by
    constructor
    · rintro ⟨hne, hhead⟩
      exact ⟨hne, by simpa [Option.all_eq_true] using hhead⟩
    · rintro ⟨hne, hhead⟩
      exact ⟨hne, by simpa [Option.all_eq_true] using hhead⟩)

theorem IsFlush.append {front : Text} (h : IsFlush front) (back : Text) :
    IsFlush (front ++ back) where
  ne_nil := List.append_ne_nil_of_left_ne_nil h.ne_nil back
  head := by
    obtain ⟨c, rest, rfl⟩ := List.exists_cons_of_ne_nil h.ne_nil
    exact h.head

/-! ## Writers -/

/-- A level is indented by something, and by nothing but blanks. -/
theorem Settings.indentUnit_blank (s : Settings) :
    s.indentUnit ≠ [] ∧ ∀ c ∈ s.indentUnit, isBlank c = true := by
  rw [indentUnit]
  cases s.indentation.count with
  | zero =>
      refine ⟨List.cons_ne_nil _ _, fun c hc => ?_⟩
      rw [List.mem_singleton.mp hc]
      decide
  | succ n =>
      refine ⟨List.cons_ne_nil _ _, fun c hc => ?_⟩
      rw [List.eq_of_mem_replicate hc]
      decide

/-- Settings that pass the check name a class, and not by blanks only. -/
theorem Settings.exists_className {s checked : Settings} (h : s.validated = .ok checked) :
    ∃ name, s.className = some name ∧ allBlank name = false := by
  rw [validated] at h
  split at h
  · cases h
  · rename_i hnamed
    cases hname : s.className with
    | none =>
        rw [hname] at hnamed
        exact absurd rfl hnamed
    | some name =>
        rw [hname] at hnamed
        exact ⟨name, rfl, Bool.eq_false_iff.mpr hnamed⟩

/-- A generator is made of settings that pass the check and of a writer for them, once they are
    completed. -/
theorem Generator.ofSettings_writer {s : Settings} {source : Source} {g : Generator}
    (h : Generator.ofSettings s source = .ok g) :
    s.validated = .ok s.withLineEnd ∧ ClassWriter.ofSettings s.withLineEnd = .ok g.writer := by
  rw [Generator.ofSettings] at h
  split at h
  · cases h
  · rename_i checked hchecked
    split at h
    · cases h
    · rename_i w hw
      cases h
      obtain rfl := Settings.validated_eq_ok hchecked
      exact ⟨hchecked, hw⟩

namespace ClassWriter

/-- What a writer settles when it is made: the unit, and how the class refers to itself. -/
theorem ofSettings_settled {s : Settings} {w : ClassWriter} (h : ofSettings s = .ok w) :
    w.unit = s.indentUnit
      ∧ (w.qualifier = "this".toList ∨ w.qualifier = writtenName s.className) := by
  rw [ofSettings] at h
  split at h
  · cases h
    exact ⟨rfl, Or.inl rfl⟩
  · cases h
    exact ⟨rfl, Or.inr rfl⟩
  · cases h

/-! ## Parts of a class -/

/-- The lines in front of the namespace. -/
def usings (w : ClassWriter) : List Text :=
  "using System;".toList :: (if w.settings.inlined then [inliningUsing] else [])

/-- The line that names the namespace. -/
def namespaceLine (w : ClassWriter) : Text :=
  "namespace ".toList ++ writtenName w.settings.namespaceName

/-- The line that names the class. -/
def classLine (w : ClassWriter) : Text :=
  w.line 1 (w.staticWord ++ "unsafe class ".toList ++ writtenName w.settings.className)

/-- The head of the method that finds functions. -/
def finderHead (w : ClassWriter) : Text :=
  w.line 2 ("private ".toList ++ w.staticWord ++ "void* ".toList ++ finderName
    ++ "(string name)".toList)

/-- The method that finds functions, left to be filled in. -/
def finder (w : ClassWriter) : List Text :=
  [w.finderHead,
    w.opening 2,
    w.line 3 "// Provide a native function loader".toList,
    w.line 3 "throw new NotImplementedException();".toList,
    w.closing 2]

theorem preamble_eq (w : ClassWriter) :
    w.preamble = w.usings ++ [[], w.namespaceLine, w.opening 0, w.classLine, w.opening 1] := by
  rw [preamble, usings, List.cons_append]
  rfl

theorem loaderSection_eq (w : ClassWriter) (functions : List Signature) :
    w.loaderSection functions
      = [] :: (w.loaderHeader ++ functions.map w.loaderAssignment ++ [w.closing 2])
        ++ [] :: (w.finder ++ [[]]) := by
  rw [loaderSection, loaderFooter, finder, finderHead]
  simp only [List.cons_append, List.append_assoc, List.nil_append]

end ClassWriter

/-! ## Artifacts -/

/-- The generator gathers these lines in its passes and puts its text together from them. -/
structure Generator.WritesLines (g : Generator) (lines : List Text) : Prop where
  gathered : (linesOfPasses g.writer g.source).1 = .ok lines
  text : ∃ lineEnd, g.writer.settings.lineEnd = some lineEnd
    ∧ g.generate.1 = .ok (joined lineEnd lines)

/-- **What is written** for signatures at hand are the lines of the class for them. -/
theorem Generator.writesLines {s : Settings} {functions : List Signature} {g : Generator}
    (h : Generator.ofSettings s (.ofSignatures functions) = .ok g) :
    g.WritesLines (g.writer.classLines functions) := by
  obtain ⟨hsettings, hsource, -⟩ := Generator.ofSettings_eq_ok h
  have houtcomes : g.source.source.outcomes = functions.map .ok := by
    rw [hsource]
    rfl
  obtain ⟨lineEnd, hend, -⟩ := s.exists_lineEnd
  rw [← hsettings] at hend
  refine ⟨?_, lineEnd, hend, ?_⟩
  · rw [(linesOfPasses_spec g.writer g.source).1, gathered_eq_ok_iff.mpr houtcomes]
    rfl
  · rw [g.generate_spec.1, ClassWriter.textOf_signatures g.writer hend houtcomes]
    rfl

end PointerBindings
