import PointerBindings.Proofs.Session.History

/-! # Iteration — the steps that a generation makes with its source

    A pass is one reset and then one question for each signature, and a last one that finds
    the source exhausted.  A fault is the answer to one of these questions, and the pass
    ends there, with the generation.  Every pass meets the same outcomes, so a fault is
    met in the first pass or in none: a generation makes all of its passes to the end, or a
    part of one pass (`Generator.generate_course`).  It does so whatever was asked of the
    source before (`Session.generate_iterates`). -/

namespace PointerBindings

open Text

/-! ## Steps of one pass -/

/-- How many questions it takes to meet the first fault of some outcomes, or their end. -/
def questionsOf : List Outcome → Nat
  | [] => 1
  | .error _ :: _ => 1
  | .ok _ :: rest => questionsOf rest + 1

/-- The end of the signatures is found by one question more than there are of them. -/
theorem questionsOf_signatures (functions : List Signature) :
    questionsOf (functions.map .ok) = functions.length + 1 := by
  induction functions with
  | nil => rfl
  | cons f functions ih => exact congrArg (· + 1) ih

/-- A fault is met by the question behind those for the signatures before it. -/
theorem questionsOf_fault (before : List Signature) (fault : SourceFault) (rest : List Outcome) :
    questionsOf (before.map .ok ++ .error fault :: rest) = before.length + 1 := by
  induction before with
  | nil => rfl
  | cons f before ih => exact congrArg (· + 1) ih

/-- The steps of a pass that asks the given number of questions. -/
def passSteps (questions : Nat) : List SourceStep :=
  .reset :: List.replicate questions .next

namespace CountedSource

/-- The steps that were made with the source, in order. -/
def course (c : CountedSource) : List SourceStep :=
  c.steps.reverse

theorem course_reset (c : CountedSource) : c.reset.course = c.course ++ [.reset] :=
  List.reverse_cons

theorem course_next (c : CountedSource) : c.next.2.course = c.course ++ [.next] :=
  List.reverse_cons

theorem resets_eq_count (c : CountedSource) : c.resets = c.course.count .reset :=
  List.count_reverse.symm

theorem questions_eq_count (c : CountedSource) : c.questions = c.course.count .next :=
  List.count_reverse.symm

/-- **One traversal** asks up to the first fault that is to come, or to the end. -/
theorem drain_course (c : CountedSource) :
    c.drain.2.course = c.course ++ List.replicate (questionsOf c.source.coming) .next := by
  -- the induction is on what is to come: each signature takes one question
  generalize hcoming : c.source.coming = coming
  induction coming generalizing c with
  | nil =>
      rw [drain_none hcoming]
      exact course_next c
  | cons first rest ih =>
      cases first with
      | error fault =>
          rw [drain_fault hcoming]
          exact course_next c
      | ok f =>
          obtain ⟨hrest, hdrain⟩ := drain_signature hcoming
          rw [hdrain, ih c.next.2 hrest, course_next, List.append_assoc]
          rfl

/-- **One pass** is one reset and the questions of one traversal. -/
theorem pass_course (c : CountedSource) :
    c.pass.2.course = c.course ++ passSteps (questionsOf c.source.outcomes) := by
  rw [pass, drain_course, course_reset, List.append_assoc]
  exact congrArg (fun coming => c.course ++ passSteps (questionsOf coming))
    (Source.coming_reset c.source)

end CountedSource

/-! ## Steps of one generation -/

/-- How many sections of the class list its functions. -/
def ClassWriter.passCount (w : ClassWriter) : Nat :=
  if w.settings.loader.chooses .none then 2 else 3

namespace Generator

/-- The loader takes a pass if it is written at all. -/
theorem loaderPass_course (w : ClassWriter) (c : CountedSource) :
    (loaderPass w c).2.course
      = c.course ++ if w.hasLoader then passSteps (questionsOf c.source.outcomes) else [] := by
  rw [loaderPass]
  by_cases hloader : w.hasLoader = true
  · rw [if_pos hloader, if_pos hloader, ← c.pass_course]
    cases c.pass with
    | mk result rest =>
        cases result with
        | error fault => rfl
        | ok functions => rfl
  · rw [if_neg hloader, if_neg hloader, List.append_nil]

/-- A generation ends with its first pass if that meets a fault. -/
theorem linesOfPasses_of_fault (w : ClassWriter) {c : CountedSource} {fault : SourceFault}
    (h : gathered c.source.outcomes = .error fault) : (linesOfPasses w c).2 = c.pass.2 := by
  have hpass : c.pass = (.error fault, c.pass.2) := Prod.ext (c.pass_spec.1.trans h) rfl
  rw [linesOfPasses, hpass]

/-- If there is no fault to meet, each pass is followed by the next. -/
theorem linesOfPasses_of_signatures (w : ClassWriter) {c : CountedSource}
    {functions : List Signature} (h : gathered c.source.outcomes = .ok functions) :
    (linesOfPasses w c).2 = (loaderPass w c.pass.2).2.pass.2 := by
  -- what one pass gathers the others gather, for each leads back to the same start
  obtain ⟨hfirst, hback, -⟩ := c.pass_spec
  have hsecond : gathered c.pass.2.source.outcomes = .ok functions := by
    rw [Source.outcomes_of_reset hback, h]
  obtain ⟨hloader, hbackLoader⟩ := loaderPass_spec w hsecond
  have hthird : gathered (loaderPass w c.pass.2).2.source.outcomes = .ok functions := by
    rw [Source.outcomes_of_reset hbackLoader, hsecond]
  have hpass : c.pass = (.ok functions, c.pass.2) := Prod.ext (hfirst.trans h) rfl
  have hloaderPass : loaderPass w c.pass.2
      = (.ok (if w.hasLoader then w.loaderSection functions else []),
        (loaderPass w c.pass.2).2) := Prod.ext hloader rfl
  have hlast : (loaderPass w c.pass.2).2.pass
      = (.ok functions, (loaderPass w c.pass.2).2.pass.2) :=
    Prod.ext ((CountedSource.pass_spec _).1.trans hthird) rfl
  rw [linesOfPasses, hpass]
  dsimp only
  rw [hloaderPass]
  dsimp only
  rw [hlast]

/-- If there is no fault to meet, the steps are those of as many passes as there are
    sections. -/
theorem linesOfPasses_course (w : ClassWriter) {c : CountedSource} {functions : List Signature}
    (h : gathered c.source.outcomes = .ok functions) :
    (linesOfPasses w c).2.course = c.course
      ++ (List.replicate w.passCount (passSteps (questionsOf c.source.outcomes))).flatten := by
  obtain ⟨-, hback, -⟩ := c.pass_spec
  have hsecond := Source.outcomes_of_reset hback
  have hloader := (loaderPass_spec w ((congrArg gathered hsecond).trans h)).2
  have hthird := (Source.outcomes_of_reset hloader).trans hsecond
  rw [linesOfPasses_of_signatures w h, CountedSource.pass_course, hthird, loaderPass_course,
    hsecond, CountedSource.pass_course, ClassWriter.hasLoader, ClassWriter.passCount]
  cases w.settings.loader.chooses .none with
  | true => simp [List.replicate_succ]
  | false => simp [List.replicate_succ]

/-- A generation does with its source what its passes do. -/
theorem generate_source (g : Generator) :
    g.generate.2.source = (linesOfPasses g.writer g.source).2 := by
  rw [generate]
  cases linesOfPasses g.writer g.source with
  | mk lines rest =>
      cases lines with
      | error fault => rfl
      | ok lines =>
          cases g.writer.settings.lineEnd with
          | none => rfl
          | some lineEnd => rfl

/-- **One generation** makes its passes to the end if its source has only signatures to
    answer. -/
theorem generate_course {g : Generator} {functions : List Signature}
    (h : g.source.source.outcomes = functions.map .ok) :
    g.generate.2.source.course = g.source.course
      ++ (List.replicate g.writer.passCount (passSteps (functions.length + 1))).flatten := by
  rw [generate_source, linesOfPasses_course g.writer (gathered_eq_ok_iff.mpr h), h,
    questionsOf_signatures]

/-- A generation makes no step behind the first fault. -/
theorem generate_course_fault {g : Generator} {before : List Signature} {fault : SourceFault}
    {rest : List Outcome} (h : g.source.source.outcomes = before.map .ok ++ .error fault :: rest) :
    g.generate.2.source.course = g.source.course ++ passSteps (before.length + 1) := by
  have hgathered : gathered g.source.source.outcomes = .error fault := by
    rw [h, gathered_fault]
  rw [generate_source, linesOfPasses_of_fault g.writer hgathered, CountedSource.pass_course, h,
    questionsOf_fault]

end Generator

/-! ## Counting the steps -/

theorem count_reset_passSteps (questions : Nat) : (passSteps questions).count .reset = 1 := by
  rw [passSteps, List.count_cons_self, List.count_replicate, if_neg (by decide)]

theorem count_next_passSteps (questions : Nat) :
    (passSteps questions).count .next = questions := by
  rw [passSteps, List.count_cons_of_ne (by decide), List.count_replicate_self]

/-- In equal passes each step is made as many times as in one, times the passes. -/
theorem count_flatten_passes (step : SourceStep) (passes questions : Nat) :
    (List.replicate passes (passSteps questions)).flatten.count step
      = passes * (passSteps questions).count step := by
  rw [List.count_flatten, List.map_replicate, List.sum_replicate_nat]

namespace Session

/-- **Iteration**: after any history a generation resets the source once for each section that
    lists the functions, and asks behind each reset for every signature and once more.  If
    the first outcome that is no signature is a fault, the generation resets once, asks up
    to that fault and ends with it. -/
theorem generate_iterates (s : Session) (history : List Request) {g : Generator}
    (hg : (s.after history).generator = g) {lineEnd : Text}
    (hend : g.writer.settings.lineEnd = some lineEnd) :
    (∀ functions : List Signature, s.generator.source.source.outcomes = functions.map .ok →
      g.generate.1 = .ok (g.writer.classText lineEnd functions)
      ∧ g.generate.2.source.course = g.source.course
        ++ (List.replicate (if g.writer.settings.loader.chooses .none then 2 else 3)
          (.reset :: List.replicate (functions.length + 1) .next)).flatten
      ∧ g.generate.2.source.resets = g.source.resets
        + (if g.writer.settings.loader.chooses .none then 2 else 3)
      ∧ g.generate.2.source.questions = g.source.questions
        + (if g.writer.settings.loader.chooses .none then 2 else 3) * (functions.length + 1))
    ∧ ∀ (before : List Signature) (fault : SourceFault) (rest : List Outcome),
      s.generator.source.source.outcomes = before.map .ok ++ .error fault :: rest →
        g.generate.1 = .error (.source fault)
        ∧ g.generate.2.source.course = g.source.course
          ++ .reset :: List.replicate (before.length + 1) .next
        ∧ g.generate.2.source.resets = g.source.resets + 1
        ∧ g.generate.2.source.questions = g.source.questions + (before.length + 1) := by
  -- the history has not changed what there is to answer
  have houtcomes : g.source.source.outcomes = s.generator.source.source.outcomes := by
    rw [← hg]
    exact Source.outcomes_of_reset (after_reset s history)
  constructor
  · intro functions h
    have hsignatures := houtcomes.trans h
    have hcourse := Generator.generate_course hsignatures
    refine ⟨?_, hcourse, ?_, ?_⟩
    · rw [g.generate_spec.1]
      exact g.writer.textOf_signatures hend hsignatures
    · rw [CountedSource.resets_eq_count, hcourse, List.count_append, count_flatten_passes,
        count_reset_passSteps, Nat.mul_one, CountedSource.resets_eq_count]
      rfl
    · rw [CountedSource.questions_eq_count, hcourse, List.count_append, count_flatten_passes,
        count_next_passSteps, CountedSource.questions_eq_count]
      rfl
  · intro before fault rest h
    have hfault := houtcomes.trans h
    have hcourse := Generator.generate_course_fault hfault
    refine ⟨?_, hcourse, ?_, ?_⟩
    · rw [g.generate_spec.1, hfault]
      exact g.writer.textOf_fault before fault rest
    · rw [CountedSource.resets_eq_count, hcourse, List.count_append, count_reset_passSteps,
        CountedSource.resets_eq_count]
    · rw [CountedSource.questions_eq_count, hcourse, List.count_append, count_next_passSteps,
        CountedSource.questions_eq_count]

/-- A text list that was asked before its loader was given up, and one with a malformed line
    behind a signature. -/
theorem generate_iterates_list :
    (∃ g, Generator.ofSettings { namespaceName := some "N".toList, className := some "C".toList }
        (.ofStream (.ofText "int f()\nint g()".toList)) = .ok g
      ∧ (after ⟨g, none⟩ [.next, .edit (.loader (.known .none))]).generator.generate.2.source.course
        = [.next, .reset, .next, .next, .next, .reset, .next, .next, .next])
    ∧ ∃ g, Generator.ofSettings { namespaceName := some "N".toList, className := some "C".toList }
        (.ofStream (.ofText "int f()\nbad\nint g()".toList)) = .ok g
      ∧ (after ⟨g, none⟩ [.next, .next, .next, .next]).generator.generate.2.source.questions
        = 4 + 2 := by
  constructor
  · obtain ⟨g, hg⟩ : ∃ g, Generator.ofSettings
        { namespaceName := some "N".toList, className := some "C".toList }
        (.ofStream (.ofText "int f()\nint g()".toList)) = .ok g := ⟨_, rfl⟩
    cases hg
    exact ⟨_, rfl, ((generate_iterates _ _ rfl rfl).1
      [⟨"f".toList, "int".toList, none, []⟩, ⟨"g".toList, "int".toList, none, []⟩] rfl).2.1⟩
  · obtain ⟨g, hg⟩ : ∃ g, Generator.ofSettings
        { namespaceName := some "N".toList, className := some "C".toList }
        (.ofStream (.ofText "int f()\nbad\nint g()".toList)) = .ok g := ⟨_, rfl⟩
    cases hg
    exact ⟨_, rfl, ((generate_iterates _ _ rfl rfl).2
      [⟨"f".toList, "int".toList, none, []⟩] _ [.ok ⟨"g".toList, "int".toList, none, []⟩]
      rfl).2.2.2⟩

end Session

end PointerBindings
