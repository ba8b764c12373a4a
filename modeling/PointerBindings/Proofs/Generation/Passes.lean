import PointerBindings.Generation
import PointerBindings.Proofs.Source.Outcomes

/-! # Passes — what a generator sees of its source

    A pass resets the source before it asks, so it is of no account where the source
    stood: the pass gathers the outcomes from the start up to the first fault
    (`CountedSource.pass_spec`).  It also leaves a source that can be reset to the same
    start, so every pass of a generation sees the same outcomes, and the text of the
    class depends on nothing else (`Generator.generate_spec`). -/

namespace PointerBindings

open Text

/-- What a pass gathers of outcomes: every signature, or the first fault. -/
def gathered : List Outcome → Except SourceFault (List Signature)
  | [] => .ok []
  | .error fault :: _ => .error fault
  | .ok f :: rest => (gathered rest).map (List.cons f)

/-- Signatures are gathered from outcomes that are these signatures. -/
theorem gathered_eq_ok_iff {outcomes : List Outcome} {functions : List Signature} :
    gathered outcomes = .ok functions ↔ outcomes = functions.map .ok := by
  induction outcomes generalizing functions with
  | nil =>
      constructor
      · intro h
        cases h
        rfl
      · intro h
        rw [List.map_eq_nil_iff.mp h.symm]
        rfl
  | cons first rest ih =>
      cases first with
      | error fault =>
          constructor
          · intro h
            exact nomatch h
          · intro h
            cases functions with
            | nil => exact nomatch h
            | cons f functions => exact nomatch h
      | ok f =>
          rw [gathered]
          constructor
          · intro h
            cases hrest : gathered rest with
            | error fault => rw [hrest] at h; exact nomatch h
            | ok others =>
                rw [hrest] at h
                cases h
                rw [ih.mp hrest]
                rfl
          · intro h
            cases functions with
            | nil => exact nomatch h
            | cons g functions =>
                obtain ⟨hfirst, hrest⟩ := List.cons.inj h
                cases hfirst
                rw [ih.mpr hrest]
                rfl

/-- A fault is gathered if only signatures stand before it. -/
theorem gathered_fault (before : List Signature) (fault : SourceFault) (rest : List Outcome) :
    gathered (before.map .ok ++ .error fault :: rest) = .error fault := by
  induction before with
  | nil => rfl
  | cons f before ih =>
      rw [List.map_cons, List.cons_append, gathered, ih]
      rfl

/-- A fault that is gathered is one of the outcomes. -/
theorem mem_of_gathered {outcomes : List Outcome} {fault : SourceFault}
    (h : gathered outcomes = .error fault) : .error fault ∈ outcomes := by
  induction outcomes with
  | nil => exact nomatch h
  | cons first rest ih =>
      cases first with
      | error other => cases h; exact List.mem_cons_self
      | ok f =>
          rw [gathered] at h
          cases hrest : gathered rest with
          | ok others => rw [hrest] at h; exact nomatch h
          | error other =>
              rw [hrest] at h
              cases h
              exact List.mem_cons_of_mem _ (ih hrest)

/-- If there is a fault among the outcomes, one of them is gathered. -/
theorem exists_gathered_error {outcomes : List Outcome} {fault : SourceFault}
    (h : .error fault ∈ outcomes) : ∃ first, gathered outcomes = .error first := by
  cases hgathered : gathered outcomes with
  | error first => exact ⟨first, rfl⟩
  | ok functions =>
      rw [gathered_eq_ok_iff.mp hgathered] at h
      obtain ⟨f, -, hf⟩ := List.mem_map.mp h
      exact nomatch hf

/-! ## One traversal -/

namespace CountedSource

/-- A traversal asks once and goes on behind a signature. -/
theorem drain_eq (c : CountedSource) :
    c.drain = match c.next with
      | (.error fault, rest) => (.error fault, rest)
      | (.ok none, rest) => (.ok [], rest)
      | (.ok (some f), rest) => (rest.drain.1.map (List.cons f), rest.drain.2) := by
  rw [drain]
  split
  · next fault rest h => rw [CountedSource.next, h]
  · next rest h => rw [CountedSource.next, h]
  · next f rest h =>
      rw [CountedSource.next, h]
      dsimp only
      split
      · next functions done hdrain => rw [hdrain]; rfl
      · next fault done hdrain => rw [hdrain]; rfl

/-- A traversal ends at once if nothing is to come. -/
theorem drain_none {c : CountedSource} (h : c.source.coming = []) :
    c.drain = (.ok [], c.next.2) := by
  rw [drain_eq, CountedSource.next, (Source.next_exhausted h).1]

/-- A traversal ends with the first fault. -/
theorem drain_fault {c : CountedSource} {fault : SourceFault} {rest : List Outcome}
    (h : c.source.coming = .error fault :: rest) : c.drain = (.error fault, c.next.2) := by
  have hanswer := (Source.next_first c.source).1
  rw [h] at hanswer
  rw [drain_eq, CountedSource.next, hanswer]
  rfl

/-- A traversal takes a signature and traverses the rest. -/
theorem drain_signature {c : CountedSource} {f : Signature} {rest : List Outcome}
    (h : c.source.coming = .ok f :: rest) :
    c.next.2.source.coming = rest
      ∧ c.drain = (c.next.2.drain.1.map (List.cons f), c.next.2.drain.2) := by
  obtain ⟨hanswer, hcoming⟩ := Source.next_signature h
  refine ⟨hcoming, ?_⟩
  rw [drain_eq, CountedSource.next, hanswer]

/-- **One traversal** gathers what is to come.  Behind it the source leads back to the same
    start, and if no fault was met nothing is to come. -/
theorem drain_spec (c : CountedSource) :
    c.drain.1 = gathered c.source.coming
      ∧ c.drain.2.source.reset = c.source.reset
      ∧ ∀ functions, c.drain.1 = .ok functions → c.drain.2.source.coming = [] := by
  -- the induction is on what is to come: each signature takes one off
  generalize hcoming : c.source.coming = coming
  induction coming generalizing c with
  | nil =>
      rw [drain_none hcoming]
      exact ⟨rfl, (Source.next_first c.source).2.2, fun _ _ => (Source.next_exhausted hcoming).2⟩
  | cons first rest ih =>
      have hreset := (Source.next_first c.source).2.2
      cases first with
      | error fault =>
          rw [drain_fault hcoming]
          exact ⟨rfl, hreset, fun _ h => nomatch h⟩
      | ok f =>
          obtain ⟨hrest, hdrain⟩ := drain_signature hcoming
          obtain ⟨hresult, hback, hend⟩ := ih c.next.2 hrest
          rw [hdrain]
          refine ⟨congrArg (Except.map (List.cons f)) hresult, hback.trans hreset, ?_⟩
          intro functions h
          cases hothers : c.next.2.drain.1 with
          | error fault => rw [hothers] at h; exact nomatch h
          | ok others => exact hend others hothers

/-- **One pass** gathers everything the source has to answer, wherever it stood. -/
theorem pass_spec (c : CountedSource) :
    c.pass.1 = gathered c.source.outcomes
      ∧ c.pass.2.source.reset = c.source.reset
      ∧ ∀ functions, c.pass.1 = .ok functions → c.pass.2.source.coming = [] := by
  obtain ⟨hresult, hback, hend⟩ := drain_spec c.reset
  refine ⟨?_, ?_, hend⟩
  · rw [← Source.coming_reset]
    exact hresult
  · exact hback.trans (Source.reset_reset c.source)

end CountedSource

/-- Sources that are reset to the same start have the same outcomes. -/
theorem Source.outcomes_of_reset {s t : Source} (h : s.reset = t.reset) :
    s.outcomes = t.outcomes := by
  rw [← coming_reset, h, coming_reset]

/-! ## One generation -/

/-- The text of a class whose source has the given outcomes. -/
def ClassWriter.textOf (w : ClassWriter) (outcomes : List Outcome) :
    Except GenerationFault Text :=
  match gathered outcomes, w.settings.lineEnd with
  | .error fault, _ => .error (.source fault)
  | .ok _, none => .error .noLineEnd
  | .ok functions, some lineEnd => .ok (w.classText lineEnd functions)

namespace ClassWriter

theorem textOf_signatures (w : ClassWriter) {lineEnd : Text} {outcomes : List Outcome}
    {functions : List Signature} (hend : w.settings.lineEnd = some lineEnd)
    (h : outcomes = functions.map .ok) :
    w.textOf outcomes = .ok (w.classText lineEnd functions) := by
  rw [textOf, gathered_eq_ok_iff.mpr h, hend]

theorem textOf_fault (w : ClassWriter) (before : List Signature) (fault : SourceFault)
    (rest : List Outcome) :
    w.textOf (before.map .ok ++ .error fault :: rest) = .error (.source fault) := by
  rw [textOf, gathered_fault]

/-- There is a text only of outcomes that are all signatures. -/
theorem signatures_of_textOf (w : ClassWriter) {outcomes : List Outcome} {text : Text}
    (h : w.textOf outcomes = .ok text) :
    ∃ functions : List Signature, outcomes = functions.map .ok := by
  cases hgathered : gathered outcomes with
  | error fault =>
      rw [textOf, hgathered] at h
      exact nomatch h
  | ok functions => exact ⟨functions, gathered_eq_ok_iff.mp hgathered⟩

end ClassWriter

namespace Generator

/-- The lines of the loader are those of the signatures that a pass of its own gathers. -/
theorem loaderPass_spec (w : ClassWriter) {c : CountedSource} {functions : List Signature}
    (h : gathered c.source.outcomes = .ok functions) :
    (loaderPass w c).1 = .ok (if w.hasLoader then w.loaderSection functions else [])
      ∧ (loaderPass w c).2.source.reset = c.source.reset := by
  rw [loaderPass]
  by_cases hloader : w.hasLoader = true
  · obtain ⟨hresult, hback, -⟩ := c.pass_spec
    rw [if_pos hloader, if_pos hloader]
    rw [h] at hresult
    generalize c.pass = pass at hresult hback
    obtain ⟨result, rest⟩ := pass
    cases hresult
    exact ⟨rfl, hback⟩
  · rw [if_neg hloader, if_neg hloader]
    exact ⟨rfl, rfl⟩

/-- The passes see the same outcomes, so their lines are the class of what one of them
    gathers. -/
theorem linesOfPasses_spec (w : ClassWriter) (c : CountedSource) :
    (linesOfPasses w c).1 = (gathered c.source.outcomes).map w.classLines
      ∧ (linesOfPasses w c).2.source.reset = c.source.reset
      ∧ ∀ lines, (linesOfPasses w c).1 = .ok lines →
          (linesOfPasses w c).2.source.coming = [] := by
  rw [linesOfPasses]
  obtain ⟨hfields, hback, -⟩ := c.pass_spec
  generalize c.pass = fieldPass at hfields hback
  obtain ⟨fields, afterFields⟩ := fieldPass
  dsimp only at hfields hback
  cases hgathered : gathered c.source.outcomes with
  | error fault =>
      rw [hfields, hgathered]
      exact ⟨rfl, hback, fun _ h => nomatch h⟩
  | ok functions =>
      rw [hfields, hgathered]
      dsimp only
      -- each pass leads back to the same start, so the next one gathers the same
      rw [← Source.outcomes_of_reset hback] at hgathered
      obtain ⟨hloader, hbackLoader⟩ := loaderPass_spec w hgathered
      generalize loaderPass w afterFields = loaderPass at hloader hbackLoader
      obtain ⟨loaderLines, afterLoader⟩ := loaderPass
      dsimp only at hloader hbackLoader
      rw [hloader]
      dsimp only
      rw [← Source.outcomes_of_reset hbackLoader] at hgathered
      obtain ⟨hwrappers, hbackWrappers, hend⟩ := afterLoader.pass_spec
      rw [hgathered] at hwrappers
      generalize afterLoader.pass = wrapperPass at hwrappers hbackWrappers hend
      obtain ⟨wrapped, afterWrappers⟩ := wrapperPass
      dsimp only at hwrappers hbackWrappers hend
      rw [hwrappers]
      exact ⟨rfl, hbackWrappers.trans (hbackLoader.trans hback),
        fun _ _ => hend functions hwrappers⟩

/-- **One generation**: its text is that of the outcomes, its writer stays, its source leads
    back to the same start, and if it succeeds nothing is to come. -/
theorem generate_spec (g : Generator) :
    g.generate.1 = g.writer.textOf g.source.source.outcomes
      ∧ g.generate.2.writer = g.writer
      ∧ g.generate.2.source.source.reset = g.source.source.reset
      ∧ ∀ text, g.generate.1 = .ok text → g.generate.2.source.source.coming = [] := by
  rw [generate, ClassWriter.textOf]
  obtain ⟨hlines, hback, hend⟩ := linesOfPasses_spec g.writer g.source
  generalize linesOfPasses g.writer g.source = passes at hlines hback hend
  obtain ⟨lines, afterPasses⟩ := passes
  dsimp only at hlines hback hend
  cases hgathered : gathered g.source.source.outcomes with
  | error fault =>
      rw [hgathered] at hlines
      rw [hlines]
      exact ⟨rfl, rfl, hback, fun _ h => nomatch h⟩
  | ok functions =>
      rw [hgathered] at hlines
      rw [hlines]
      cases g.writer.settings.lineEnd with
      | none => exact ⟨rfl, rfl, hback, fun _ h => nomatch h⟩
      | some lineEnd => exact ⟨rfl, rfl, hback, fun _ _ => hend _ hlines⟩

end Generator

end PointerBindings
