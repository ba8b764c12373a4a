import PointerBindings.Proofs.Generation.Passes
import PointerBindings.Proofs.Source.Course
import PointerBindings.Session

/-! # Histories — a generator used again and again

    Whatever has been asked of a session, its source can be reset to the start that it
    had, and as long as no request changes the settings its writer is the one that was
    made from them.  So a generator gives the text of its source's outcomes every time
    (`Session.generate_renders_outcomes`): it remembers nothing of its history. -/

namespace PointerBindings

open Text

/-! ## What a generator is made of -/

/-- Settings that pass the check are completed by it and not changed otherwise. -/
theorem Settings.validated_eq_ok {settings checked : Settings}
    (h : settings.validated = .ok checked) : checked = settings.withLineEnd := by
  rw [Settings.validated] at h
  by_cases hclass : isUnnamed settings.className = true
  · rw [if_pos hclass] at h
    exact nomatch h
  · by_cases hnamespace : isUnnamed settings.namespaceName = true
    · rw [if_neg hclass, if_pos hnamespace] at h
      exact nomatch h
    · rw [if_neg hclass, if_neg hnamespace] at h
      cases hindentation : settings.indentation with
      | whole n =>
          rw [hindentation] at h
          dsimp only at h
          by_cases hrange : 0 ≤ n ∧ n ≤ 255
          · rw [if_pos hrange] at h
            cases h
            rfl
          · rw [if_neg hrange] at h
            exact nomatch h
      | _ => rw [hindentation] at h; exact nomatch h

/-- Completed settings have a line end, and it is not empty. -/
theorem Settings.exists_lineEnd (settings : Settings) :
    ∃ lineEnd, settings.withLineEnd.lineEnd = some lineEnd ∧ lineEnd ≠ [] := by
  cases h : settings.lineEnd with
  | none => exact ⟨defaultLineEnd, by simp [Settings.withLineEnd, h], by decide⟩
  | some lineEnd =>
      cases lineEnd with
      | nil => exact ⟨defaultLineEnd, by simp [Settings.withLineEnd, h], by decide⟩
      | cons c rest => exact ⟨c :: rest, by simp [Settings.withLineEnd, h], List.cons_ne_nil c rest⟩

/-- A writer keeps the settings that it is made for. -/
theorem ClassWriter.ofSettings_settings {settings : Settings} {w : ClassWriter}
    (h : ClassWriter.ofSettings settings = .ok w) : w.settings = settings := by
  rw [ClassWriter.ofSettings] at h
  split at h
  · cases h; rfl
  · cases h; rfl
  · exact nomatch h

/-- The loader is written unless the settings say that there is none. -/
theorem ClassWriter.loader_lines {settings : Settings} {w : ClassWriter}
    (h : w.settings = settings.withLineEnd) (lines : List Text) :
    (if w.hasLoader then lines else []) = if settings.loader.chooses .none then [] else lines := by
  have hloader : w.hasLoader = !settings.loader.chooses .none := by rw [hasLoader, h]; rfl
  rw [hloader]
  cases settings.loader.chooses .none with
  | true => rfl
  | false => rfl

/-- A generator is made of a writer for the completed settings and the source as it is given,
    and the same settings serve with any source. -/
theorem Generator.ofSettings_eq_ok {settings : Settings} {source : Source} {g : Generator}
    (h : Generator.ofSettings settings source = .ok g) :
    g.writer.settings = settings.withLineEnd ∧ g.source.source = source
      ∧ ∀ other, Generator.ofSettings settings other = .ok ⟨g.writer, { source := other }⟩ := by
  cases hchecked : settings.validated with
  | error fault =>
      rw [Generator.ofSettings, hchecked] at h
      exact nomatch h
  | ok checked =>
      cases hw : ClassWriter.ofSettings checked with
      | error fault =>
          simp only [Generator.ofSettings, hchecked, hw] at h
          exact nomatch h
      | ok w =>
          simp only [Generator.ofSettings, hchecked, hw] at h ⊢
          cases h
          have hsettings := ClassWriter.ofSettings_settings hw
          exact ⟨hsettings.trans (Settings.validated_eq_ok hchecked), rfl, fun _ => rfl⟩

/-! ## Requests -/

/-- The request leaves the settings as they are. -/
def Request.keepsSettings : Request → Bool
  | .edit _ => false
  | .validate => false
  | _ => true

namespace Session

/-- The session behind a history of requests. -/
def after (s : Session) (history : List Request) : Session :=
  history.foldl (fun s request => (s.respond request).2) s

/-- Writing changes nothing but a sink. -/
theorem write_generator (s : Session) (withSink : Bool) (text : Text) :
    (s.write withSink text).2.generator = s.generator := by
  rw [write]
  cases withSink with
  | true => rfl
  | false =>
      cases s.ownSink with
      | none => rfl
      | some written => rfl

/-- A generation leaves the generator that it ends in, whether its text is written or not. -/
theorem respond_process_generator (s : Session) (withSink : Bool) :
    (s.respond (.process withSink)).2.generator = s.generator.generate.2 := by
  rw [respond]
  cases h : s.generator.generate with
  | mk result generator =>
      cases result with
      | error fault => rfl
      | ok text => exact write_generator { s with generator } withSink text

/-- No request takes from the source the start that it can be reset to. -/
theorem respond_reset (s : Session) (request : Request) :
    (s.respond request).2.generator.source.source.reset = s.generator.source.source.reset := by
  cases request with
  | generate => exact s.generator.generate_spec.2.2.1
  | process withSink =>
      rw [respond_process_generator]
      exact s.generator.generate_spec.2.2.1
  | edit change => rfl
  | validate =>
      rw [respond]
      cases s.generator.writer.settings.validated with
      | error fault => rfl
      | ok checked => rfl
  | next => exact (Source.next_first s.generator.source.source).2.2
  | reset => exact Source.reset_reset s.generator.source.source

/-- A request that keeps the settings keeps the writer. -/
theorem respond_writer (s : Session) {request : Request} (h : request.keepsSettings = true) :
    (s.respond request).2.generator.writer = s.generator.writer := by
  cases request with
  | generate => exact s.generator.generate_spec.2.1
  | process withSink =>
      rw [respond_process_generator]
      exact s.generator.generate_spec.2.1
  | edit change => exact nomatch h
  | validate => exact nomatch h
  | next => rfl
  | reset => rfl

/-- No history takes from the source the start that it can be reset to. -/
theorem after_reset (s : Session) (history : List Request) :
    (s.after history).generator.source.source.reset = s.generator.source.source.reset := by
  induction history generalizing s with
  | nil => rfl
  | cons request history ih => exact (ih (s.respond request).2).trans (respond_reset s request)

/-- A history that keeps the settings keeps the writer. -/
theorem after_writer (s : Session) {history : List Request}
    (h : ∀ request ∈ history, request.keepsSettings = true) :
    (s.after history).generator.writer = s.generator.writer := by
  induction history generalizing s with
  | nil => rfl
  | cons request history ih =>
      have hfirst := respond_writer s (h request List.mem_cons_self)
      have hrest := ih (s.respond request).2 fun r hr => h r (List.mem_cons_of_mem request hr)
      exact hrest.trans hfirst

/-- **Nothing is remembered**: after a history that keeps the settings the next text is that
    of all the outcomes of the source. -/
theorem generate_after (s : Session) {history : List Request}
    (h : ∀ request ∈ history, request.keepsSettings = true) :
    (s.after history).generator.generate.1
      = s.generator.writer.textOf s.generator.source.source.outcomes := by
  rw [(Generator.generate_spec _).1, after_writer s h, Source.outcomes_of_reset (after_reset s history)]

/-- **A generator renders its source**: after any history that keeps the settings the text is
    the sections of the class, each written for all the signatures that the source has to
    answer, as it would be for a list of those signatures; if the first outcome that is
    none is a fault, that fault is all that comes of it. -/
theorem generate_renders_outcomes {settings : Settings} {source : Source} {g : Generator}
    (hg : Generator.ofSettings settings source = .ok g) (ownSink : Option Text)
    {history : List Request} (hkeeps : ∀ request ∈ history, request.keepsSettings = true) :
    ((∃ text, (after ⟨g, ownSink⟩ history).generator.generate.1 = .ok text)
      ↔ ∃ functions : List Signature, source.outcomes = functions.map .ok)
    ∧ (∀ functions : List Signature, source.outcomes = functions.map .ok →
      (∃ lineEnd, settings.withLineEnd.lineEnd = some lineEnd
        ∧ (after ⟨g, ownSink⟩ history).generator.generate.1
          = .ok (joined lineEnd (g.writer.preamble
            ++ functions.map g.writer.pointerField
            ++ (if settings.loader.chooses .none then []
              else [] :: g.writer.loaderHeader ++ functions.map g.writer.loaderAssignment
                ++ g.writer.loaderFooter)
            ++ [] :: functions.flatMap g.writer.wrapper
            ++ g.writer.epilogue)))
      ∧ (∃ listed, Generator.ofSettings settings (.ofSignatures functions) = .ok listed
        ∧ listed.generate.1 = (after ⟨g, ownSink⟩ history).generator.generate.1)
      ∧ ∀ more, (after ⟨g, ownSink⟩ history).generator.generate.2.source.source.answers
          (List.replicate more .next) = List.replicate more (.ok none))
    ∧ ∀ (before : List Signature) (fault : SourceFault) (rest : List Outcome),
      source.outcomes = before.map .ok ++ .error fault :: rest →
        (after ⟨g, ownSink⟩ history).generator.generate.1 = .error (.source fault) := by
  obtain ⟨hsettings, hsource, hany⟩ := Generator.ofSettings_eq_ok hg
  obtain ⟨lineEnd, hlineEnd, -⟩ := settings.exists_lineEnd
  have hend : g.writer.settings.lineEnd = some lineEnd := by rw [hsettings, hlineEnd]
  have htext := generate_after ⟨g, ownSink⟩ hkeeps
  dsimp only at htext
  rw [hsource] at htext
  have hgood : ∀ functions : List Signature, source.outcomes = functions.map .ok →
      (after ⟨g, ownSink⟩ history).generator.generate.1
        = .ok (g.writer.classText lineEnd functions) := by
    intro functions houtcomes
    rw [htext, g.writer.textOf_signatures hend houtcomes]
  refine ⟨⟨?_, ?_⟩, ?_, ?_⟩
  · -- a text is only made of signatures
    rintro ⟨text, h⟩
    rw [htext] at h
    exact g.writer.signatures_of_textOf h
  · rintro ⟨functions, houtcomes⟩
    exact ⟨_, hgood functions houtcomes⟩
  · intro functions houtcomes
    refine ⟨⟨lineEnd, hlineEnd, ?_⟩, ⟨_, hany _, ?_⟩, ?_⟩
    · rw [hgood functions houtcomes, ClassWriter.classText, ClassWriter.classLines,
        g.writer.loader_lines hsettings]
      rfl
    · rw [(Generator.generate_spec _).1, hgood functions houtcomes]
      exact g.writer.textOf_signatures hend rfl
    · intro more
      have hcoming := (Generator.generate_spec _).2.2.2 _ (hgood functions houtcomes)
      exact Source.answers_exhausted hcoming more
  · intro before fault rest houtcomes
    rw [htext, houtcomes, g.writer.textOf_fault]

/-- A text list that was asked and generated from before, without and with a malformed
    line. -/
theorem generate_renders_outcomes_list :
    (∃ g, Generator.ofSettings { namespaceName := some "N".toList, className := some "C".toList }
        (.ofStream (.ofText "int f()".toList)) = .ok g
      ∧ ∃ text, (after ⟨g, none⟩ [.next, .generate]).generator.generate.1 = .ok text)
    ∧ ∃ g, Generator.ofSettings { namespaceName := some "N".toList, className := some "C".toList }
        (.ofStream (.ofText "int f()\nbad\nint g()".toList)) = .ok g
      ∧ (after ⟨g, none⟩ [.next, .process false]).generator.generate.1
        = .error (.source (.line (.malformedLine "bad".toList))) := by
  constructor
  · obtain ⟨g, hg⟩ : ∃ g, Generator.ofSettings
        { namespaceName := some "N".toList, className := some "C".toList }
        (.ofStream (.ofText "int f()".toList)) = .ok g := ⟨_, rfl⟩
    exact ⟨g, hg, (generate_renders_outcomes hg none (by decide)).1.mpr
      ⟨[⟨"f".toList, "int".toList, none, []⟩], rfl⟩⟩
  · obtain ⟨g, hg⟩ : ∃ g, Generator.ofSettings
        { namespaceName := some "N".toList, className := some "C".toList }
        (.ofStream (.ofText "int f()\nbad\nint g()".toList)) = .ok g := ⟨_, rfl⟩
    exact ⟨g, hg, (generate_renders_outcomes hg none (by decide)).2.2
      [⟨"f".toList, "int".toList, none, []⟩] _ [.ok ⟨"g".toList, "int".toList, none, []⟩] rfl⟩

end Session

end PointerBindings
