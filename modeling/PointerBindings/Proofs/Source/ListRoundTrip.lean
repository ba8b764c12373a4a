import PointerBindings.Proofs.Signature.RoundTrip
import PointerBindings.Proofs.Source.Course

/-! # Written lists — signatures written one on a line and read back

    Well-formed signatures whose fields hold no line end can be written one below the
    other.  A text list over what is written answers them in their order and then
    nothing more, whether the list runs to the end of the text or a blank line ends it
    before (`Source.written_lists_read_back`). -/

namespace PointerBindings

open Text

/-- No field of the signature holds a line end. -/
structure Signature.OnOneLine (s : Signature) : Prop where
  returnType : '\n' ∉ s.returnType
  name : '\n' ∉ s.name
  convention : ∀ convention ∈ s.convention, '\n' ∉ convention
  parameters : ∀ p ∈ s.parameters, '\n' ∉ p.type ∧ '\n' ∉ p.name

/-- A text in which signatures are written one on a line.  If the last line ends as well, a
    blank line may come behind it, and if that ends too, any further text. -/
inductive WritesList (all : List Signature) : Text → Prop where
  | unended : WritesList all (joined ['\n'] (all.map Signature.toLine))
  | ended {blank : Text} : '\n' ∉ blank → allBlank blank = true →
      WritesList all ((all.map Signature.toLine).flatMap (· ++ ['\n']) ++ blank)
  | followed {blank : Text} (rest : Text) : '\n' ∉ blank → allBlank blank = true →
      WritesList all
        ((all.map Signature.toLine).flatMap (· ++ ['\n']) ++ (blank ++ '\n' :: rest))

/-! ## One line -/

/-- The line of a signature is not blank: it has a bracket. -/
theorem Signature.toLine_not_blank (s : Signature) : allBlank s.toLine = false := by
  have h : '(' ∈ s.toLine := by simp [Signature.toLine]
  rw [allBlank, List.all_eq_false]
  exact ⟨'(', h, by decide⟩

/-- The line of a signature holds a line end only if a field does. -/
theorem Signature.OnOneLine.notMem_toLine {s : Signature} (h : s.OnOneLine) :
    '\n' ∉ s.toLine := by
  have hparameters : '\n' ∉ joined ", ".toList (s.parameters.map Parameter.toText) := by
    refine notMem_joined (by decide) ?_
    intro t ht
    obtain ⟨p, hp, heq⟩ := List.mem_map.mp ht
    obtain ⟨htype, hname⟩ := h.parameters p hp
    rw [← heq]
    simp [Parameter.toText, htype, hname]
  have hconvention : '\n' ∉ conventionPart s.convention := by
    cases hc : s.convention with
    | none => exact List.not_mem_nil
    | some convention =>
        exact List.not_mem_cons_of_ne_of_not_mem (by decide) (h.convention convention hc)
  rw [s.toLine_eq]
  simp only [List.mem_append, List.mem_cons, not_or]
  exact ⟨h.returnType, by decide, h.name, by decide, hparameters, by decide, hconvention⟩

/-- The line of a well-formed signature has that signature for its outcome. -/
theorem lineOutcome_toLine {s : Signature} (h : s.WellFormed) : lineOutcome s.toLine = .ok s := by
  rw [lineOutcome, Signature.ofLine_toLine h]
  rfl

/-! ## Lists -/

/-- The lines of well-formed signatures list those signatures. -/
theorem listedOutcomes_toLine {all : List Signature} (h : ∀ s ∈ all, s.WellFormed) :
    listedOutcomes (all.map Signature.toLine) = all.map .ok := by
  have hblank : ∀ line ∈ all.map Signature.toLine, allBlank line = false := by
    intro line hline
    obtain ⟨s, -, heq⟩ := List.mem_map.mp hline
    rw [← heq]
    exact s.toLine_not_blank
  rw [listedOutcomes_eq_map hblank, List.map_map]
  exact List.map_congr_left fun s hs => lineOutcome_toLine (h s hs)

/-- **A written list has its signatures for outcomes.** -/
theorem WritesList.outcomes {all : List Signature} {text : Text} (hw : WritesList all text)
    (h : ∀ s ∈ all, s.WellFormed ∧ s.OnOneLine) :
    (Stream.ofText text).outcomes = all.map .ok := by
  have hlisted := listedOutcomes_toLine fun s hs => (h s hs).1
  have hlines : ∀ line ∈ all.map Signature.toLine, '\n' ∉ line := by
    intro line hline
    obtain ⟨s, hs, heq⟩ := List.mem_map.mp hline
    rw [← heq]
    exact (h s hs).2.notMem_toLine
  cases hw with
  | unended =>
      cases all with
      | nil => rfl
      | cons s all =>
          -- joined lines are found again only if there is one at least
          have hne : (s :: all).map Signature.toLine ≠ [] := List.cons_ne_nil _ _
          exact (Stream.outcomes_joined hne hlines).trans hlisted
  | ended hend hblank =>
      rw [Stream.ofText, Stream.outcomes_lines _ .ended hlines, Stream.outcomes_end hend,
        if_pos hblank, ite_self, List.append_nil]
      exact hlisted
  | followed rest hend hblank =>
      rw [Stream.ofText, Stream.outcomes_blank_line (List.forall_mem_cons.mpr ⟨hend, hlines⟩) hblank]
      exact hlisted

/-- **Writing and reading are inverse**: a well-formed signature is read back from its line,
    whatever is read from a line is well formed and so is read back, and a text list over
    the lines of signatures answers exactly those. -/
theorem Source.written_lists_read_back :
    (∀ s : Signature, s.WellFormed → Signature.ofLine s.toLine = .ok s)
    ∧ (∀ (line : Text) (s : Signature), Signature.ofLine line = .ok s →
        s.WellFormed ∧ Signature.ofLine s.toLine = .ok s)
    ∧ (∀ (all : List Signature) (text : Text), (∀ s ∈ all, s.WellFormed ∧ s.OnOneLine) →
        WritesList all text → ∀ more : Nat,
        (ofStream (.ofText text)).answers (List.replicate (all.length + more) .next)
          = all.map (fun s => .ok (some s)) ++ List.replicate more (.ok none)) := by
  refine ⟨fun s hs => Signature.ofLine_toLine hs, ?_, ?_⟩
  · intro line s hline
    have hs := Signature.wellFormed_of_ofLine hline
    exact ⟨hs, Signature.ofLine_toLine hs⟩
  · intro all text hall htext more
    exact answers_signatures (s := ofStream (.ofText text)) (htext.outcomes hall) more

/-- Two signatures written above a blank line and further text. -/
theorem Source.written_lists_read_back_two :
    (ofStream (.ofText "int f()\nvoid g(ref int x) cdecl\n \nrest".toList)).answers
        [.next, .next, .next]
      = [.ok (some ⟨"f".toList, "int".toList, none, []⟩),
        .ok (some ⟨"g".toList, "void".toList, some "cdecl".toList,
          [⟨"ref int".toList, "x".toList⟩]⟩),
        .ok none] := by
  have hf := (written_lists_read_back.2.1 "int f()".toList _ rfl).1
  have hg := (written_lists_read_back.2.1 "void g(ref int x) cdecl".toList _ rfl).1
  refine written_lists_read_back.2.2 [⟨"f".toList, "int".toList, none, []⟩,
    ⟨"g".toList, "void".toList, some "cdecl".toList, [⟨"ref int".toList, "x".toList⟩]⟩]
    _ ?_ (.followed "rest".toList (by decide : '\n' ∉ [' ']) rfl) 1
  intro s hs
  rcases List.mem_cons.mp hs with heq | hs
  · rw [heq]
    exact ⟨hf, by decide, by decide, by decide, by decide⟩
  · rw [List.mem_singleton.mp hs]
    exact ⟨hg, by decide, by decide, by decide, by decide⟩

end PointerBindings
