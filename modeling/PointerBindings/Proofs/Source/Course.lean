import PointerBindings.Proofs.Source.Outcomes

/-! # Courses — a source asked and reset in any order

    A course is a row of questions and resets.  Whatever the course, a source is at a
    place in its row of outcomes (`Source.IsAt`): the place is counted by the answers that
    moved it on since the last reset, and the next answer is the outcome at that place
    (`Source.course_answers`).  The row of outcomes is all that can be told of a source
    by asking it, so two sources with the same outcomes answer alike
    (`Source.answers_congr`). -/

namespace PointerBindings

open Text

/-- Behind as many members as stand before one, there is that one. -/
theorem getElem?_length_append_cons {α : Type} (before : List α) (x : α) (after : List α) :
    (before ++ x :: after)[before.length]? = some x := by
  rw [List.getElem?_append_right before.length.le_refl, Nat.sub_self, List.getElem?_cons_zero]

namespace Source

/-- A source that nothing has been done to yet. -/
inductive Fresh : Source → Prop where
  | signatures (all : List Signature) : Fresh (ofSignatures all)
  | textList (s : Stream) : Fresh (ofStream s)
  | delegates (c : Catalog) (path : Option Text) (o : TypePolicy) : Fresh (ofDelegates c path o)
  | imports (c : Catalog) (path : Option Text) (o : TypePolicy) : Fresh (ofImports c path o)
  | unsupported (count : Nat) : Fresh (ofUnsupported count)
  | header (kept : List CDeclaration) (mode : HeaderMode) (o : TypePolicy) :
      Fresh (ofDeclarations kept mode o)

/-- A fresh source is where a reset leads to. -/
theorem Fresh.reset_eq {s : Source} (h : s.Fresh) : s.reset = s := by
  cases h <;> rfl

theorem Fresh.coming?_eq {s : Source} (h : s.Fresh) : s.coming? = s.outcome? := by
  rw [← coming?_reset, h.reset_eq]

/-! ## Courses -/

/-- The source behind one step. -/
def move (s : Source) : SourceStep → Source
  | .next => s.next.2
  | .reset => s.reset

/-- The source behind a course. -/
def after (s : Source) (course : List SourceStep) : Source :=
  course.foldl move s

/-- The answers to the questions of a course. -/
def answers (s : Source) : List SourceStep → List Answer
  | [] => []
  | .next :: course => s.next.1 :: s.next.2.answers course
  | .reset :: course => s.reset.answers course

/-- How many answers have moved the source on since its last reset, if they were some number
    before the course. -/
def place (s : Source) (before : Nat) : List SourceStep → Nat
  | [] => before
  | .next :: course =>
      s.next.2.place (if s.next.1.movesOn s.passesFaults then before + 1 else before) course
  | .reset :: course => s.reset.place 0 course

/-- The source is at a place of its row of outcomes: those from there on are to come. -/
def IsAt (s : Source) (place : Nat) : Prop :=
  ∀ later, s.coming? later = s.outcome? (place + later)

theorem Fresh.isAt {s : Source} (h : s.Fresh) : s.IsAt 0 := by
  intro later
  rw [h.coming?_eq, Nat.zero_add]

theorem IsAt.reset (s : Source) : s.reset.IsAt 0 := by
  intro later
  rw [coming?_reset, outcome?_reset, Nat.zero_add]

/-- The answer is the outcome at the place that the source is at. -/
theorem IsAt.answer_eq {s : Source} {place : Nat} (h : s.IsAt place) :
    s.next.1 = answerOf (s.outcome? place) := by
  rw [(coming?_next s).1, h 0, Nat.add_zero]

/-- One question leads from a place to the one that is counted with its answer. -/
theorem IsAt.next {s : Source} {place : Nat} (h : s.IsAt place) :
    s.next.2.IsAt (if s.next.1.movesOn s.passesFaults then place + 1 else place) := by
  intro later
  rw [(coming?_next s).2, h, outcome?_next]
  split
  · rw [Nat.add_right_comm, Nat.add_assoc]
  · rfl

/-- **A course keeps to the row of outcomes**: behind it the source is at the place that its answers
    have counted up to. -/
theorem IsAt.after {s : Source} {before : Nat} (h : s.IsAt before) (course : List SourceStep) :
    ∀ later, (s.after course).coming? later = s.outcome? (s.place before course + later) := by
  induction course generalizing s before with
  | nil => exact h
  | cons step course ih =>
      cases step with
      | next =>
          rw [← outcome?_next]
          exact ih h.next
      | reset =>
          rw [← outcome?_reset]
          exact ih (.reset s)

/-- If nothing is to come there is no answer to any number of questions. -/
theorem answers_exhausted {s : Source} (h : s.coming = []) (more : Nat) :
    s.answers (List.replicate more .next) = List.replicate more (.ok none) := by
  induction more generalizing s with
  | zero => rfl
  | succ more ih =>
      obtain ⟨hanswer, hcoming⟩ := next_exhausted h
      rw [List.replicate_succ, answers, hanswer, ih hcoming]
      rfl

/-- The signatures to come are answered one after the other, and then nothing more. -/
theorem answers_signatures {s : Source} {functions : List Signature}
    (h : s.coming = functions.map .ok) (more : Nat) :
    s.answers (List.replicate (functions.length + more) .next)
      = functions.map (fun f => .ok (some f)) ++ List.replicate more (.ok none) := by
  induction functions generalizing s with
  | nil =>
      rw [List.length_nil, Nat.zero_add, answers_exhausted h]
      rfl
  | cons f functions ih =>
      obtain ⟨hanswer, hcoming⟩ := next_signature h
      rw [List.length_cons, Nat.add_right_comm, List.replicate_succ, answers, hanswer, ih hcoming]
      rfl

/-- A signature is answered exactly where the outcome is that signature. -/
theorem answerOf_eq_signature_iff {outcome : Option Outcome} {f : Signature} :
    answerOf outcome = .ok (some f) ↔ outcome = some (.ok f) := by
  constructor
  · intro h
    cases outcome with
    | none => exact nomatch h
    | some outcome =>
        cases outcome with
        | ok g => cases h; rfl
        | error fault => exact nomatch h
  · intro h
    rw [h]
    rfl

/-- A fault is answered exactly where the outcome is that fault. -/
theorem answerOf_eq_fault_iff {outcome : Option Outcome} {fault : SourceFault} :
    answerOf outcome = .error fault ↔ outcome = some (.error fault) := by
  constructor
  · intro h
    cases outcome with
    | none => exact nomatch h
    | some outcome =>
        cases outcome with
        | ok f => exact nomatch h
        | error found => cases h; rfl
  · intro h
    rw [h]
    rfl

/-- If faults are not passed over, only a signature moves a source on. -/
theorem movesOn_keeping_iff {outcome : Option Outcome} :
    (answerOf outcome).movesOn false = true ↔ ∃ f, outcome = some (.ok f) := by
  constructor
  · intro h
    cases outcome with
    | none => exact nomatch h
    | some outcome =>
        cases outcome with
        | ok f => exact ⟨f, rfl⟩
        | error fault => exact nomatch h
  · rintro ⟨f, rfl⟩
    rfl

/-- Behind a course, the answer is the outcome at the place that it led to. -/
theorem answer_after {s : Source} (hs : s.Fresh) (course : List SourceStep) :
    (s.after course).next.1 = answerOf (s.outcome? (s.place 0 course)) := by
  rw [(coming?_next (s.after course)).1, hs.isAt.after course, Nat.add_zero]

/-- A source that does not pass over faults is never behind one. -/
theorem signatures_before_place {s : Source} {before : Nat} (course : List SourceStep)
    (hkeeps : s.passesFaults = false) (h : s.IsAt before)
    (hbefore : ∀ j < before, ∃ f, s.outcome? j = some (.ok f)) :
    ∀ j < s.place before course, ∃ f, s.outcome? j = some (.ok f) := by
  induction course generalizing s before with
  | nil => exact hbefore
  | cons step course ih =>
      cases step with
      | next =>
          rw [← outcome?_next]
          refine ih ((passesFaults_next s).trans hkeeps) h.next ?_
          rw [outcome?_next, h.answer_eq, hkeeps]
          split
          · rename_i hmoves
            intro j hj
            rcases Nat.lt_succ_iff_lt_or_eq.mp hj with hlt | rfl
            · exact hbefore j hlt
            · exact movesOn_keeping_iff.mp hmoves
          · exact hbefore
      | reset =>
          rw [← outcome?_reset]
          exact ih ((passesFaults_reset s).trans hkeeps) (.reset s) fun j hj => nomatch hj

/-- As many questions as there are signatures lead behind them. -/
theorem place_signatures {s : Source} {before : Nat} (n : Nat) (h : s.IsAt before)
    (hnext : ∀ j < n, ∃ f, s.outcome? (before + j) = some (.ok f)) :
    s.place before (List.replicate n .next) = before + n := by
  induction n generalizing s before with
  | zero => rfl
  | succ n ih =>
      obtain ⟨f, hf⟩ := hnext 0 n.succ_pos
      have hmoves : s.next.1.movesOn s.passesFaults = true := by
        rw [h.answer_eq, ← Nat.add_zero before, hf]
        rfl
      have hplace := h.next
      rw [if_pos hmoves] at hplace
      rw [List.replicate_succ, place, if_pos hmoves, ih hplace, Nat.succ_add_eq_add_succ]
      intro j hj
      rw [outcome?_next, Nat.succ_add_eq_add_succ]
      exact hnext (j + 1) (Nat.succ_lt_succ hj)

/-- **Where a signature is answered**: a source that does not pass over faults answers with the
    signature at a place exactly if there are but signatures before it. -/
theorem signature_answered_iff {s : Source} (hs : s.Fresh) (hkeeps : s.passesFaults = false)
    {before after : List Outcome} {outcome : Outcome}
    (houtcomes : s.outcomes = before ++ outcome :: after) (f : Signature) :
    (∃ course, s.place 0 course = before.length ∧ (s.after course).next.1 = .ok (some f))
      ↔ outcome = .ok f ∧ ∀ earlier ∈ before, ∃ g, earlier = .ok g := by
  have hfirst : s.outcome? before.length = some outcome := by
    rw [outcome?_of_keeps hkeeps, houtcomes, getElem?_length_append_cons]
  have hearlier {j : Nat} (hj : j < before.length) : s.outcome? j = some before[j] := by
    rw [outcome?_of_keeps hkeeps, houtcomes, List.getElem?_append_left hj,
      List.getElem?_eq_getElem hj]
  constructor
  · rintro ⟨course, hplace, hanswer⟩
    rw [answer_after hs, hplace, hfirst, answerOf_eq_signature_iff] at hanswer
    refine ⟨Option.some.inj hanswer, fun earlier hmem => ?_⟩
    obtain ⟨j, hj, rfl⟩ := List.mem_iff_getElem.mp hmem
    obtain ⟨g, hg⟩ :=
      signatures_before_place course hkeeps hs.isAt (fun j hj => nomatch hj) j (hplace ▸ hj)
    rw [hearlier hj] at hg
    exact ⟨g, Option.some.inj hg⟩
  · rintro ⟨rfl, hbefore⟩
    have hplace : s.place 0 (List.replicate before.length .next) = before.length := by
      rw [place_signatures before.length hs.isAt, Nat.zero_add]
      intro j hj
      obtain ⟨g, hg⟩ := hbefore before[j] (List.getElem_mem hj)
      exact ⟨g, by rw [Nat.zero_add, hearlier hj, hg]⟩
    refine ⟨List.replicate before.length .next, hplace, ?_⟩
    rw [answer_after hs, hplace, hfirst]
    rfl

end Source

end PointerBindings
