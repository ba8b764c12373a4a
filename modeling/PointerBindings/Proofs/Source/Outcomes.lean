import Mathlib.Data.List.TakeWhile
import PointerBindings.Proofs.Text.Pieces
import PointerBindings.Source

/-! # Outcomes — everything a source has to answer, as one list

    A source is a machine that is asked again and again.  What it has to answer is laid
    down before the first question: a row of outcomes, each a signature or a fault.  The
    row is a list, but for a text list whose stream stays at a fault, which is answered
    for ever behind the others.  At any time some of these outcomes are still to come; the
    next answer is the first of them, and behind it either the rest is to come or, where a
    fault keeps the source in place, the same as before (`Source.coming?_next`).  What
    comes up to the first fault can be read off the list alone (`Source.next_first`). -/

namespace PointerBindings

open Text

/-- What a source makes of one of its members. -/
abbrev Outcome :=
  Except SourceFault Signature

/-- The answer that stands for an outcome, or for there being none. -/
def answerOf : Option Outcome → Answer
  | none => .ok none
  | some (.ok signature) => .ok (some signature)
  | some (.error fault) => .error fault

/-- The source moves on with the answer: always with a signature, and with a fault if it
    is one that passes over them. -/
def Answer.movesOn (passesFaults : Bool) : Answer → Bool
  | .ok (some _) => true
  | .ok none => false
  | .error _ => passesFaults

/-! ## Outcomes of a text list -/

/-- What a line spells. -/
def lineOutcome (line : Text) : Outcome :=
  (Signature.ofLine line).mapError .line

/-- What the lines before the first blank one spell. -/
def listedOutcomes (lines : List Text) : List Outcome :=
  (lines.takeWhile fun line => !allBlank line).map lineOutcome

/-- The lines of a text that have an end; what is behind the last of them has none. -/
def endedLines (text : Text) : List Text :=
  (splitAt '\n' text).dropLast

/-- A line of the text is blank and ends the list before what lies behind the text is met. -/
def endsList (text : Text) : Bool :=
  (endedLines text).any allBlank

/-- What the lines of a text have to answer, and then what is met behind them. -/
def outcomesUpTo (text : Text) (met : List Outcome) : List Outcome :=
  listedOutcomes (endedLines text) ++ if endsList text then [] else met

/-- What a text has to answer line by line with something behind it.  The last piece of the text
    runs into a fault that lies there. -/
def outcomesOf (text : Text) : StreamEnd → List Outcome
  | .ended => listedOutcomes (splitAt '\n' text)
  | .stuck fault => outcomesUpTo text [.error (.bytes fault)]
  | .broken fault more behind => outcomesUpTo text (.error (.bytes fault) :: outcomesOf more behind)

/-- The fault that a text list stays at, if its stream does and no blank line ends it before. -/
def lastingFault? (text : Text) : StreamEnd → Option Utf8Fault
  | .ended => none
  | .stuck fault => if endsList text then none else some fault
  | .broken _ more behind => if endsList text then none else lastingFault? more behind

/-- What a stream has to answer line by line, each fault once. -/
def Text.Stream.outcomes (s : Stream) : List Outcome :=
  outcomesOf s.text s.behind

/-- The outcome at a place: a fault that the stream stays at is that of all places behind the
    others. -/
def Text.Stream.outcome? (s : Stream) (place : Nat) : Option Outcome :=
  s.outcomes[place]?.or ((lastingFault? s.text s.behind).map fun fault => .error (.bytes fault))

private theorem listedOutcomes_cons (line : Text) (lines : List Text) :
    listedOutcomes (line :: lines)
      = if allBlank line then [] else lineOutcome line :: listedOutcomes lines := by
  rw [listedOutcomes, List.takeWhile_cons]
  by_cases h : allBlank line = true
  · rw [if_pos h, if_neg (by rw [h]; decide)]
    rfl
  · rw [if_neg h, if_pos (by rw [Bool.eq_false_iff.mpr h]; rfl)]
    rfl

/-- Lines of which none is blank are listed one by one. -/
theorem listedOutcomes_eq_map {lines : List Text} (h : ∀ line ∈ lines, allBlank line = false) :
    listedOutcomes lines = lines.map lineOutcome := by
  rw [listedOutcomes, List.takeWhile_eq_self_iff.mpr]
  intro line hline
  rw [h line hline]
  rfl

/-- The first line of a text that has an end is the first of those that have one. -/
theorem endedLines_line {line : Text} (rest : Text) (h : '\n' ∉ line) :
    endedLines (line ++ '\n' :: rest) = line :: endedLines rest := by
  rw [endedLines, splitAt_append_cons rest h,
    List.dropLast_cons_of_ne_nil (splitAt_ne_nil '\n' rest), endedLines]

theorem endedLines_piece {piece : Text} (h : '\n' ∉ piece) : endedLines piece = [] := by
  rw [endedLines, splitAt_of_notMem h]
  rfl

theorem endsList_line {line : Text} (rest : Text) (h : '\n' ∉ line) :
    endsList (line ++ '\n' :: rest) = (allBlank line || endsList rest) := by
  rw [endsList, endedLines_line rest h, List.any_cons, endsList]

theorem endsList_piece {piece : Text} (h : '\n' ∉ piece) : endsList piece = false := by
  rw [endsList, endedLines_piece h]
  rfl

theorem outcomesUpTo_line {line : Text} (rest : Text) (met : List Outcome) (h : '\n' ∉ line) :
    outcomesUpTo (line ++ '\n' :: rest) met
      = if allBlank line then [] else lineOutcome line :: outcomesUpTo rest met := by
  rw [outcomesUpTo, endedLines_line rest h, endsList_line rest h, listedOutcomes_cons]
  by_cases hblank : allBlank line = true
  · rw [if_pos hblank, if_pos hblank, hblank]
    rfl
  · rw [if_neg hblank, if_neg hblank, Bool.eq_false_iff.mpr hblank]
    rfl

/-- A piece that has no end runs into what is met behind it. -/
theorem outcomesUpTo_piece {piece : Text} (met : List Outcome) (h : '\n' ∉ piece) :
    outcomesUpTo piece met = met := by
  rw [outcomesUpTo, endedLines_piece h, endsList_piece h]
  rfl

/-- A line that ends decides about itself: it is blank and ends the list, or it is the first
    outcome. -/
theorem Text.Stream.outcomes_line {line rest : Text} (behind : StreamEnd) (h : '\n' ∉ line) :
    Stream.outcomes ⟨line ++ '\n' :: rest, behind⟩
      = if allBlank line then [] else lineOutcome line :: Stream.outcomes ⟨rest, behind⟩ := by
  cases behind with
  | ended =>
      show listedOutcomes (splitAt '\n' (line ++ '\n' :: rest)) = _
      rw [splitAt_append_cons rest h, listedOutcomes_cons]
      rfl
  | stuck fault => exact outcomesUpTo_line rest _ h
  | broken fault more behind => exact outcomesUpTo_line rest _ h

/-- A text without a line end is a line of its own. -/
theorem Text.Stream.outcomes_end {line : Text} (h : '\n' ∉ line) :
    Stream.outcomes ⟨line, .ended⟩ = if allBlank line then [] else [lineOutcome line] := by
  show listedOutcomes (splitAt '\n' line) = _
  rw [splitAt_of_notMem h, listedOutcomes_cons]
  rfl

/-- The fault that a list stays at lies behind its first line, too, unless that ends the list. -/
theorem lastingFault?_line {line rest : Text} (behind : StreamEnd) (h : '\n' ∉ line) :
    lastingFault? (line ++ '\n' :: rest) behind
      = if allBlank line then none else lastingFault? rest behind := by
  cases behind with
  | ended =>
      rw [lastingFault?, lastingFault?, ite_self]
  | stuck fault =>
      rw [lastingFault?, endsList_line rest h, lastingFault?]
      cases allBlank line with
      | true => rfl
      | false => rfl
  | broken fault more behind =>
      rw [lastingFault?, endsList_line rest h, lastingFault?]
      cases allBlank line with
      | true => rfl
      | false => rfl

/-- Lines that end are listed, and what stands behind them counts only if none of them is
    blank. -/
theorem Text.Stream.outcomes_lines {lines : List Text} (tail : Text) (behind : StreamEnd)
    (h : ∀ line ∈ lines, '\n' ∉ line) :
    Stream.outcomes ⟨lines.flatMap (· ++ ['\n']) ++ tail, behind⟩
      = listedOutcomes lines ++ if lines.any allBlank then [] else Stream.outcomes ⟨tail, behind⟩ := by
  induction lines with
  | nil => rfl
  | cons line lines ih =>
      rw [List.flatMap_cons, List.append_assoc, List.append_assoc, List.singleton_append,
        outcomes_line behind (h line List.mem_cons_self), listedOutcomes_cons, List.any_cons,
        ih fun l hl => h l (List.mem_cons_of_mem line hl)]
      by_cases hblank : allBlank line = true
      · rw [if_pos hblank, if_pos hblank, hblank]
        rfl
      · rw [if_neg hblank, if_neg hblank, Bool.eq_false_iff.mpr hblank]
        rfl

/-- Nothing counts that stands behind a blank line. -/
theorem Text.Stream.outcomes_blank_line {lines : List Text} {blank : Text}
    (h : ∀ line ∈ blank :: lines, '\n' ∉ line) (hblank : allBlank blank = true) (rest : Text)
    (behind : StreamEnd) :
    Stream.outcomes ⟨lines.flatMap (· ++ ['\n']) ++ (blank ++ '\n' :: rest), behind⟩
      = listedOutcomes lines := by
  rw [outcomes_lines _ behind fun l hl => h l (List.mem_cons_of_mem blank hl),
    outcomes_line behind (h blank List.mem_cons_self), if_pos hblank, ite_self, List.append_nil]

/-- Lines with a line end between neighbours are listed. -/
theorem Text.Stream.outcomes_joined {lines : List Text} (hne : lines ≠ [])
    (h : ∀ line ∈ lines, '\n' ∉ line) :
    Stream.outcomes ⟨joined ['\n'] lines, .ended⟩ = listedOutcomes lines :=
  congrArg listedOutcomes (splitAt_eq_iff.mpr ⟨hne, rfl, h⟩)

/-- The outcomes that a line takes off a stream when it is read: the first one is that of the
    line, or the fault in its place. -/
theorem Text.Stream.outcomes_readLine (s : Stream) :
    match s.readLine with
    | (.error fault, _) => s.outcomes.head? = some (.error (.bytes fault))
    | (.ok line, rest) => s.outcomes = if allBlank line then [] else lineOutcome line :: rest.outcomes
    := by
  obtain ⟨text, behind⟩ := s
  rw [Stream.readLine]
  cases hcut : cutFirst '\n' text with
  | some parts =>
      obtain ⟨line, rest⟩ := parts
      obtain ⟨htext, hline⟩ := eq_of_cutFirst hcut
      dsimp only
      rw [htext]
      exact outcomes_line behind hline
  | none =>
      have htext : '\n' ∉ text := cutFirst_eq_none_iff.mp hcut
      cases behind with
      | ended => exact outcomes_end htext
      | stuck fault => exact congrArg List.head? (outcomesUpTo_piece _ htext)
      | broken fault more behind => exact congrArg List.head? (outcomesUpTo_piece _ htext)

/-- A first outcome and those behind it. -/
def follow (first : Outcome) (later : Nat → Option Outcome) : Nat → Option Outcome
  | 0 => some first
  | place + 1 => later place

/-- Reading a line takes the first outcome off a stream, even where a fault is met again and
    again. -/
theorem Text.Stream.outcome?_readLine (s : Stream) :
    s.outcome? = match s.readLine with
      | (.error fault, rest) => follow (.error (.bytes fault)) rest.outcome?
      | (.ok line, rest) =>
          if allBlank line then fun _ => none else follow (lineOutcome line) rest.outcome? := by
  obtain ⟨text, behind⟩ := s
  funext place
  rw [Stream.readLine]
  cases hcut : cutFirst '\n' text with
  | some parts =>
      obtain ⟨line, rest⟩ := parts
      obtain ⟨htext, hline⟩ := eq_of_cutFirst hcut
      dsimp only
      rw [outcome?, htext, outcomes_line behind hline, lastingFault?_line behind hline]
      split
      · rfl
      · cases place with
        | zero => rfl
        | succ place => rfl
  | none =>
      have htext : '\n' ∉ text := cutFirst_eq_none_iff.mp hcut
      cases behind with
      | ended =>
          dsimp only
          rw [outcome?, outcomes_end htext, lastingFault?]
          split
          · rfl
          · cases place with
            | zero => rfl
            | succ place => rfl
      | stuck fault =>
          have houtcomes : Stream.outcomes ⟨text, .stuck fault⟩ = [.error (.bytes fault)] :=
            outcomesUpTo_piece _ htext
          rw [outcome?, houtcomes, lastingFault?, endsList_piece htext]
          -- every place is that of the fault
          cases place with
          | zero => rfl
          | succ place =>
              cases place with
              | zero => rfl
              | succ place => rfl
      | broken fault more behind =>
          have houtcomes : Stream.outcomes ⟨text, .broken fault more behind⟩
              = .error (.bytes fault) :: Stream.outcomes ⟨more, behind⟩ :=
            outcomesUpTo_piece _ htext
          rw [outcome?, houtcomes, lastingFault?, endsList_piece htext]
          cases place with
          | zero => rfl
          | succ place => rfl

/-! ## Outcomes of a source -/

namespace Source

/-- The source passes over a member that is at fault: only a text list does. -/
def passesFaults : Source → Bool
  | .textList _ => true
  | _ => false

/-- Everything the source has to answer from its start. -/
def outcomes : Source → List Outcome
  | .signatures c => c.all.map .ok
  | .textList l => l.whole.outcomes
  | .delegates o c => c.all.map (DeclaredType.delegateSignature o)
  | .imports o c => c.all.map (Method.importSignature o)
  | .unsupported c => c.all.map fun _ => .error .unsupported
  | .header word mode c => c.all.map (CDeclaration.signature word mode)

/-- What the source has still to answer. -/
def coming : Source → List Outcome
  | .signatures c => c.pending.map .ok
  | .textList l => if l.ended then [] else l.unread.outcomes
  | .delegates o c => c.pending.map (DeclaredType.delegateSignature o)
  | .imports o c => c.pending.map (Method.importSignature o)
  | .unsupported c => c.pending.map fun _ => .error .unsupported
  | .header word mode c => c.pending.map (CDeclaration.signature word mode)

/-- The outcome at a place of the source.  It is that of the list, but for a text list whose
    stream stays at a fault. -/
def outcome? (s : Source) (place : Nat) : Option Outcome :=
  match s with
  | .textList l => l.whole.outcome? place
  | _ => s.outcomes[place]?

/-- The outcome that is still to come behind so many others. -/
def coming? (s : Source) (later : Nat) : Option Outcome :=
  match s with
  | .textList l => if l.ended then none else l.unread.outcome? later
  | _ => s.coming[later]?

/-- After a reset everything is still to come. -/
theorem coming_reset (s : Source) : s.reset.coming = s.outcomes := by
  cases s <;> rfl

theorem coming?_reset (s : Source) : s.reset.coming? = s.outcome? := by
  cases s <;> rfl

/-- A source that does not pass over faults has a list of outcomes. -/
theorem outcome?_of_keeps {s : Source} (h : s.passesFaults = false) (place : Nat) :
    s.outcome? place = s.outcomes[place]? := by
  cases s with
  | textList l => exact nomatch h
  | _ => rfl

end Source

/-! ## One question -/

/-- A cursor answers the first member that is pending and stays where that is at fault. -/
theorem Cursor.next_first {α : Type} (spell : α → Outcome) (c : Cursor α) :
    (c.next spell).1 = answerOf (c.pending.map spell).head?
      ∧ (c.next spell).2.pending.map spell
          = (c.pending.map spell).drop (if (c.next spell).1.movesOn false then 1 else 0)
      ∧ (c.next spell).2.reset = c.reset := by
  obtain ⟨all, pending⟩ := c
  cases pending with
  | nil => exact ⟨rfl, rfl, rfl⟩
  | cons member rest =>
      have hnext : Cursor.next spell ⟨all, member :: rest⟩ = match spell member with
        | .ok signature => (.ok (some signature), ⟨all, rest⟩)
        | .error fault => (.error fault, ⟨all, member :: rest⟩) := rfl
      rw [hnext, List.map_cons]
      cases h : spell member with
      | ok signature => exact ⟨rfl, rfl, rfl⟩
      | error fault =>
          -- the member that is at fault stays the first
          refine ⟨rfl, ?_, rfl⟩
          show (member :: rest).map spell = .error fault :: rest.map spell
          rw [List.map_cons, h]

/-- What comes behind an answer that is no fault is what came behind the first outcome. -/
theorem drop_movesOn {coming : List Outcome}
    (h : ∀ fault, answerOf coming.head? ≠ .error fault) :
    coming.drop (if (answerOf coming.head?).movesOn false then 1 else 0) = coming.tail := by
  cases coming with
  | nil => rfl
  | cons first rest =>
      cases first with
      | ok signature => rfl
      | error fault => exact absurd rfl (h fault)

/-- A text list answers its next line.  Behind a line that can be read the others are to come. -/
theorem TextList.next_first (l : TextList) :
    l.next.1 = answerOf (Source.textList l).coming.head?
      ∧ ((∀ fault, l.next.1 ≠ .error fault) →
        (Source.textList l.next.2).coming = (Source.textList l).coming.tail)
      ∧ l.next.2.reset = l.reset := by
  obtain ⟨whole, unread, ended⟩ := l
  cases ended with
  | true => exact ⟨rfl, fun _ => rfl, rfl⟩
  | false =>
      -- what is to come is read off the line that the answer is read from
      have hline := unread.outcomes_readLine
      simp only [TextList.next, Source.coming, Bool.false_eq_true, if_false]
      generalize unread.readLine = reading at hline
      obtain ⟨result, rest⟩ := reading
      cases result with
      | error fault => exact ⟨by rw [hline]; rfl, fun h => absurd rfl (h _), rfl⟩
      | ok line =>
          dsimp only at hline ⊢
          rw [hline]
          by_cases hblank : allBlank line = true
          · simp only [if_pos hblank]
            exact ⟨rfl, fun _ => rfl, rfl⟩
          · simp only [if_neg hblank, lineOutcome]
            cases Signature.ofLine line with
            | ok signature => exact ⟨rfl, fun _ => rfl, rfl⟩
            | error fault => exact ⟨rfl, fun h => absurd rfl (h _), rfl⟩

/-- A text list passes over its next line whatever is answered, unless that ends it. -/
theorem TextList.coming?_next (l : TextList) :
    l.next.1 = answerOf ((Source.textList l).coming? 0)
      ∧ ∀ later, (Source.textList l.next.2).coming? later
        = (Source.textList l).coming? (if l.next.1.movesOn true then later + 1 else later) := by
  obtain ⟨whole, unread, ended⟩ := l
  cases ended with
  | true => exact ⟨rfl, fun _ => rfl⟩
  | false =>
      have hline := unread.outcome?_readLine
      simp only [TextList.next, Source.coming?, Bool.false_eq_true, if_false]
      rw [hline]
      generalize unread.readLine = reading
      obtain ⟨result, rest⟩ := reading
      cases result with
      | error fault => exact ⟨rfl, fun _ => rfl⟩
      | ok line =>
          dsimp only
          by_cases hblank : allBlank line = true
          · simp only [if_pos hblank]
            exact ⟨rfl, fun _ => rfl⟩
          · simp only [if_neg hblank, lineOutcome]
            cases Signature.ofLine line with
            | ok signature => exact ⟨rfl, fun _ => rfl⟩
            | error fault => exact ⟨rfl, fun _ => rfl⟩

namespace Source

/-- **One question to a list**: the answer is the first outcome to come, the others are to come
    behind it unless it is a fault, and a reset leads back to the same start. -/
theorem next_first (s : Source) :
    s.next.1 = answerOf s.coming.head?
      ∧ ((∀ fault, s.next.1 ≠ .error fault) → s.next.2.coming = s.coming.tail)
      ∧ s.next.2.reset = s.reset := by
  have hcursor {α : Type} (spell : α → Outcome) (c : Cursor α)
      (h : ∀ fault, (c.next spell).1 ≠ .error fault) :
      (c.next spell).2.pending.map spell = (c.pending.map spell).tail := by
    obtain ⟨hanswer, hpending, -⟩ := c.next_first spell
    rw [hanswer] at h hpending
    rw [hpending, drop_movesOn h]
  cases s with
  | signatures c =>
      obtain ⟨hanswer, -, hreset⟩ := Cursor.next_first .ok c
      exact ⟨hanswer, hcursor .ok c, congrArg Source.signatures hreset⟩
  | textList l =>
      obtain ⟨hanswer, hcoming, hreset⟩ := TextList.next_first l
      exact ⟨hanswer, hcoming, congrArg Source.textList hreset⟩
  | delegates o c =>
      obtain ⟨hanswer, -, hreset⟩ := Cursor.next_first (DeclaredType.delegateSignature o) c
      exact ⟨hanswer, hcursor _ c, congrArg (Source.delegates o) hreset⟩
  | imports o c =>
      obtain ⟨hanswer, -, hreset⟩ := Cursor.next_first (Method.importSignature o) c
      exact ⟨hanswer, hcursor _ c, congrArg (Source.imports o) hreset⟩
  | unsupported c =>
      obtain ⟨hanswer, -, hreset⟩ := Cursor.next_first (fun _ => .error .unsupported) c
      exact ⟨hanswer, hcursor (fun _ => .error .unsupported) c, congrArg Source.unsupported hreset⟩
  | header word mode c =>
      obtain ⟨hanswer, -, hreset⟩ := Cursor.next_first (CDeclaration.signature word mode) c
      exact ⟨hanswer, hcursor _ c, congrArg (Source.header word mode) hreset⟩

/-- Where nothing is to come there is no answer, and nothing is to come behind it. -/
theorem next_exhausted {s : Source} (h : s.coming = []) :
    s.next.1 = .ok none ∧ s.next.2.coming = [] := by
  obtain ⟨hanswer, hcoming, -⟩ := next_first s
  rw [h] at hanswer hcoming
  exact ⟨hanswer, hcoming (hanswer ▸ nofun)⟩

/-- A signature that is to come is answered, and the others are to come behind it. -/
theorem next_signature {s : Source} {f : Signature} {rest : List Outcome}
    (h : s.coming = .ok f :: rest) : s.next.1 = .ok (some f) ∧ s.next.2.coming = rest := by
  obtain ⟨hanswer, hcoming, -⟩ := next_first s
  rw [h] at hanswer hcoming
  exact ⟨hanswer, hcoming (hanswer ▸ nofun)⟩

/-- **One question**: the answer is the first outcome to come, and behind it those to come are the
    next ones, if the source moves on, and else the same. -/
theorem coming?_next (s : Source) :
    s.next.1 = answerOf (s.coming? 0)
      ∧ ∀ later, s.next.2.coming? later
        = s.coming? (if s.next.1.movesOn s.passesFaults then later + 1 else later) := by
  have hcursor {α : Type} (spell : α → Outcome) (c : Cursor α) :
      (c.next spell).1 = answerOf (c.pending.map spell)[0]?
        ∧ ∀ later : Nat, ((c.next spell).2.pending.map spell)[later]?
          = (c.pending.map spell)[if (c.next spell).1.movesOn false then later + 1 else later]? := by
    obtain ⟨hanswer, hpending, -⟩ := c.next_first spell
    refine ⟨hanswer.trans (congrArg answerOf List.head?_eq_getElem?), fun later => ?_⟩
    rw [hpending, List.getElem?_drop]
    split
    · rw [Nat.add_comm]
    · rw [Nat.zero_add]
  cases s with
  | signatures c => exact hcursor .ok c
  | textList l => exact l.coming?_next
  | delegates o c => exact hcursor (DeclaredType.delegateSignature o) c
  | imports o c => exact hcursor (Method.importSignature o) c
  | unsupported c => exact hcursor (fun _ => .error .unsupported) c
  | header word mode c => exact hcursor (CDeclaration.signature word mode) c

theorem passesFaults_next (s : Source) : s.next.2.passesFaults = s.passesFaults := by
  cases s <;> rfl

theorem outcome?_next (s : Source) : s.next.2.outcome? = s.outcome? := by
  rw [← coming?_reset, (next_first s).2.2, coming?_reset]

theorem reset_reset (s : Source) : s.reset.reset = s.reset := by
  cases s <;> rfl

theorem passesFaults_reset (s : Source) : s.reset.passesFaults = s.passesFaults := by
  cases s <;> rfl

theorem outcome?_reset (s : Source) : s.reset.outcome? = s.outcome? := by
  rw [← coming?_reset, reset_reset, coming?_reset]

end Source

end PointerBindings
