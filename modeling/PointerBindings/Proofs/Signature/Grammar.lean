import PointerBindings.Proofs.Text.Blank
import PointerBindings.Proofs.Text.Pieces
import PointerBindings.Signature.Line

/-! # Grammar — which lines are signatures, and which signatures they are

    The reader makes three cuts and looks at what lies between them.  Here the same
    lines are described without a search: a line is put together from four pieces with
    a space and two brackets between them, and each piece lacks the characters that it
    has to end at.  A line is put together in at most one such way
    (`LinePieces.Cuts.unique`), and the reader takes exactly the lines whose pieces
    name a function and list its parameters (`Signature.ofLine_reads_grammar`). -/

namespace PointerBindings

open Text

/-! ## Cuts -/

/-- The line is put together from the pieces, and no piece holds a character that would
    have ended it earlier, or in the case of the last one later. -/
structure LinePieces.Cuts (p : LinePieces) (line : Text) : Prop where
  line_eq : line = p.returnType ++ ' ' :: (p.nameText
    ++ '(' :: (p.parameterText ++ ')' :: p.conventionText))
  space_notMem_returnType : ' ' ∉ p.returnType
  opening_notMem_returnType : '(' ∉ p.returnType
  opening_notMem_nameText : '(' ∉ p.nameText
  closing_notMem_conventionText : ')' ∉ p.conventionText

private theorem ofLine?_eq (line : Text) :
    LinePieces.ofLine? line = (cutFirst ' ' line).bind fun front =>
      if '(' ∈ front.1 then none
      else (cutFirst '(' front.2).bind fun name =>
        (cutLast ')' name.2).bind fun list => some ⟨front.1, name.1, list.1, list.2⟩ := by
  rw [LinePieces.ofLine?]
  refine congrArg _ (funext fun front => ?_)
  by_cases h : '(' ∈ front.1
  · simp only [if_pos h]; rfl
  · simp only [if_neg h]; rfl

/-- The cuts find the pieces of a line wherever it has some. -/
theorem LinePieces.ofLine?_eq_some_iff {line : Text} {p : LinePieces} :
    LinePieces.ofLine? line = some p ↔ p.Cuts line := by
  rw [ofLine?_eq]
  constructor
  · intro h
    obtain ⟨⟨returnType, rest⟩, hspace, h⟩ := Option.bind_eq_some_iff.mp h
    by_cases hopen : '(' ∈ returnType
    · rw [if_pos hopen] at h; exact nomatch h
    · rw [if_neg hopen] at h
      -- each cut is made in what the one before has left
      obtain ⟨⟨nameText, tail⟩, hopening, h⟩ := Option.bind_eq_some_iff.mp h
      obtain ⟨⟨parameterText, conventionText⟩, hclosing, h⟩ := Option.bind_eq_some_iff.mp h
      obtain ⟨hline, hspace⟩ := eq_of_cutFirst hspace
      obtain ⟨hrest, hname⟩ := eq_of_cutFirst hopening
      obtain ⟨htail, hconvention⟩ := eq_of_cutLast hclosing
      cases h
      dsimp only at hrest htail
      exact ⟨by rw [hline, hrest, htail], hspace, hopen, hname, hconvention⟩
  · rintro ⟨hline, hspace, hopen, hname, hconvention⟩
    rw [hline, cutFirst_append _ hspace, Option.bind_some, if_neg hopen,
      cutFirst_append _ hname, Option.bind_some, cutLast_append _ hconvention]
    rfl

/-- A line is put together in one way only. -/
theorem LinePieces.Cuts.unique {line : Text} {p q : LinePieces} (hp : p.Cuts line)
    (hq : q.Cuts line) : p = q :=
  Option.some.inj ((ofLine?_eq_some_iff.mpr hp).symm.trans (ofLine?_eq_some_iff.mpr hq))

/-- A trimmed line that is put together at all begins with a return type. -/
theorem LinePieces.Cuts.returnType_ne_nil {line : Text} {p : LinePieces} (h : p.Cuts line)
    (htrimmed : IsTrimmed line) : p.returnType ≠ [] := by
  intro hnil
  have hline := h.line_eq
  rw [hnil] at hline
  have hblank : isBlank ' ' = false := htrimmed.1 ' ' (by rw [hline]; rfl)
  exact nomatch hblank

/-! ## Parameters -/

/-- A text spells a parameter: a type and a name, or a direction in front of both. -/
inductive Parameter.Spells : Parameter → Text → Prop where
  | plain {type name text : Text} : Spelled [type, name] text → Spells ⟨type, name⟩ text
  | directed {direction type name text : Text} : direction ∈ byRefDirections →
      Spelled [direction, type, name] text → Spells ⟨direction ++ ' ' :: type, name⟩ text

/-- A text lists parameters: it is blank or says `void` and lists none, or else each of
    the pieces between its commas spells one. -/
inductive ListsParameters (text : Text) : List Parameter → Prop where
  | blank : trim text = [] → ListsParameters text []
  | void : trim text = Signature.voidType → ListsParameters text []
  | pieces {pieces : List Text} {parameters : List Parameter} :
      trim text = joined [','] pieces → (∀ piece ∈ pieces, ',' ∉ piece) →
      List.Forall₂ Parameter.Spells parameters pieces → ListsParameters text parameters

/-- A parameter is read from the texts that spell it. -/
theorem Parameter.ofText_eq_ok_iff {text : Text} {p : Parameter} :
    Parameter.ofText text = .ok p ↔ p.Spells text := by
  constructor
  · intro h
    have hspelled := spelled_words text
    rw [Parameter.ofText] at h
    split at h
    · next type name hwords =>
        rw [hwords] at hspelled
        cases h
        exact .plain hspelled
    · next direction type name hwords =>
        rw [hwords] at hspelled
        by_cases hd : direction ∈ byRefDirections
        · rw [if_pos hd] at h
          cases h
          exact .directed hd hspelled
        · rw [if_neg hd] at h
          exact nomatch h
    · exact nomatch h
  · intro h
    cases h with
    | plain hspelled => rw [Parameter.ofText, words_eq_iff.mpr hspelled]
    | directed hd hspelled =>
        rw [Parameter.ofText, words_eq_iff.mpr hspelled]
        exact if_pos hd

/-- A list is gone through to its end exactly where no member is refused; what is read
    stands in the order of the members. -/
theorem mapM_eq_ok_iff {α β ε : Type} {f : α → Except ε β} {P : β → α → Prop}
    (hf : ∀ x y, f x = .ok y ↔ P y x) {xs : List α} {ys : List β} :
    xs.mapM f = .ok ys ↔ List.Forall₂ P ys xs := by
  induction xs generalizing ys with
  | nil =>
      constructor
      · intro h; cases h; exact .nil
      · intro h; cases h; rfl
  | cons x xs ih =>
      rw [List.mapM_cons]
      constructor
      · intro h
        cases hx : f x with
        | error fault => rw [hx] at h; exact nomatch h
        | ok y =>
            cases hxs : xs.mapM f with
            | error fault => rw [hx, hxs] at h; exact nomatch h
            | ok ys =>
                rw [hx, hxs] at h
                cases h
                exact .cons ((hf x y).mp hx) (ih.mp hxs)
      · intro h
        cases h with
        | cons hx hxs => rw [(hf x _).mpr hx, ih.mpr hxs]; rfl

/-- A text of fewer than two words spells no parameter. -/
theorem Parameter.Spells.two_le {text : Text} {p : Parameter} (h : p.Spells text) :
    2 ≤ (words text).length := by
  cases h with
  | plain hspelled => rw [words_eq_iff.mpr hspelled]; exact Nat.le_refl 2
  | directed _ hspelled => rw [words_eq_iff.mpr hspelled]; exact Nat.le_succ 2

/-- Parameters are read from the texts that list them. -/
theorem parametersOfText_eq_ok_iff {text : Text} {parameters : List Parameter} :
    parametersOfText text = .ok parameters ↔ ListsParameters text parameters := by
  rw [parametersOfText]
  by_cases hnone : trim text = [] ∨ trim text = Signature.voidType
  · rw [if_pos (by simpa using hnone)]
    constructor
    · intro h
      cases h
      exact hnone.elim .blank .void
    · intro h
      cases h with
      | blank _ => rfl
      | void _ => rfl
      | @pieces pieces parameters hjoined hclear hspells =>
          -- either text is its own only piece, which has too few words
          have hcomma : ',' ∉ trim text := by rcases hnone with h | h <;> rw [h] <;> decide
          have hwords : (words (trim text)).length < 2 := by
            rcases hnone with h | h <;> rw [h] <;> decide
          cases hspells with
          | nil => rfl
          | @cons p piece ps rest hp hps =>
              have hsplit : splitAt ',' (trim text) = piece :: rest :=
                splitAt_eq_iff.mpr ⟨List.cons_ne_nil piece rest, hjoined.symm, hclear⟩
              rw [splitAt_of_notMem hcomma] at hsplit
              cases hsplit
              exact absurd hp.two_le (by omega)
  · rw [if_neg (by simpa using hnone), mapM_eq_ok_iff fun _ _ => Parameter.ofText_eq_ok_iff]
    constructor
    · intro h
      obtain ⟨-, hjoined, hclear⟩ := splitAt_eq_iff.mp (rfl : splitAt ',' (trim text) = _)
      exact .pieces hjoined.symm hclear h
    · intro h
      cases h with
      | blank h => exact absurd (Or.inl h) hnone
      | void h => exact absurd (Or.inr h) hnone
      | @pieces pieces _ hjoined hclear hspells =>
          have hne : pieces ≠ [] := by
            intro hnil
            rw [hnil] at hjoined
            exact hnone (Or.inl hjoined)
          rw [splitAt_eq_iff.mpr ⟨hne, hjoined.symm, hclear⟩]
          exact hspells

/-! ## Lines -/

/-- The pieces of a line spell a signature: they name it and list its parameters, and a
    blank piece behind the list stands for no convention. -/
structure LinePieces.Spells (p : LinePieces) (line : Text) (s : Signature) : Prop where
  cuts : p.Cuts line
  named : allBlank p.nameText = false
  lists : ListsParameters p.parameterText s.parameters
  returnType_eq : s.returnType = p.returnType
  name_eq : s.name = trim p.nameText
  convention_eq : s.convention
    = if allBlank p.conventionText then none else some (trim p.conventionText)

/-- Nothing is left of a text by trimming exactly if it is blank. -/
private theorem ite_trim_eq_nil {α : Type} (t : Text) (a b : α) :
    (if trim t = [] then a else b) = if allBlank t then a else b := by
  by_cases h : trim t = []
  · rw [if_pos h, if_pos (trim_eq_nil_iff.mp h)]
  · rw [if_neg h, if_neg fun hb => h (trim_eq_nil_iff.mpr hb)]

/-- A signature is read from the trimmed lines whose pieces spell it. -/
theorem Signature.ofTrimmed_eq_ok_iff {line : Text} {s : Signature} :
    Signature.ofTrimmed line = .ok s ↔ ∃ p : LinePieces, p.Spells line s := by
  rw [Signature.ofTrimmed]
  constructor
  · intro h
    cases hp : LinePieces.ofLine? line with
    | none => rw [hp] at h; exact nomatch h
    | some p =>
        rw [hp] at h
        dsimp only at h
        rw [ite_trim_eq_nil, ite_trim_eq_nil] at h
        by_cases hname : allBlank p.nameText = true
        · rw [if_pos hname] at h
          exact nomatch h
        · rw [if_neg hname] at h
          cases hlist : parametersOfText p.parameterText with
          | error fault => rw [hlist] at h; exact nomatch h
          | ok parameters =>
              rw [hlist] at h
              cases h
              exact ⟨p, LinePieces.ofLine?_eq_some_iff.mp hp, Bool.eq_false_iff.mpr hname,
                parametersOfText_eq_ok_iff.mp hlist, rfl, rfl, rfl⟩
  · rintro ⟨p, hcuts, hnamed, hlists, hreturn, hname, hconvention⟩
    rw [LinePieces.ofLine?_eq_some_iff.mpr hcuts]
    dsimp only
    rw [ite_trim_eq_nil, ite_trim_eq_nil, if_neg (by rw [hnamed]; exact Bool.false_ne_true),
      parametersOfText_eq_ok_iff.mpr hlists, ← hname, ← hreturn, ← hconvention]
    rfl

/-- **The reader takes exactly its grammar**: a line is the signature that its pieces spell,
    a line has one row of pieces at most, with a return type in front, and every line
    without such pieces is refused. -/
theorem Signature.ofLine_reads_grammar (line : Text) :
    (∀ s : Signature, Signature.ofLine line = .ok s ↔ ∃ p : LinePieces, p.Spells (trim line) s)
    ∧ (∀ p q : LinePieces, p.Cuts (trim line) → q.Cuts (trim line) → p = q)
    ∧ (∀ p : LinePieces, p.Cuts (trim line) → p.returnType ≠ [])
    ∧ ((∃ fault : LineFault, Signature.ofLine line = .error fault)
        ↔ ¬ ∃ (p : LinePieces) (s : Signature), p.Spells (trim line) s) := by
  refine ⟨fun s => Signature.ofTrimmed_eq_ok_iff, fun p q hp hq => hp.unique hq,
    fun p hp => hp.returnType_ne_nil (isTrimmed_trim line), ?_⟩
  constructor
  · -- a line is not both refused and read
    rintro ⟨fault, hfault⟩ ⟨p, s, hp⟩
    have hs : Signature.ofLine line = .ok s := Signature.ofTrimmed_eq_ok_iff.mpr ⟨p, hp⟩
    rw [hs] at hfault
    exact nomatch hfault
  · intro hnone
    cases h : Signature.ofLine line with
    | error fault => exact ⟨fault, rfl⟩
    | ok s =>
        obtain ⟨p, hp⟩ := Signature.ofTrimmed_eq_ok_iff.mp h
        exact absurd ⟨p, s, hp⟩ hnone

/-- A line with blanks about its pieces, and one whose first space stands behind the
    bracket. -/
theorem Signature.ofLine_reads_grammar_blanks :
    (∀ p : LinePieces, p.Cuts (trim " int  f ( in int x ) cdecl ".toList) →
      p = ⟨"int".toList, " f ".toList, " in int x ".toList, " cdecl".toList⟩)
    ∧ (∃ p : LinePieces, p.Spells (trim " int  f ( in int x ) cdecl ".toList)
      ⟨"f".toList, "int".toList, some "cdecl".toList, [⟨"in int".toList, "x".toList⟩]⟩)
    ∧ ¬ ∃ (p : LinePieces) (s : Signature), p.Spells (trim "f(int x)".toList) s := by
  obtain ⟨hread, hunique, -, -⟩ := Signature.ofLine_reads_grammar " int  f ( in int x ) cdecl ".toList
  refine ⟨?_, (hread _).mp rfl, ?_⟩
  · intro p hp
    exact hunique p _ hp ⟨rfl, by decide, by decide, by decide, by decide⟩
  · exact (Signature.ofLine_reads_grammar "f(int x)".toList).2.2.2.mp ⟨_, rfl⟩

end PointerBindings
