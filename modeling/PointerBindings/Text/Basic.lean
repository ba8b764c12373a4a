/-! # Texts — finite character lists and where they are cut

    Every rule of this library asks what a text begins with, ends with or splits
    into, so a text is simply the list of its characters and each question is a
    structural recursion on that list.  The cuts come in pairs with the lemmas
    that pin them down: nothing is lost, and the character cut at is absent from
    the side that says so. -/

namespace PointerBindings

/-- A text is the list of its characters. -/
abbrev Text := List Char

namespace Text

/-! ## Cutting at one character -/

/-- The parts before and after the first occurrence of a character. -/
def cutFirst (c : Char) : Text → Option (Text × Text)
  | [] => none
  | d :: rest =>
      if d = c then some ([], rest)
      else (cutFirst c rest).map fun (before, after) => (d :: before, after)

/-- The parts before and after the last occurrence of a character. -/
def cutLast (c : Char) : Text → Option (Text × Text)
  | [] => none
  | d :: rest =>
      match cutLast c rest with
      | some (before, after) => some (d :: before, after)
      | none => if d = c then some ([], rest) else none

/-- A first cut loses nothing but the character, which the front part lacks. -/
theorem eq_of_cutFirst {c : Char} {t before after : Text}
    (h : cutFirst c t = some (before, after)) :
    t = before ++ c :: after ∧ c ∉ before := by
  induction t generalizing before after with
  | nil => exact nomatch h
  | cons d rest ih =>
      by_cases hd : d = c
      · rw [cutFirst, if_pos hd] at h
        cases h
        exact ⟨by rw [hd]; rfl, by simp⟩
      · rw [cutFirst, if_neg hd] at h
        obtain ⟨⟨b, a⟩, hcut, heq⟩ := Option.map_eq_some_iff.mp h
        cases heq
        obtain ⟨ht, hb⟩ := ih hcut
        refine ⟨by rw [ht]; rfl, ?_⟩
        intro hm
        rcases List.mem_cons.mp hm with heq | hmem
        · exact hd heq.symm
        · exact hb hmem

/-- The first cut is found wherever the front part lacks the character. -/
theorem cutFirst_append {c : Char} {before : Text} (after : Text) (h : c ∉ before) :
    cutFirst c (before ++ c :: after) = some (before, after) := by
  induction before with
  | nil => simp [cutFirst]
  | cons d rest ih =>
      have hd : d ≠ c := fun heq => h (by simp [heq])
      have hr : c ∉ rest := fun hm => h (List.mem_cons_of_mem _ hm)
      simp [cutFirst, hd, ih hr]

/-- A text without the character has no cut. -/
theorem cutFirst_eq_none_iff {c : Char} {t : Text} : cutFirst c t = none ↔ c ∉ t := by
  induction t with
  | nil => simp [cutFirst]
  | cons d rest ih =>
      by_cases hd : d = c
      · simp [cutFirst, hd]
      · simp [cutFirst, hd, ih, Ne.symm hd]

/-- A text without the character has no last cut either. -/
theorem cutLast_eq_none_iff {c : Char} {t : Text} : cutLast c t = none ↔ c ∉ t := by
  induction t with
  | nil => simp [cutLast]
  | cons d rest ih =>
      cases hc : cutLast c rest with
      | some p =>
          have hm : c ∈ rest := by
            refine Classical.byContradiction fun hn => ?_
            rw [ih.mpr hn] at hc
            exact nomatch hc
          simp [cutLast, hc, hm]
      | none =>
          have hn : c ∉ rest := ih.mp hc
          by_cases hd : d = c
          · simp [cutLast, hc, hd]
          · simp [cutLast, hc, hd, hn, Ne.symm hd]

/-- A last cut loses nothing but the character, which the back part lacks. -/
theorem eq_of_cutLast {c : Char} {t before after : Text}
    (h : cutLast c t = some (before, after)) :
    t = before ++ c :: after ∧ c ∉ after := by
  induction t generalizing before after with
  | nil => exact nomatch h
  | cons d rest ih =>
      cases hc : cutLast c rest with
      | some p =>
          obtain ⟨b, a⟩ := p
          rw [cutLast, hc] at h
          cases h
          obtain ⟨ht, ha⟩ := ih hc
          exact ⟨by rw [ht]; rfl, ha⟩
      | none =>
          have hn : c ∉ rest := cutLast_eq_none_iff.mp hc
          by_cases hd : d = c
          · simp only [cutLast, hc, if_pos hd] at h
            cases h
            exact ⟨by rw [hd]; rfl, hn⟩
          · simp [cutLast, hc, hd] at h

/-- The last cut is found wherever the back part lacks the character. -/
theorem cutLast_append {c : Char} (before : Text) {after : Text} (h : c ∉ after) :
    cutLast c (before ++ c :: after) = some (before, after) := by
  induction before with
  | nil => simp [cutLast, cutLast_eq_none_iff.mpr h]
  | cons d rest ih => simp [cutLast, ih]

/-! ## Pieces -/

/-- Puts a character in front of the first piece. -/
def consFirst (c : Char) : List Text → List Text
  | [] => [[c]]
  | piece :: pieces => (c :: piece) :: pieces

/-- The pieces between the occurrences of a character; there is at least one. -/
def splitAt (c : Char) : Text → List Text
  | [] => [[]]
  | d :: rest => if d = c then [] :: splitAt c rest else consFirst d (splitAt c rest)

/-- What follows the given beginning, if the text has that beginning. -/
def after? (start : Text) (t : Text) : Option Text :=
  if start.isPrefixOf t then some (t.drop start.length) else none

/-- A beginning that is taken off stood in front of what is left. -/
theorem after?_eq_some_iff {start t rest : Text} :
    after? start t = some rest ↔ t = start ++ rest := by
  rw [after?]
  constructor
  · intro h
    split at h
    · rename_i hprefix
      obtain ⟨rest', rfl⟩ := List.isPrefixOf_iff_prefix.mp hprefix
      rw [List.drop_left] at h
      rw [Option.some.inj h]
    · exact nomatch h
  · rintro rfl
    rw [if_pos (List.isPrefixOf_iff_prefix.mpr (List.prefix_append start rest)), List.drop_left]

/-- The text with its last character, if that is the given one, taken off. -/
def dropFinal (c : Char) (t : Text) : Text :=
  if t.getLast? = some c then t.dropLast else t

/-- Every occurrence of one character exchanged for another. -/
def exchange (old new : Char) (t : Text) : Text :=
  t.map fun c => if c = old then new else c

/-- Texts one after the other with a separator between neighbours. -/
def joined (separator : Text) (texts : List Text) : Text :=
  List.intercalate separator texts

end Text

end PointerBindings
