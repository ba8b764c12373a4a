import PointerBindings.Text.Basic

/-! # Pieces — cutting a text at a character and joining it again

    The pieces of a text are the one way to write it as texts without the character
    with the character between neighbours (`splitAt_eq_iff`).  That reading is used in
    both directions: pieces found are clear of the character, and clear texts joined
    are found again. -/

namespace PointerBindings.Text

private theorem consFirst_eq_modifyHead {c : Char} {pieces : List Text} (h : pieces ≠ []) :
    consFirst c pieces = pieces.modifyHead (List.cons c) := by
  cases pieces with
  | nil => exact absurd rfl h
  | cons piece pieces => rfl

/-- The pieces are those that the library for lists finds. -/
theorem splitAt_eq_splitOn (c : Char) (t : Text) : splitAt c t = t.splitOn c := by
  induction t with
  | nil => rfl
  | cons d rest ih =>
      rw [splitAt, List.splitOn_cons_eq_if_modifyHead, ih]
      by_cases hd : d = c
      · rw [if_pos hd, if_pos (by simp [hd])]
      · rw [if_neg hd, if_neg (by simp [hd])]
        exact consFirst_eq_modifyHead (List.splitOn_ne_nil c rest)

/-- There is at least one piece. -/
theorem splitAt_ne_nil (c : Char) (t : Text) : splitAt c t ≠ [] := by
  rw [splitAt_eq_splitOn]
  exact List.splitOn_ne_nil c t

/-- A text without the character is its only piece. -/
theorem splitAt_of_notMem {c : Char} {t : Text} (h : c ∉ t) : splitAt c t = [t] := by
  rw [splitAt_eq_splitOn]
  exact List.splitOn_eq_singleton h

/-- What stands before the first occurrence is the first piece. -/
theorem splitAt_append_cons {c : Char} {before : Text} (after : Text) (h : c ∉ before) :
    splitAt c (before ++ c :: after) = before :: splitAt c after := by
  rw [splitAt_eq_splitOn, splitAt_eq_splitOn]
  exact List.splitOn_append_cons_self_of_not_mem h after

/-- Pieces are clear of the character. -/
theorem notMem_of_mem_splitAt {c : Char} {t : Text} : ∀ piece ∈ splitAt c t, c ∉ piece := by
  induction t with
  | nil =>
      intro piece hp
      rw [List.mem_singleton.mp hp]
      exact List.not_mem_nil
  | cons d rest ih =>
      intro piece hp
      rw [splitAt] at hp
      by_cases hd : d = c
      · rw [if_pos hd] at hp
        rcases List.mem_cons.mp hp with heq | hmem
        · rw [heq]; exact List.not_mem_nil
        · exact ih piece hmem
      · rw [if_neg hd] at hp
        obtain ⟨first, others, hsplit⟩ := List.exists_cons_of_ne_nil (splitAt_ne_nil c rest)
        rw [hsplit] at hp ih
        rcases List.mem_cons.mp hp with heq | hmem
        · rw [heq]
          intro hc
          rcases List.mem_cons.mp hc with hcd | hcf
          · exact hd hcd.symm
          · exact ih first List.mem_cons_self hcf
        · exact ih piece (List.mem_cons_of_mem first hmem)

/-- The pieces of a text are the clear texts that it joins. -/
theorem splitAt_eq_iff {c : Char} {t : Text} {pieces : List Text} :
    splitAt c t = pieces ↔ pieces ≠ [] ∧ joined [c] pieces = t ∧ ∀ piece ∈ pieces, c ∉ piece := by
  constructor
  · intro h
    rw [← h]
    refine ⟨splitAt_ne_nil c t, ?_, notMem_of_mem_splitAt⟩
    rw [splitAt_eq_splitOn]
    exact List.intercalate_splitOn c
  · rintro ⟨hne, hjoined, hclear⟩
    rw [← hjoined, splitAt_eq_splitOn]
    exact List.splitOn_intercalate c hclear hne

/-- Texts without a character, joined by one without it, make a text without it. -/
theorem notMem_joined {c : Char} {separator : Text} {texts : List Text}
    (hseparator : c ∉ separator) (h : ∀ t ∈ texts, c ∉ t) : c ∉ joined separator texts := by
  induction texts with
  | nil => exact List.not_mem_nil
  | cons t texts ih =>
      have hfirst : c ∉ t := h t List.mem_cons_self
      cases texts with
      | nil =>
          rw [joined, List.intercalate_singleton]
          exact hfirst
      | cons u texts =>
          have hrest := ih fun v hv => h v (List.mem_cons_of_mem t hv)
          rw [joined, List.intercalate_cons_cons]
          intro hc
          rcases List.mem_append.mp hc with hc | hc
          · exact (List.mem_append.mp hc).elim hfirst hseparator
          · exact hrest hc

end PointerBindings.Text
