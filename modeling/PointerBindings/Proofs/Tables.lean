import Mathlib.Data.List.Forall2

/-! # Tables — what is looked up in a list of entries

    Spellings, names and commands are kept in lists of a key and a value each, and the first
    entry with a key decides.  So what is found stands in the table, and tables that agree on
    their keys are looked up alike. -/

namespace PointerBindings

variable {α β : Type} [BEq α] {table table' : List (α × β)} {key : α} {value : β}

/-- What is found stands in the table. -/
theorem mem_of_lookup [LawfulBEq α] (h : table.lookup key = some value) : (key, value) ∈ table := by
  obtain ⟨front, back, hsplit, -⟩ := List.lookup_eq_some_iff.mp h
  rw [hsplit]
  exact List.mem_append_right front List.mem_cons_self

/-- Under the same keys the values at the same places are found. -/
theorem lookup_of_sameKeys {related : β → β → Prop}
    (h : List.Forall₂ (fun entry entry' => entry.1 = entry'.1 ∧ related entry.2 entry'.2)
      table table')
    (hvalue : table.lookup key = some value) :
    ∃ value', table'.lookup key = some value' ∧ related value value' := by
  induction h with
  | nil => cases hvalue
  | @cons entry entry' table table' hentry _ ih =>
      obtain ⟨k, v⟩ := entry
      obtain ⟨k', v'⟩ := entry'
      obtain ⟨rfl, hrelated⟩ : k = k' ∧ related v v' := hentry
      rw [List.lookup_cons] at hvalue ⊢
      cases hkey : key == k with
      | true =>
          rw [hkey] at hvalue
          cases hvalue
          exact ⟨v', rfl, hrelated⟩
      | false =>
          rw [hkey] at hvalue
          exact ih hvalue

end PointerBindings
