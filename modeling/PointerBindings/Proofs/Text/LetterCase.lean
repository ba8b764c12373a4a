import PointerBindings.Proofs.Text.Blank
import PointerBindings.Text.LowerCase

/-! # Letter case — plain words in letters of any size

    A text is a word in letters of any size if writing its plain capitals small gives the
    word.  Lower-casing such a text gives the word back if the word is plain
    (`IsPlainWord.lower_trim`): of all letters with a small form only the plain ones have a plain
    small form. -/

namespace PointerBindings.Text

/-- The text is the word, in letters of any size. -/
def InAnyCase (word t : Text) : Prop :=
  t.map Char.toLower = word

instance (word t : Text) : Decidable (InAnyCase word t) :=
  inferInstanceAs (Decidable (t.map Char.toLower = word))

/-- A plain character is one of the first 128, and no blank. -/
def IsPlain (c : Char) : Prop :=
  c.toNat < 128 ∧ isBlank c = false

instance (c : Char) : Decidable (IsPlain c) :=
  inferInstanceAs (Decidable (c.toNat < 128 ∧ isBlank c = false))

/-- A plain word has plain characters, the letters among them small ones. -/
def IsPlainWord (word : Text) : Prop :=
  (∀ c ∈ word, IsPlain c) ∧ InAnyCase word word

instance (word : Text) : Decidable (IsPlainWord word) :=
  decidable_of_iff (word.all (fun c => decide (IsPlain c)) = true ∧ InAnyCase word word)
    (by simp [IsPlainWord])

/-- What holds of the first 128 codes holds of their characters. -/
theorem of_first_codes (P : Char → Prop) (h : ∀ n : Fin 128, P (Char.ofNat n)) {c : Char}
    (hc : c.toNat < 128) : P c := by
  have hcode := h ⟨c.toNat, hc⟩
  rwa [Char.ofNat_toNat] at hcode

theorem smallLetter_of_isPlain {c : Char} (h : IsPlain c) : smallLetter c = c.toLower :=
  of_first_codes (fun c => smallLetter c = c.toLower) (by decide +kernel) h.1

/-- A character with a plain small form is plain itself. -/
theorem isPlain_of_toLower {c : Char} (h : IsPlain c.toLower) : IsPlain c := by
  have hcode : c.toNat < 128 := by
    by_cases hcapital : c.val ≥ 'A'.val ∧ c.val ≤ 'Z'.val
    · have hlast : c.val.toNat ≤ 'Z'.val.toNat := UInt32.le_iff_toNat_le.mp hcapital.2
      exact Nat.lt_of_le_of_lt hlast (by decide)
    · have hsame : c.toLower = c := dif_neg hcapital
      rw [← hsame]
      exact h.1
  have hblank : isBlank c.toLower = isBlank c :=
    of_first_codes (fun c => isBlank c.toLower = isBlank c) (by decide +kernel) hcode
  exact ⟨hcode, hblank.symm.trans h.2⟩

theorem lowerAfter_of_isPlain {before t : Text} (h : ∀ c ∈ t, IsPlain c) :
    lowerAfter before t = t.map Char.toLower := by
  induction t generalizing before with
  | nil => rfl
  | cons c rest ih =>
      have hc : IsPlain c := h c List.mem_cons_self
      have hcode : c.toNat < 128 := hc.1
      rw [lowerAfter, ih fun d hd => h d (List.mem_cons_of_mem c hd),
        if_neg (by omega), if_neg (by omega), smallLetter_of_isPlain hc]
      rfl

/-- **A plain word** in letters of any size is read back, blanks around it aside. -/
theorem IsPlainWord.lower_trim {word t before behind : Text} (hword : IsPlainWord word)
    (h : InAnyCase word t) (hbefore : allBlank before = true) (hbehind : allBlank behind = true) :
    lower (trim (before ++ t ++ behind)) = word := by
  have hplain : ∀ c ∈ t, IsPlain c := by
    intro c hc
    refine isPlain_of_toLower (hword.1 _ ?_)
    rw [← show t.map Char.toLower = word from h]
    exact List.mem_map_of_mem hc
  have ht : IsTrimmed t :=
    ⟨fun c hc => (hplain c (List.mem_of_head? hc)).2,
      fun c hc => (hplain c (List.mem_of_getLast? hc)).2⟩
  rw [trim_of_blanks_around hbefore hbehind ht, lower, lowerAfter_of_isPlain hplain]
  exact h

end PointerBindings.Text
