import Mathlib.Data.List.DropRight
import PointerBindings.Text.Blank

/-! # Blanks — what trimming leaves and what the words of a text are

    A trimmed text neither begins nor ends with a blank, and trimming changes no text
    that is trimmed already.  Words are described without saying how they are found:
    a text spells a list of words if they stand in it one after the other, apart from
    each other, with nothing but blanks around them.  Every text spells exactly one
    list of words (`words_eq_iff`). -/

namespace PointerBindings.Text

/-! ## Trimming -/

/-- The text has no blank at either end. -/
def IsTrimmed (t : Text) : Prop :=
  (∀ c ∈ t.head?, isBlank c = false) ∧ (∀ c ∈ t.getLast?, isBlank c = false)

/-- Whether a text is trimmed is seen by looking at its ends. -/
theorem isTrimmed_iff_ends {t : Text} :
    IsTrimmed t ↔ t.head?.all (!isBlank ·) = true ∧ t.getLast?.all (!isBlank ·) = true := by
  simp [IsTrimmed, Option.all_eq_true]

instance (t : Text) : Decidable (IsTrimmed t) :=
  decidable_of_iff _ isTrimmed_iff_ends.symm

/-- Behind the blanks that a text begins with stands no blank. -/
theorem head?_trimStart {t : Text} {c : Char} (h : c ∈ (trimStart t).head?) :
    isBlank c = false := by
  have hnot := List.head?_dropWhile_not isBlank t
  rw [show (t.dropWhile isBlank).head? = some c from h] at hnot
  exact hnot

/-- Before the blanks that a text ends with stands no blank. -/
theorem getLast?_trimEnd {t : Text} {c : Char} (h : c ∈ (trimEnd t).getLast?) :
    isBlank c = false := by
  rw [trimEnd, List.getLast?_reverse] at h
  exact head?_trimStart (t := t.reverse) h

/-- Trimming the end leaves the beginning as it is, or nothing at all. -/
theorem head?_trimEnd {t : Text} {c : Char} (h : c ∈ (trimEnd t).head?) : c ∈ t.head? := by
  obtain ⟨rest, hrest⟩ : trimEnd t <+: t := List.rdropWhile_prefix isBlank t
  cases ht : trimEnd t with
  | nil => rw [ht] at h; exact nomatch h
  | cons d tail =>
      rw [ht] at h hrest
      rw [← hrest]
      exact h

theorem isTrimmed_trim (t : Text) : IsTrimmed (trim t) :=
  ⟨fun _ h => head?_trimStart (head?_trimEnd h), fun _ h => getLast?_trimEnd h⟩

private theorem trimStart_of_head {t : Text} (h : ∀ c ∈ t.head?, isBlank c = false) :
    trimStart t = t := by
  cases t with
  | nil => rfl
  | cons c rest =>
      have hc : isBlank c = false := h c rfl
      rw [trimStart, List.dropWhile_cons_of_neg (by rw [hc]; exact Bool.false_ne_true)]

/-- Trimming changes nothing exactly where there is nothing to take off. -/
theorem trim_eq_self_iff {t : Text} : trim t = t ↔ IsTrimmed t := by
  constructor
  · intro h
    rw [← h]
    exact isTrimmed_trim t
  · rintro ⟨hhead, hlast⟩
    -- what is taken off the end is what the reversed text begins with
    rw [trim, trimStart_of_head hhead, trimEnd]
    have hrev : t.reverse.dropWhile isBlank = t.reverse :=
      trimStart_of_head (t := t.reverse) (by rwa [List.head?_reverse])
    rw [hrev, List.reverse_reverse]

theorem trim_trim (t : Text) : trim (trim t) = trim t :=
  trim_eq_self_iff.mpr (isTrimmed_trim t)

/-- Trimming brings no character in. -/
theorem mem_of_mem_trim {c : Char} {t : Text} (h : c ∈ trim t) : c ∈ t :=
  (List.dropWhile_suffix isBlank).subset
    ((List.rdropWhile_prefix isBlank (trimStart t)).subset h)

/-- Nothing is left exactly of the texts that are all blank. -/
theorem trim_eq_nil_iff {t : Text} : trim t = [] ↔ allBlank t = true := by
  constructor
  · intro h
    have hstart : ∀ c ∈ trimStart t, isBlank c = true := List.rdropWhile_eq_nil_iff.mp h
    refine List.all_eq_true.mpr ?_
    intro c hc
    rw [← List.takeWhile_append_dropWhile (p := isBlank) (l := t)] at hc
    rcases List.mem_append.mp hc with htake | hdrop
    · exact List.mem_takeWhile_imp htake
    · exact hstart c hdrop
  · intro h
    have hstart : trimStart t = [] := List.dropWhile_eq_nil_iff.mpr (List.all_eq_true.mp h)
    rw [trim, hstart]
    rfl

/-- A blank in front is taken off. -/
theorem trim_cons_of_blank {c : Char} {t : Text} (hc : isBlank c = true) :
    trim (c :: t) = trim t := by
  rw [trim, trimStart, List.dropWhile_cons_of_pos hc, trim, trimStart]

private theorem trimStart_append_of_blank {before : Text} (h : allBlank before = true) (t : Text) :
    trimStart (before ++ t) = trimStart t :=
  List.dropWhile_append_of_pos (List.all_eq_true.mp h)

/-- Blanks around a trimmed text are taken off. -/
theorem trim_of_blanks_around {before t behind : Text} (hbefore : allBlank before = true)
    (hbehind : allBlank behind = true) (ht : IsTrimmed t) : trim (before ++ t ++ behind) = t := by
  by_cases hnil : t = []
  · rw [hnil, List.append_nil]
    refine trim_eq_nil_iff.mpr ?_
    rw [allBlank, List.all_append]
    exact Bool.and_eq_true_iff.mpr ⟨hbefore, hbehind⟩
  · have hstart : trimStart (before ++ t ++ behind) = t ++ behind := by
      rw [List.append_assoc, trimStart_append_of_blank hbefore]
      exact trimStart_of_head (by rw [List.head?_append_of_ne_nil t hnil]; exact ht.1)
    have hend : trimStart (behind.reverse ++ t.reverse) = t.reverse := by
      rw [trimStart_append_of_blank (by rwa [allBlank, List.all_reverse])]
      exact trimStart_of_head (by rw [List.head?_reverse]; exact ht.2)
    rw [trim, hstart, trimEnd, List.reverse_append]
    rw [trimStart] at hend
    rw [hend, List.reverse_reverse]

/-- A text that begins with one text and ends with another has no blank at either end if
    they have none there. -/
theorem IsTrimmed.append {a b : Text} (middle : Text) (ha : a ≠ []) (hb : b ≠ [])
    (hhead : ∀ c ∈ a.head?, isBlank c = false) (hlast : ∀ c ∈ b.getLast?, isBlank c = false) :
    IsTrimmed (a ++ middle ++ b) := by
  constructor
  · intro c hc
    rw [List.append_assoc, List.head?_append_of_ne_nil a ha] at hc
    exact hhead c hc
  · intro c hc
    rw [List.getLast?_append_of_ne_nil _ hb] at hc
    exact hlast c hc

/-! ## Words -/

/-- A word: characters of which none is a blank, and at least one of them. -/
structure IsWord (w : Text) : Prop where
  ne_nil : w ≠ []
  clear : ∀ c ∈ w, isBlank c = false

/-- Whether a text is a word is seen by going through its characters. -/
theorem isWord_iff_all {w : Text} : IsWord w ↔ w ≠ [] ∧ w.all (fun c => !isBlank c) = true := by
  constructor
  · rintro ⟨hne, hclear⟩
    refine ⟨hne, List.all_eq_true.mpr ?_⟩
    intro c hc
    rw [hclear c hc]
    rfl
  · rintro ⟨hne, hall⟩
    refine ⟨hne, ?_⟩
    intro c hc
    simpa using List.all_eq_true.mp hall c hc

instance (w : Text) : Decidable (IsWord w) :=
  decidable_of_iff _ isWord_iff_all.symm

theorem IsWord.isTrimmed {w : Text} (h : IsWord w) : IsTrimmed w :=
  ⟨fun c hc => h.clear c (List.mem_of_mem_head? hc),
    fun c hc => h.clear c (List.mem_of_getLast? hc)⟩

/-- The text spells the words: they stand in it in order, each followed by a blank or by
    the end, and whatever else there is are blanks. -/
inductive Spelled : List Text → Text → Prop where
  | nil : Spelled [] []
  | blank {c : Char} {ws : List Text} {t : Text} :
      isBlank c = true → Spelled ws t → Spelled ws (c :: t)
  | word {w : Text} {ws : List Text} {t : Text} :
      IsWord w → (∀ c ∈ t.head?, isBlank c = true) → Spelled ws t → Spelled (w :: ws) (w ++ t)

private theorem words_of_blank {c : Char} (t : Text) (hc : isBlank c = true) :
    words (c :: t) = words t := by
  rw [words.eq_def]
  exact if_pos hc

private theorem words_single {c : Char} (hc : isBlank c = false) : words [c] = [[c]] := by
  rw [words.eq_def]
  exact if_neg (by rw [hc]; exact Bool.false_ne_true)

private theorem words_before_blank {c d : Char} (t : Text) (hc : isBlank c = false)
    (hd : isBlank d = true) : words (c :: d :: t) = [c] :: words (d :: t) := by
  rw [words.eq_def]
  simp only [hc, hd, if_true, Bool.false_eq_true, if_false]

private theorem words_within {c d : Char} (t : Text) (hc : isBlank c = false)
    (hd : isBlank d = false) : words (c :: d :: t) = consFirst c (words (d :: t)) := by
  rw [words.eq_def]
  simp only [hc, hd, Bool.false_eq_true, if_false]

/-- A word with a blank or nothing behind it is the first of the words. -/
theorem words_word_append {w t : Text} (hw : IsWord w) (ht : ∀ c ∈ t.head?, isBlank c = true) :
    words (w ++ t) = w :: words t := by
  obtain ⟨hne, hclear⟩ := hw
  induction w with
  | nil => exact absurd rfl hne
  | cons c rest ih =>
      have hc : isBlank c = false := hclear c List.mem_cons_self
      cases rest with
      | nil =>
          cases t with
          | nil => exact words_single hc
          | cons d t => exact words_before_blank t hc (ht d rfl)
      | cons d rest =>
          have hd : isBlank d = false := hclear d (by simp)
          have hrest := ih (List.cons_ne_nil d rest)
            (fun e he => hclear e (List.mem_cons_of_mem c he))
          rw [List.cons_append, List.cons_append, words_within _ hc hd, ← List.cons_append, hrest]
          rfl

private theorem spelled_consFirst {c d : Char} {t : Text} {ws : List Text}
    (hc : isBlank c = false) (hd : isBlank d = false) (h : Spelled ws (d :: t)) :
    Spelled (consFirst c ws) (c :: d :: t) := by
  -- the words are opened by how the text spells them, so its shape is set aside
  generalize hu : d :: t = u at h
  cases h with
  | nil => exact nomatch hu
  | blank hblank _ =>
      cases hu
      rw [hd] at hblank
      exact nomatch hblank
  | @word w ws rest hw hrest hspelled =>
      have hword : IsWord (c :: w) := by
        refine ⟨List.cons_ne_nil c w, ?_⟩
        intro e he
        rcases List.mem_cons.mp he with heq | hmem
        · rw [heq]; exact hc
        · exact hw.clear e hmem
      exact .word hword hrest hspelled

/-- A text spells its words. -/
theorem spelled_words (t : Text) : Spelled (words t) t := by
  induction t with
  | nil => exact .nil
  | cons c rest ih =>
      by_cases hc : isBlank c = true
      · rw [words_of_blank rest hc]
        exact .blank hc ih
      · have hc' : isBlank c = false := Bool.eq_false_iff.mpr hc
        have hword : IsWord [c] := ⟨List.cons_ne_nil c [], by simpa using hc'⟩
        cases rest with
        | nil =>
            rw [words_single hc']
            exact .word hword (fun _ h => nomatch h) .nil
        | cons d rest =>
            by_cases hd : isBlank d = true
            · rw [words_before_blank rest hc' hd]
              refine .word hword ?_ ih
              intro e he
              cases he
              exact hd
            · have hd' : isBlank d = false := Bool.eq_false_iff.mpr hd
              rw [words_within rest hc' hd']
              exact spelled_consFirst hc' hd' ih

/-- The words of a text are the only ones that it spells. -/
theorem words_eq_iff {t : Text} {ws : List Text} : words t = ws ↔ Spelled ws t := by
  constructor
  · intro h
    rw [← h]
    exact spelled_words t
  · intro h
    induction h with
    | nil => rfl
    | blank hc _ ih => rw [words_of_blank _ hc, ih]
    | word hw ht _ ih => rw [words_word_append hw ht, ih]

/-- Words are words. -/
theorem Spelled.isWord {ws : List Text} {t : Text} (h : Spelled ws t) : ∀ w ∈ ws, IsWord w := by
  induction h with
  | nil => intro w hw; exact nomatch hw
  | blank _ _ ih => exact ih
  | word hw _ _ ih =>
      intro v hv
      rcases List.mem_cons.mp hv with heq | hmem
      · rw [heq]; exact hw
      · exact ih v hmem

/-- Words hold no character that the text lacks. -/
theorem Spelled.mem_text {ws : List Text} {t : Text} (h : Spelled ws t) :
    ∀ w ∈ ws, ∀ c ∈ w, c ∈ t := by
  induction h with
  | nil => intro w hw; exact nomatch hw
  | blank _ _ ih => exact fun w hw c hc => List.mem_cons_of_mem _ (ih w hw c hc)
  | word _ _ _ ih =>
      intro v hv c hc
      rcases List.mem_cons.mp hv with heq | hmem
      · rw [heq] at hc; exact List.mem_append_left _ hc
      · exact List.mem_append_right _ (ih v hmem c hc)

/-- Words one space apart are spelled by the text they make. -/
theorem Spelled.word_space {w : Text} {ws : List Text} {t : Text} (hw : IsWord w)
    (h : Spelled ws t) : Spelled (w :: ws) (w ++ ' ' :: t) := by
  refine .word hw ?_ (.blank rfl h)
  intro c hc
  cases hc
  rfl

/-- A word alone is spelled by itself. -/
theorem Spelled.single {w : Text} (hw : IsWord w) : Spelled [w] w := by
  have h : Spelled [w] (w ++ []) := .word hw (fun _ h => nomatch h) .nil
  rwa [List.append_nil] at h

/-! ## Words of parts -/

/-- Blanks alone spell no word, and nothing else does. -/
theorem spelled_nil_iff {t : Text} : Spelled [] t ↔ allBlank t = true := by
  induction t with
  | nil => exact iff_of_true .nil rfl
  | cons c rest ih =>
      rw [allBlank, List.all_cons, Bool.and_eq_true]
      constructor
      · intro h
        cases h with
        | blank hc hrest => exact ⟨hc, ih.mp hrest⟩
      · rintro ⟨hc, hrest⟩
        exact .blank hc (ih.mpr hrest)

/-- Words one space apart are the words of the text they make. -/
theorem spelled_joined {ws : List Text} (h : ∀ w ∈ ws, IsWord w) : Spelled ws (joined [' '] ws) := by
  induction ws with
  | nil => exact .nil
  | cons w ws ih =>
      have hw : IsWord w := h w List.mem_cons_self
      have hrest := ih fun v hv => h v (List.mem_cons_of_mem w hv)
      cases ws with
      | nil =>
          rw [joined, List.intercalate_singleton]
          exact .single hw
      | cons v ws =>
          rw [joined, List.intercalate_cons_cons, List.append_assoc]
          exact .word_space hw hrest

/-- A character behind a text is a word of its own or the last one of a word. -/
theorem Spelled.concat {ws : List Text} {t : Text} (h : Spelled ws t) {c : Char}
    (hc : isBlank c = false) :
    ∃ vs, Spelled vs (t ++ [c]) ∧ ∀ v ∈ vs, v ∈ ws ∨ c ∈ v := by
  have hword : IsWord [c] := ⟨List.cons_ne_nil c [], by simpa using hc⟩
  induction h with
  | nil => exact ⟨[[c]], .single hword, fun v hv => .inr (by simp_all)⟩
  | blank hd _ ih =>
      obtain ⟨vs, hvs, hmem⟩ := ih
      exact ⟨vs, .blank hd hvs, hmem⟩
  | @word w ws t hw ht hrest ih =>
      cases t with
      | nil =>
          have hlonger : IsWord (w ++ [c]) := by
            refine ⟨List.append_ne_nil_of_left_ne_nil hw.ne_nil [c], ?_⟩
            intro d hd
            rcases List.mem_append.mp hd with hd | hd
            · exact hw.clear d hd
            · exact hword.clear d hd
          refine ⟨[w ++ [c]], by simpa using Spelled.single hlonger, ?_⟩
          intro v hv
          rw [List.mem_singleton.mp hv]
          exact .inr (List.mem_append_right w List.mem_cons_self)
      | cons d t =>
          obtain ⟨vs, hvs, hmem⟩ := ih
          refine ⟨w :: vs, ?_, ?_⟩
          · rw [List.append_assoc]
            exact .word hw ht hvs
          · intro v hv
            rcases List.mem_cons.mp hv with rfl | hv
            · exact .inl List.mem_cons_self
            · exact (hmem v hv).imp_left (List.mem_cons_of_mem w)

/-- Words stay whole if what follows them begins with a blank. -/
theorem Spelled.append {ws vs : List Text} {a b : Text} (ha : Spelled ws a) (hb : Spelled vs b)
    (hblank : ∀ c ∈ b.head?, isBlank c = true) : Spelled (ws ++ vs) (a ++ b) := by
  induction ha with
  | nil => exact hb
  | blank hc _ ih => exact .blank hc ih
  | @word w ws t hw ht _ ih =>
      rw [List.cons_append, List.append_assoc]
      refine .word hw ?_ ih
      intro c hc
      cases t with
      | nil => exact hblank c hc
      | cons d t => exact ht c hc

/-- Words are found part by part where the second part begins with a blank. -/
theorem words_append {a b : Text} (hblank : ∀ c ∈ b.head?, isBlank c = true) :
    words (a ++ b) = words a ++ words b :=
  words_eq_iff.mpr ((spelled_words a).append (spelled_words b) hblank)

/-- Blanks in front of a text bring no word. -/
theorem words_blanks_append {before : Text} (h : allBlank before = true) (t : Text) :
    words (before ++ t) = words t := by
  refine words_eq_iff.mpr ?_
  induction before with
  | nil => exact spelled_words t
  | cons c rest ih =>
      rw [allBlank, List.all_cons, Bool.and_eq_true] at h
      exact .blank h.1 (ih h.2)

/-- A text is what trimming leaves of it with blanks around. -/
theorem exists_blanks_around (t : Text) :
    ∃ before behind, allBlank before = true ∧ allBlank behind = true
      ∧ t = before ++ (trim t ++ behind) := by
  refine ⟨t.takeWhile isBlank, (trimStart t).rtakeWhile isBlank, ?_, ?_, ?_⟩
  · exact List.all_eq_true.mpr fun c hc => List.mem_takeWhile_imp hc
  · exact List.all_eq_true.mpr fun c hc => List.mem_rtakeWhile_imp hc
  · have hend : trim t ++ (trimStart t).rtakeWhile isBlank = trimStart t :=
      List.rdropWhile_append_rtakeWhile
    rw [hend]
    exact List.takeWhile_append_dropWhile.symm

/-- Trimming takes no word away. -/
theorem words_trim (t : Text) : words (trim t) = words t := by
  obtain ⟨before, behind, hbefore, hbehind, ht⟩ := exists_blanks_around t
  have hblank : ∀ c ∈ behind.head?, isBlank c = true := by
    intro c hc
    exact List.all_eq_true.mp hbehind c (List.mem_of_mem_head? hc)
  conv_rhs => rw [ht]
  rw [words_blanks_append hbefore, words_append hblank,
    words_eq_iff.mpr (spelled_nil_iff.mpr hbehind), List.append_nil]

/-- The only word of a trimmed text is all of it. -/
theorem Spelled.eq_of_isTrimmed {w t : Text} (h : Spelled [w] t) (ht : IsTrimmed t) : t = w := by
  cases h with
  | blank hc _ =>
      have hhead := ht.1 _ rfl
      rw [hc] at hhead
      exact nomatch hhead
  | @word _ _ rest hw _ hrest =>
      rcases List.eq_nil_or_concat rest with rfl | ⟨front, last, rfl⟩
      · exact List.append_nil w
      · rw [List.concat_eq_append] at hrest ht
        have hblank : isBlank last = true :=
          List.all_eq_true.mp (spelled_nil_iff.mp hrest) last (List.mem_append_right _ (by simp))
        have hlast : isBlank last = false := by
          refine ht.2 last ?_
          rw [← List.append_assoc, List.getLast?_concat]
          rfl
        rw [hblank] at hlast
        exact nomatch hlast

/-- A trimmed text is a word exactly if it has one word. -/
theorem IsTrimmed.isWord_iff {t : Text} (ht : IsTrimmed t) : IsWord t ↔ (words t).length = 1 := by
  constructor
  · intro h
    rw [words_eq_iff.mpr (.single h)]
    rfl
  · intro h
    obtain ⟨w, hw⟩ := List.length_eq_one_iff.mp h
    have hspelled := words_eq_iff.mp hw
    rw [hspelled.eq_of_isTrimmed ht]
    exact hspelled.isWord w List.mem_cons_self

end PointerBindings.Text
