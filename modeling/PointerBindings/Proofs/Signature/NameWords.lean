import PointerBindings.Proofs.Signature.Grammar

/-! # Names of several words — how a line is read that has words to spare

    A line ought to read `Return Name(` with one word for each of the two.  The reader ends the
    return type at the first space and takes all that follows up to the bracket for the name, so
    words to spare stay in the name.  No word is lost (`Signature.ofLine_name_isWord_iff`), but
    the name is a single word only if the line has no more of them in front of its bracket than
    the return type and one, which is not so for `unsigned int f()`
    (`Signature.name_of_several_words`). -/

namespace PointerBindings

open Text

/-! ## Fronts -/

/-- What stands in front of the first occurrence of a character. -/
def Text.upTo (c : Char) (t : Text) : Text :=
  t.takeWhile (· ≠ c)

theorem Text.upTo_append_cons {c : Char} {before : Text} (after : Text) (h : c ∉ before) :
    upTo c (before ++ c :: after) = before := by
  have hbefore : ∀ d ∈ before, decide (d ≠ c) = true := by
    intro d hd
    exact decide_eq_true fun heq => h (heq ▸ hd)
  rw [upTo, List.takeWhile_append_of_pos hbefore, List.takeWhile_cons_of_neg (by simp),
    List.append_nil]

/-- The line is put together so that its return type stands in front of the first space, and the
    return type, a space and the text of the name in front of the first bracket. -/
theorem LinePieces.Cuts.upTo_eq {line : Text} {p : LinePieces} (h : p.Cuts line) :
    upTo ' ' line = p.returnType ∧ upTo '(' line = p.returnType ++ ' ' :: p.nameText := by
  have hopening : '(' ∉ p.returnType ++ ' ' :: p.nameText := by
    intro hm
    rcases List.mem_append.mp hm with hreturn | hname
    · exact h.opening_notMem_returnType hreturn
    · rcases List.mem_cons.mp hname with heq | hname
      · exact absurd heq (by decide)
      · exact h.opening_notMem_nameText hname
  have hline : line = (p.returnType ++ ' ' :: p.nameText)
      ++ '(' :: (p.parameterText ++ ')' :: p.conventionText) := by
    rw [h.line_eq, List.append_assoc, List.cons_append]
  constructor
  · rw [h.line_eq, upTo_append_cons _ h.space_notMem_returnType]
  · rw [hline, upTo_append_cons _ hopening]

/-! ## Names -/

/-- **How many words a name has.**  Of a line that is read, the words in front of the first
    bracket are those in front of the first space, which make the return type, and behind them
    those of the name.  So the name is a single word exactly if there is one word more in front of
    the bracket than in front of the space. -/
theorem Signature.ofLine_name_isWord_iff {line : Text} {s : Signature}
    (h : Signature.ofLine line = .ok s) :
    s.returnType = upTo ' ' (trim line)
      ∧ words (upTo '(' (trim line)) = words s.returnType ++ words s.name
      ∧ (IsWord s.name
        ↔ (words (upTo '(' (trim line))).length = (words (upTo ' ' (trim line))).length + 1) := by
  obtain ⟨p, hp⟩ := Signature.ofTrimmed_eq_ok_iff.mp h
  obtain ⟨hspace, hopening⟩ := hp.cuts.upTo_eq
  have hreturn : s.returnType = upTo ' ' (trim line) := hp.returnType_eq.trans hspace.symm
  have hname : words (' ' :: p.nameText) = words s.name := by
    rw [hp.name_eq, words_trim]
    exact words_blanks_append (show allBlank [' '] = true from rfl) p.nameText
  have hwords : words (upTo '(' (trim line)) = words s.returnType ++ words s.name := by
    rw [hopening, words_append (by simp [isBlank]), hname, hp.returnType_eq]
  have htrimmed : IsTrimmed s.name := by
    rw [hp.name_eq]
    exact isTrimmed_trim p.nameText
  refine ⟨hreturn, hwords, ?_⟩
  rw [htrimmed.isWord_iff, hwords, ← hreturn, List.length_append]
  omega

/-- Where a tab parts the words in front of the first space, both of them are the return type and
    the name is a single word; behind the space they stay in the name. -/
theorem Signature.ofLine_name_isWord_iff_tab :
    (Signature.ofLine " long\tint f ()".toList
        = .ok { name := "f".toList, returnType := "long\tint".toList } ∧ IsWord "f".toList)
      ∧ Signature.ofLine " long int\tf ()".toList
        = .ok { name := "int\tf".toList, returnType := "long".toList }
      ∧ ¬ IsWord "int\tf".toList := by
  have htype : Signature.ofLine " long\tint f ()".toList
      = .ok { name := "f".toList, returnType := "long\tint".toList } := rfl
  have hname : Signature.ofLine " long int\tf ()".toList
      = .ok { name := "int\tf".toList, returnType := "long".toList } := rfl
  refine ⟨⟨htype, ?_⟩, hname, ?_⟩
  · exact (Signature.ofLine_name_isWord_iff htype).2.2.mpr (by decide)
  · rw [(Signature.ofLine_name_isWord_iff hname).2.2]
    decide

/-- A line is read whose return type has two words: the second of them becomes part of the
    name. -/
theorem Signature.name_of_several_words :
    Signature.ofLine "unsigned int f()".toList
        = .ok { name := "int f".toList, returnType := "unsigned".toList }
      ∧ ¬ IsWord "int f".toList :=
  ⟨rfl, by decide⟩

end PointerBindings
