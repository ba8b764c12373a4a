import Mathlib.Data.List.Forall2
import PointerBindings.Proofs.Signature.Grammar

/-! # Round trip — signatures written on lines and read back

    A signature is well formed if each of its fields keeps clear of the characters that
    a line is cut at.  Those are exactly the signatures that lines spell: a well-formed
    one is read back from its line (`Signature.ofLine_toLine`), and whatever is read
    from a line is well formed (`Signature.wellFormed_of_ofLine`). -/

namespace PointerBindings

open Text

/-! ## Well-formed signatures -/

/-- A token: a word without a comma. -/
structure IsToken (w : Text) : Prop extends IsWord w where
  comma_notMem : ',' ∉ w

instance (w : Text) : Decidable (IsToken w) :=
  decidable_of_iff (IsWord w ∧ ',' ∉ w)
    ⟨fun h => ⟨h.1, h.2⟩, fun h => ⟨h.toIsWord, h.comma_notMem⟩⟩

/-- The name is a token, and so is the type but for a direction in front of it. -/
structure Parameter.WellFormed (p : Parameter) : Prop where
  name : IsToken p.name
  type : IsToken p.type ∨ ∃ direction ∈ byRefDirections, ∃ type,
    IsToken type ∧ p.type = direction ++ ' ' :: type

/-- The fields keep clear of the characters that a line is cut at, and of blanks at the
    ends where those are taken off. -/
structure Signature.WellFormed (s : Signature) : Prop where
  returnType_ne_nil : s.returnType ≠ []
  returnType_head : ∀ c ∈ s.returnType.head?, isBlank c = false
  space_notMem_returnType : ' ' ∉ s.returnType
  opening_notMem_returnType : '(' ∉ s.returnType
  name_ne_nil : s.name ≠ []
  trim_name : trim s.name = s.name
  opening_notMem_name : '(' ∉ s.name
  convention : ∀ convention ∈ s.convention,
    convention ≠ [] ∧ trim convention = convention ∧ ')' ∉ convention
  parameters : ∀ p ∈ s.parameters, p.WellFormed

/-! ## Lists of parameters -/

private theorem byRefDirections_isToken : ∀ direction ∈ byRefDirections, IsToken direction := by
  decide

/-- A parameter that is well formed is spelled by the text written for it. -/
theorem Parameter.WellFormed.spells_toText {p : Parameter} (h : p.WellFormed) :
    p.Spells p.toText := by
  obtain ⟨type, name⟩ := p
  obtain ⟨hname, htype⟩ := h
  have hlast : Spelled [name] name := .single hname.toIsWord
  rcases htype with htype | ⟨direction, hd, base, hbase, heq⟩
  · exact .plain (.word_space htype.toIsWord hlast)
  · change type = _ at heq
    subst heq
    refine .directed hd ?_
    have hspelled := Spelled.word_space (byRefDirections_isToken direction hd).toIsWord
      (.word_space hbase.toIsWord hlast)
    show Spelled _ ((direction ++ ' ' :: base) ++ ' ' :: name)
    rw [List.append_assoc, List.cons_append]
    exact hspelled

/-- Blanks in front do not change which parameter a text spells. -/
theorem Parameter.Spells.space {p : Parameter} {text : Text} (h : p.Spells text) :
    p.Spells (' ' :: text) := by
  cases h with
  | plain hspelled => exact .plain (.blank rfl hspelled)
  | directed hd hspelled => exact .directed hd (.blank rfl hspelled)

private theorem Parameter.WellFormed.comma_notMem_toText {p : Parameter} (h : p.WellFormed) :
    ',' ∉ p.toText := by
  have htype : ',' ∉ p.type := by
    rcases h.type with htype | ⟨direction, hd, base, hbase, heq⟩
    · exact htype.comma_notMem
    · have hdirection := (byRefDirections_isToken direction hd).comma_notMem
      rw [heq]
      simp [hdirection, hbase.comma_notMem]
  simp [Parameter.toText, htype, h.name.comma_notMem]

private theorem Parameter.WellFormed.isTrimmed_type {p : Parameter} (h : p.WellFormed) :
    p.type ≠ [] ∧ IsTrimmed p.type := by
  rcases h.type with htype | ⟨direction, hd, base, hbase, heq⟩
  · exact ⟨htype.ne_nil, htype.toIsWord.isTrimmed⟩
  · have hword := (byRefDirections_isToken direction hd).toIsWord
    rw [heq, ← List.singleton_append, ← List.append_assoc]
    refine ⟨List.append_ne_nil_of_right_ne_nil _ hbase.ne_nil, ?_⟩
    exact .append [' '] hword.ne_nil hbase.ne_nil hword.isTrimmed.1 hbase.toIsWord.isTrimmed.2

/-- What is written for a parameter is some text that needs no trimming. -/
theorem Parameter.WellFormed.isTrimmed_toText {p : Parameter} (h : p.WellFormed) :
    p.toText ≠ [] ∧ IsTrimmed p.toText := by
  obtain ⟨hne, htrimmed⟩ := h.isTrimmed_type
  rw [Parameter.toText, ← List.singleton_append, ← List.append_assoc]
  refine ⟨List.append_ne_nil_of_right_ne_nil _ h.name.ne_nil, ?_⟩
  exact .append [' '] hne h.name.ne_nil htrimmed.1 h.name.toIsWord.isTrimmed.2

/-- A written list is cut at its commas into the first text and the others behind a
    space each. -/
private theorem joined_comma_space (t : Text) (texts : List Text) :
    joined ", ".toList (t :: texts) = joined [','] (t :: texts.map (List.cons ' ')) := by
  induction texts generalizing t with
  | nil => rfl
  | cons u texts ih =>
      show List.intercalate _ (t :: u :: texts) = List.intercalate _ (t :: (' ' :: u) :: _)
      rw [List.intercalate_cons_cons, List.intercalate_cons_cons,
        List.intercalate_cons_cons_left]
      show t ++ [',', ' '] ++ joined ", ".toList (u :: texts) = _
      rw [ih u, List.append_assoc, List.append_assoc]
      rfl

/-- Texts that need no trimming make a list that needs none. -/
private theorem isTrimmed_joined {texts : List Text} (hne : texts ≠ [])
    (h : ∀ t ∈ texts, t ≠ [] ∧ IsTrimmed t) (separator : Text) :
    joined separator texts ≠ [] ∧ IsTrimmed (joined separator texts) := by
  induction texts with
  | nil => exact absurd rfl hne
  | cons t texts ih =>
      obtain ⟨ht, htrimmed⟩ := h t List.mem_cons_self
      cases texts with
      | nil =>
          rw [joined, List.intercalate_singleton]
          exact ⟨ht, htrimmed⟩
      | cons u texts =>
          obtain ⟨hrest, hrestTrimmed⟩ :=
            ih (List.cons_ne_nil u texts) fun v hv => h v (List.mem_cons_of_mem t hv)
          rw [joined, List.intercalate_cons_cons]
          exact ⟨List.append_ne_nil_of_right_ne_nil _ hrest,
            .append separator ht hrest htrimmed.1 hrestTrimmed.2⟩

/-- Well-formed parameters are listed by the text written for them. -/
theorem listsParameters_joined {parameters : List Parameter}
    (h : ∀ p ∈ parameters, p.WellFormed) :
    ListsParameters (joined ", ".toList (parameters.map Parameter.toText)) parameters := by
  cases parameters with
  | nil => exact .blank rfl
  | cons p parameters =>
      have htexts : ∀ t ∈ (p :: parameters).map Parameter.toText, t ≠ [] ∧ IsTrimmed t := by
        intro t ht
        obtain ⟨q, hq, heq⟩ := List.mem_map.mp ht
        rw [← heq]
        exact (h q hq).isTrimmed_toText
      have htrim := (isTrimmed_joined (List.cons_ne_nil _ _) htexts ", ".toList).2
      have hjoined := (trim_eq_self_iff.mpr htrim).trans (joined_comma_space _ _)
      refine .pieces hjoined ?_ ?_
      · intro piece hpiece
        rcases List.mem_cons.mp hpiece with heq | hmem
        · rw [heq]
          exact (h p List.mem_cons_self).comma_notMem_toText
        · -- behind the first piece each begins with the space that stood behind a comma
          rw [List.map_map] at hmem
          obtain ⟨q, hq, heq⟩ := List.mem_map.mp hmem
          have hwell := h q (List.mem_cons_of_mem p hq)
          rw [← heq]
          exact List.not_mem_cons_of_ne_of_not_mem (by decide) hwell.comma_notMem_toText
      · refine .cons (h p List.mem_cons_self).spells_toText ?_
        rw [List.map_map, List.forall₂_map_right_iff, List.forall₂_same]
        exact fun q hq => (h q (List.mem_cons_of_mem p hq)).spells_toText.space

/-! ## Writing, then reading -/

/-- What is written behind the list of parameters. -/
def conventionPart (convention : Option Text) : Text :=
  match convention with
  | some convention => ' ' :: convention
  | none => []

private theorem conventionPart_reads {convention : Option Text}
    (h : ∀ c ∈ convention, c ≠ [] ∧ trim c = c ∧ ')' ∉ c) :
    ')' ∉ conventionPart convention ∧ convention
      = if allBlank (conventionPart convention) then none
        else some (trim (conventionPart convention)) := by
  cases convention with
  | none => exact ⟨List.not_mem_nil, rfl⟩
  | some c =>
      obtain ⟨hne, htrim, hclosing⟩ := h c rfl
      have hpart : trim (conventionPart (some c)) = c := (trim_cons_of_blank rfl).trans htrim
      constructor
      · exact List.not_mem_cons_of_ne_of_not_mem (by decide) hclosing
      · rw [if_neg fun hb => hne (hpart.symm.trans (trim_eq_nil_iff.mpr hb)), hpart]

/-- The line of a signature is put together from four pieces. -/
theorem Signature.toLine_eq (s : Signature) :
    s.toLine = s.returnType ++ ' ' :: (s.name ++ '(' ::
      (joined ", ".toList (s.parameters.map Parameter.toText)
        ++ ')' :: conventionPart s.convention)) := by
  simp only [Signature.toLine, List.append_assoc, List.cons_append]
  rfl

/-- The line of a well-formed signature needs no trimming. -/
theorem Signature.WellFormed.isTrimmed_toLine {s : Signature} (h : s.WellFormed) :
    IsTrimmed s.toLine := by
  have hline : s.toLine = s.returnType ++ (' ' :: (s.name ++ '(' ::
      joined ", ".toList (s.parameters.map Parameter.toText)))
      ++ ')' :: conventionPart s.convention := by
    rw [Signature.toLine_eq]
    simp only [List.append_assoc, List.cons_append]
  rw [hline]
  refine .append _ h.returnType_ne_nil (List.cons_ne_nil _ _) h.returnType_head ?_
  -- the line ends with the bracket, or else where its convention ends
  intro c hc
  cases hconvention : s.convention with
  | none =>
      rw [hconvention] at hc
      cases hc
      rfl
  | some convention =>
      obtain ⟨hne, htrim, -⟩ := h.convention convention hconvention
      rw [hconvention] at hc
      refine (trim_eq_self_iff.mp htrim).2 c ?_
      rwa [conventionPart, List.getLast?_cons_cons, List.getLast?_cons_of_ne_nil hne] at hc

/-- **Read back**: a well-formed signature is what its line spells. -/
theorem Signature.ofLine_toLine {s : Signature} (h : s.WellFormed) :
    Signature.ofLine s.toLine = .ok s := by
  have hconvention := conventionPart_reads h.convention
  rw [Signature.ofLine, trim_eq_self_iff.mpr h.isTrimmed_toLine, Signature.ofTrimmed_eq_ok_iff]
  refine ⟨⟨s.returnType, s.name, joined ", ".toList (s.parameters.map Parameter.toText),
    conventionPart s.convention⟩, ?_⟩
  exact {
    cuts := ⟨s.toLine_eq, h.space_notMem_returnType, h.opening_notMem_returnType,
      h.opening_notMem_name, hconvention.1⟩
    named := Bool.eq_false_iff.mpr fun hb =>
      h.name_ne_nil (h.trim_name.symm.trans (trim_eq_nil_iff.mpr hb))
    lists := listsParameters_joined h.parameters
    returnType_eq := rfl
    name_eq := h.trim_name.symm
    convention_eq := hconvention.2 }

/-! ## Reading, then writing -/

/-- What a text without a comma spells is well formed. -/
theorem Parameter.Spells.wellFormed {p : Parameter} {text : Text} (h : p.Spells text)
    (hcomma : ',' ∉ text) : p.WellFormed := by
  have token : ∀ {ws : List Text} {w : Text}, Spelled ws text → w ∈ ws → IsToken w :=
    fun hs hw => ⟨hs.isWord _ hw, fun hm => hcomma (hs.mem_text _ hw _ hm)⟩
  cases h with
  | plain hs => exact ⟨token hs (by simp), Or.inl (token hs (by simp))⟩
  | @directed direction type name _ hd hs =>
      exact ⟨token hs (by simp), Or.inr ⟨direction, hd, type, token hs (by simp), rfl⟩⟩

private theorem ListsParameters.wellFormed {text : Text} {parameters : List Parameter}
    (h : ListsParameters text parameters) : ∀ p ∈ parameters, p.WellFormed := by
  cases h with
  | blank _ => intro p hp; exact nomatch hp
  | void _ => intro p hp; exact nomatch hp
  | pieces hjoined hclear hspells =>
      clear hjoined
      intro p hp
      induction hspells with
      | nil => exact nomatch hp
      | @cons q piece _ _ hq _ ih =>
          rcases List.mem_cons.mp hp with heq | hmem
          · rw [heq]
            exact hq.wellFormed (hclear piece List.mem_cons_self)
          · exact ih (fun t ht => hclear t (List.mem_cons_of_mem piece ht)) hmem

/-- **Nothing else is read**: a signature that a line spells is well formed. -/
theorem Signature.wellFormed_of_ofLine {line : Text} {s : Signature}
    (h : Signature.ofLine line = .ok s) : s.WellFormed := by
  obtain ⟨p, hcuts, hnamed, hlists, hreturn, hname, hconvention⟩ :=
    Signature.ofTrimmed_eq_ok_iff.mp h
  have hne := hcuts.returnType_ne_nil (isTrimmed_trim line)
  have hnameNe : trim p.nameText ≠ [] := fun hnil =>
    Bool.false_ne_true (hnamed.symm.trans (trim_eq_nil_iff.mp hnil))
  refine {
    returnType_ne_nil := by rw [hreturn]; exact hne
    returnType_head := ?_
    space_notMem_returnType := by rw [hreturn]; exact hcuts.space_notMem_returnType
    opening_notMem_returnType := by rw [hreturn]; exact hcuts.opening_notMem_returnType
    name_ne_nil := by rw [hname]; exact hnameNe
    trim_name := by rw [hname]; exact trim_trim p.nameText
    opening_notMem_name := by
      rw [hname]
      exact fun hm => hcuts.opening_notMem_nameText (mem_of_mem_trim hm)
    convention := ?_
    parameters := hlists.wellFormed }
  · -- the return type begins where the trimmed line does
    intro c hc
    rw [hreturn] at hc
    refine (isTrimmed_trim line).1 c ?_
    rw [hcuts.line_eq, List.head?_append_of_ne_nil _ hne]
    exact hc
  · intro convention hc
    rw [hconvention] at hc
    by_cases hblank : allBlank p.conventionText = true
    · rw [if_pos hblank] at hc
      exact nomatch hc
    · rw [if_neg hblank] at hc
      cases hc
      exact ⟨fun hnil => hblank (trim_eq_nil_iff.mp hnil), trim_trim p.conventionText,
        fun hm => hcuts.closing_notMem_conventionText (mem_of_mem_trim hm)⟩

end PointerBindings
