import Mathlib.Data.List.Forall2
import PointerBindings.Proofs.CType.Stars
import PointerBindings.Proofs.Text.Blank

/-! # Qualifiers — words of a spelling that do not show in the text

    A spelling is looked up and handed on only with its qualifiers left out and its words one
    space apart.  So two types that are spelled alike but for qualifiers and blanks, node by
    node, go on together from step to step (`CType.GoesOn.requalified`) and end alike
    (`CType.EndsAs.requalified`); and neither a tag taken off the front nor the stars put
    behind make a qualifier of another word (`CType.qualifiers_do_not_show`). -/

namespace PointerBindings

open Text

/-! ## Spellings -/

/-- The word qualifies a type. -/
def IsQualifier (w : Text) : Prop :=
  w = "const".toList ∨ w = "volatile".toList ∨ w = "restrict".toList

instance (w : Text) : Decidable (IsQualifier w) :=
  inferInstanceAs (Decidable (_ ∨ _))

/-- The second words are the first ones with qualifiers written among them or left out. -/
inductive RequalifiedWords : List Text → List Text → Prop where
  | nil : RequalifiedWords [] []
  | keep (w : Text) {ws vs : List Text} (rest : RequalifiedWords ws vs) :
      RequalifiedWords (w :: ws) (w :: vs)
  | insert {q : Text} {ws vs : List Text} (hq : IsQualifier q) (rest : RequalifiedWords ws vs) :
      RequalifiedWords ws (q :: vs)
  | remove {q : Text} {ws vs : List Text} (hq : IsQualifier q) (rest : RequalifiedWords ws vs) :
      RequalifiedWords (q :: ws) vs

/-- The spellings have the same words but for qualifiers, with any blanks around them. -/
def RequalifiedSpelling (spelling other : Text) : Prop :=
  ∃ ws vs, Spelled ws spelling ∧ Spelled vs other ∧ RequalifiedWords ws vs

theorem qualifierWords_contains_iff {w : Text} :
    qualifierWords.contains w = true ↔ IsQualifier w := by
  simp [qualifierWords, IsQualifier]

/-- Whatever qualifiers there were, the other words are left. -/
theorem RequalifiedWords.filter_eq {ws vs : List Text} (h : RequalifiedWords ws vs) :
    ws.filter (fun w => !qualifierWords.contains w)
      = vs.filter (fun w => !qualifierWords.contains w) := by
  have hdropped {q : Text} (hq : IsQualifier q) : ¬ (!qualifierWords.contains q) = true := by
    rw [qualifierWords_contains_iff.mpr hq]
    exact Bool.false_ne_true
  induction h with
  | nil => rfl
  | keep w rest ih => rw [List.filter_cons, List.filter_cons, ih]
  | insert hq rest ih => rw [ih, List.filter_cons, if_neg (hdropped hq)]
  | remove hq rest ih => rw [List.filter_cons, if_neg (hdropped hq), ih]

theorem RequalifiedSpelling.cleanSpelling_eq {spelling other : Text}
    (h : RequalifiedSpelling spelling other) : cleanSpelling spelling = cleanSpelling other := by
  obtain ⟨ws, vs, hws, hvs, hrequalified⟩ := h
  rw [cleanSpelling, cleanSpelling, words_eq_iff.mpr hws, words_eq_iff.mpr hvs,
    hrequalified.filter_eq]

/-! ## Texts without qualifiers -/

/-- No word of the text qualifies a type. -/
def Unqualified (text : Text) : Prop :=
  ∀ w ∈ words text, ¬ IsQualifier w

instance (text : Text) : Decidable (Unqualified text) :=
  inferInstanceAs (Decidable (∀ w ∈ words text, ¬ IsQualifier w))

theorem cleanSpelling_unqualified (spelling : Text) : Unqualified (cleanSpelling spelling) := by
  have hwords : words (cleanSpelling spelling)
      = (words spelling).filter fun w => !qualifierWords.contains w :=
    words_eq_iff.mpr (spelled_joined fun w hw =>
      (spelled_words spelling).isWord w (List.mem_of_mem_filter hw))
  intro w hw hqualifier
  rw [hwords] at hw
  have hkept := List.of_mem_filter hw
  rw [qualifierWords_contains_iff.mpr hqualifier] at hkept
  cases hkept

/-- A tag that is taken off is a word of its own. -/
theorem mem_words_stripTag {w spelling : Text} (h : w ∈ words (stripTag spelling)) :
    w ∈ words spelling := by
  have hspace : ∀ tag ∈ tagWords, tag = tag.dropLast ++ [' '] := by decide
  rw [stripTag] at h
  cases hfound : tagWords.findSome? fun tag => after? tag spelling with
  | none => rwa [hfound] at h
  | some rest =>
      rw [hfound, Option.getD_some] at h
      obtain ⟨tag, htag, hafter⟩ := List.exists_of_findSome?_eq_some hfound
      rw [after?_eq_some_iff.mp hafter, hspace tag htag, List.append_assoc, List.singleton_append,
        words_append (by rintro c ⟨⟩; rfl)]
      refine List.mem_append_right _ ?_
      rwa [← List.singleton_append, words_blanks_append rfl]

theorem Unqualified.stripTag {spelling : Text} (h : Unqualified spelling) :
    Unqualified (stripTag spelling) :=
  fun w hw => h w (mem_words_stripTag hw)

/-- Stars make no qualifier: each is in a word that it makes longer. -/
theorem Unqualified.withStars {text : Text} (h : Unqualified text) (stars : Nat) :
    Unqualified (CType.withStars text stars) := by
  have hstar {q : Text} (hq : IsQualifier q) : '*' ∉ q := by
    rcases hq with rfl | rfl | rfl
    · decide
    · decide
    · decide
  induction stars with
  | zero => rwa [CType.withStars_zero]
  | succ stars ih =>
      have hspelled := spelled_words (CType.withStars text stars)
      obtain ⟨vs, hvs, hmem⟩ := hspelled.concat (c := '*') rfl
      intro w hw hqualifier
      rw [CType.withStars_succ, words_eq_iff.mpr hvs] at hw
      rcases hmem w hw with hbefore | hlonger
      · exact ih w hbefore hqualifier
      · exact hstar hqualifier hlonger

namespace CType

/-! ## Types -/

/-- The types are the same but for qualifiers and blanks in the spellings of their nodes. -/
inductive Requalified : CType → CType → Prop where
  | mk {kind : CTypeKind} {spelling spelling' : Text}
      {pointee pointee' element element' named named' : Option CType}
      {canonical canonical' result result' : Option CType} {arguments arguments' : List CType}
      {variadic : Bool} (hspelling : RequalifiedSpelling spelling spelling')
      (hpointee : Option.Rel Requalified pointee pointee')
      (helement : Option.Rel Requalified element element')
      (hnamed : Option.Rel Requalified named named')
      (hcanonical : Option.Rel Requalified canonical canonical')
      (hresult : Option.Rel Requalified result result')
      (harguments : List.Forall₂ Requalified arguments arguments') :
      Requalified (.mk kind spelling pointee element named canonical result arguments variadic)
        (.mk kind spelling' pointee' element' named' canonical' result' arguments' variadic)

variable {word : WordSize} {t t' next last : CType} {stars layers : Nat} {leaf : Text}

section Answers

theorem absent_requalified : Requalified absent absent :=
  .mk ⟨[], [], .nil, .nil, .nil⟩ .none .none .none .none .none .nil

/-- Types that are missing on both sides are replaced alike. -/
theorem getD_requalified {u u' : Option CType} (h : Option.Rel Requalified u u')
    (hmissing : Requalified t t') : Requalified (u.getD t) (u'.getD t') := by
  cases h with
  | some hu => exact hu
  | none => exact hmissing

theorem Requalified.kind_eq (h : Requalified t t') : t'.kind = t.kind := by
  cases h
  rfl

theorem Requalified.cleanSpelling_eq (h : Requalified t t') :
    cleanSpelling t'.spelling = cleanSpelling t.spelling := by
  cases h with
  | mk hspelling => exact hspelling.cleanSpelling_eq.symm

theorem Requalified.known?_eq (h : Requalified t t') : t'.known? word = t.known? word := by
  rw [known?, known?, h.cleanSpelling_eq]

theorem Requalified.spelledText_eq (h : Requalified t t') : t'.spelledText = t.spelledText := by
  rw [spelledText, spelledText, h.cleanSpelling_eq]

theorem Requalified.pointee (h : Requalified t t') : Requalified t.pointee t'.pointee := by
  cases h with
  | mk _ hpointee => exact getD_requalified hpointee absent_requalified

theorem Requalified.element (h : Requalified t t') : Requalified t.element t'.element := by
  cases h with
  | mk _ _ helement => exact getD_requalified helement absent_requalified

theorem Requalified.named (h : Requalified t t') : Requalified t.named t'.named := by
  cases h with
  | mk _ _ _ hnamed => exact getD_requalified hnamed absent_requalified

theorem Requalified.canonical (h : Requalified t t') : Requalified t.canonical t'.canonical := by
  have hself := h
  cases h with
  | mk _ _ _ _ hcanonical => exact getD_requalified hcanonical hself

theorem Requalified.isFunction_eq (h : Requalified t t') : t'.isFunction = t.isFunction := by
  rw [isFunction, isFunction, h.canonical.kind_eq]

end Answers

/-! ## Walks side by side -/

/-- Where one type goes on, so does the other. -/
theorem GoesOn.requalified (hstep : GoesOn word t stars next) (h : Requalified t t') :
    ∃ next', GoesOn word t' stars next' ∧ Requalified next next' := by
  cases hstep with
  | pointer hkind hfunction hchar =>
      refine ⟨t'.pointee, .pointer ?_ ?_ ?_, h.pointee⟩
      · rw [h.kind_eq, hkind]
      · rw [h.pointee.isFunction_eq, hfunction]
      · rw [h.pointee.kind_eq, hchar]
  | array hkind => exact ⟨t'.element, .array (h.kind_eq.trans hkind), h.element⟩
  | elaborated hkind hname hnamed =>
      refine ⟨t'.named, .elaborated ?_ ?_ ?_, h.named⟩
      · rw [h.kind_eq, hkind]
      · rw [h.known?_eq, hname]
      · rwa [h.named.kind_eq]
  | typeAlias hkind hname hrecord henum hfunction =>
      refine ⟨t'.canonical, .typeAlias ?_ ?_ ?_ ?_ ?_, h.canonical⟩
      · rw [h.kind_eq, hkind]
      · rw [h.known?_eq, hname]
      · rwa [h.canonical.kind_eq]
      · rwa [h.canonical.kind_eq]
      · rwa [h.canonical.kind_eq]

/-- Where one type is an end, so is the other, with the same text. -/
theorem EndsAs.requalified (hend : EndsAs word t leaf) (h : Requalified t t') :
    EndsAs word t' leaf := by
  cases hend with
  | builtin hkind => exact .builtin (h.kind_eq.trans hkind)
  | tagged hkind =>
      rw [← h.kind_eq] at hkind
      rw [← h.cleanSpelling_eq]
      exact .tagged hkind
  | known hkind hname =>
      rw [← h.kind_eq] at hkind
      exact .known hkind (h.known?_eq.trans hname)
  | keptName hkind hname hkept =>
      rw [← h.canonical.kind_eq] at hkept
      rw [← h.cleanSpelling_eq]
      exact .keptName (h.kind_eq.trans hkind) (h.known?_eq.trans hname) hkept
  | unnamed hkind hname hnamed =>
      rw [← h.cleanSpelling_eq]
      exact .unnamed (h.kind_eq.trans hkind) (h.known?_eq.trans hname)
        (h.named.kind_eq.trans hnamed)
  | spelled hkind =>
      rw [← h.kind_eq] at hkind
      rw [← h.spelledText_eq]
      exact .spelled hkind
  | string hkind hfunction hchar =>
      rw [← h.pointee.kind_eq] at hchar
      exact .string (h.kind_eq.trans hkind) (h.pointee.isFunction_eq.trans hfunction) hchar
  | callback hkind hfunction =>
      exact .callback (h.kind_eq.trans hkind) (h.pointee.isFunction_eq.trans hfunction)
  | namedCallback hkind hname hfunction =>
      rw [← h.canonical.kind_eq] at hfunction
      exact .namedCallback (h.kind_eq.trans hkind) (h.known?_eq.trans hname) hfunction

theorem WalksTo.requalified (hwalk : WalksTo word t layers last) (h : Requalified t t') :
    ∃ last', WalksTo word t' layers last' ∧ Requalified last last' := by
  induction hwalk generalizing t' with
  | here => exact ⟨t', .here, h⟩
  | step hstep rest ih =>
      obtain ⟨next', hstep', hnext⟩ := hstep.requalified h
      obtain ⟨last', rest', hlast⟩ := ih hnext
      exact ⟨last', .step hstep' rest', hlast⟩

/-! ## Ends without qualifiers -/

theorem BuiltinKind.unmanaged_unqualified (b : BuiltinKind) : Unqualified b.unmanaged := by
  cases b with
  | _ => decide

theorem known?_unqualified {known : Text} (h : t.known? word = some known) : Unqualified known := by
  have hall : ∀ entry ∈ knownTypedefs word, Unqualified entry.2 := by
    cases word with
    | intPtr => decide
    | nint => decide
  exact hall _ (mem_of_known? h)

theorem spelledText_unqualified (t : CType) : Unqualified t.spelledText := by
  rw [spelledText]
  split
  · decide
  · exact cleanSpelling_unqualified t.spelling

theorem EndsAs.unqualified (h : EndsAs word t leaf) : Unqualified leaf := by
  cases h with
  | builtin => exact BuiltinKind.unmanaged_unqualified _
  | tagged => exact (cleanSpelling_unqualified _).stripTag
  | known hkind hname => exact known?_unqualified hname
  | keptName => exact cleanSpelling_unqualified _
  | unnamed => exact (cleanSpelling_unqualified _).stripTag
  | spelled => exact spelledText_unqualified t
  | string => decide
  | callback => decide
  | namedCallback => decide

/-- **Qualifiers do not show.**  Where no typedef leads to another name, a type has a text, every
    type that is spelled like it but for qualifiers and blanks has the same one, and none of its
    words is a qualifier. -/
theorem qualifiers_do_not_show (hresolve : t.AliasesResolve word) (h : Requalified t t') :
    ∃ text, t.unmanaged? word = some text ∧ t'.unmanaged? word = some text
      ∧ ∀ w ∈ words text, ¬ IsQualifier w := by
  obtain ⟨layers, last, leaf, hwalk, hend⟩ := exists_end_of_acc hresolve.acc
  obtain ⟨last', hwalk', hlast⟩ := hwalk.requalified h
  exact ⟨_, hwalk.unmanaged?_eq hend, hwalk'.unmanaged?_eq (hend.requalified hlast),
    hend.unqualified.withStars layers⟩

/-- A record, written in the given way. -/
def recordAs (spelling : Text) : CType :=
  .mk .record spelling none none none none none [] false

/-- The type `const struct Point *`. -/
def constPoint : CType :=
  pointerTo "const struct Point *".toList (recordAs "const struct Point".toList)

/-- The type `struct Point *`, its record written in another way. -/
def plainPoint : CType :=
  pointerTo " struct\tPoint  *".toList (recordAs "struct Point volatile".toList)

/-- A pointer to a constant record has the text of a pointer to a variable one. -/
theorem qualifiers_do_not_show_point :
    constPoint.AliasesResolve .nint ∧ Requalified constPoint plainPoint
      ∧ constPoint.unmanaged? .nint = some "Point*".toList
      ∧ plainPoint.unmanaged? .nint = some "Point*".toList
      ∧ ∀ w ∈ words "Point*".toList, ¬ IsQualifier w := by
  have hrecord : (recordAs "const struct Point".toList).AliasesResolve .nint := by
    refine .of_parts nofun fun u hpart => ?_
    cases hpart with
    | argument hmem => cases hmem
  have hresolve : constPoint.AliasesResolve .nint := hrecord.pointerTo _
  have hrecords : RequalifiedSpelling "const struct Point".toList "struct Point volatile".toList := by
    refine ⟨["const".toList, "struct".toList, "Point".toList],
      ["struct".toList, "Point".toList, "volatile".toList],
      words_eq_iff.mp (by decide), words_eq_iff.mp (by decide), ?_⟩
    exact .remove (by decide) (.keep _ (.keep _ (.insert (by decide) .nil)))
  have hpointers : RequalifiedSpelling "const struct Point *".toList " struct\tPoint  *".toList := by
    refine ⟨["const".toList, "struct".toList, "Point".toList, "*".toList],
      ["struct".toList, "Point".toList, "*".toList],
      words_eq_iff.mp (by decide), words_eq_iff.mp (by decide), ?_⟩
    exact .remove (by decide) (.keep _ (.keep _ (.keep _ .nil)))
  have hrequalified : Requalified constPoint plainPoint :=
    .mk hpointers (.some (.mk hrecords .none .none .none .none .none .nil))
      .none .none .none .none .nil
  obtain ⟨text, htext, hsame, hclear⟩ := qualifiers_do_not_show hresolve hrequalified
  have heq : text = "Point*".toList := Option.some.inj (htext.symm.trans (by decide))
  rw [heq] at htext hsame hclear
  exact ⟨hresolve, hrequalified, htext, hsame, hclear⟩

end CType

end PointerBindings
