import PointerBindings.Proofs.CType.Stars
import PointerBindings.Proofs.Unmanaged.Idempotence

/-! # Word size — where the spelling of integers of pointer size shows

    Both kinds of types know these integers by name only: C types by the name of a typedef,
    managed ones by their full name.  The walk over a C type takes the same steps whatever the
    word size, and only an end that is known by name may have another text
    (`CType.unmanaged?_other_word`); of the framework types only two are spelled natively under
    one word size alone (`nativeBase_word`).  So the texts under the two word sizes are the same,
    or two spellings of the same integer with the same markers behind
    (`word_shows_in_words_only`). -/

namespace PointerBindings

open Text

/-- The texts are the same, or the two spellings of an integer of pointer size with the same
    markers behind them, each of which is one of the given. -/
inductive WordsApart (allowed : List Marker) : Text → Text → Prop where
  | same (text : Text) : WordsApart allowed text text
  | signed (markers : List Marker) (h : ∀ m ∈ markers, m ∈ allowed) :
      WordsApart allowed ("IntPtr".toList ++ spellMarkers markers)
        ("nint".toList ++ spellMarkers markers)
  | unsigned (markers : List Marker) (h : ∀ m ∈ markers, m ∈ allowed) :
      WordsApart allowed ("UIntPtr".toList ++ spellMarkers markers)
        ("nuint".toList ++ spellMarkers markers)

/-! ## C types -/

/-- The texts are the same, or what the two word sizes make of the same integer. -/
def SameWord (word other : WordSize) (text text' : Text) : Prop :=
  text = text' ∨ text = word.signedWord ∧ text' = other.signedWord
    ∨ text = word.unsignedWord ∧ text' = other.unsignedWord

namespace CType

variable {word : WordSize} {t next last : CType} {stars layers : Nat} {leaf : Text}

/-- A name that is known under one word size is known under every other. -/
theorem known?_other_word {known : Text} (h : t.known? word = some known) (other : WordSize) :
    ∃ known', t.known? other = some known' ∧ SameWord word other known known' := by
  refine lookup_of_sameKeys ?_ h
  have hsigned : SameWord word other word.signedWord other.signedWord := .inr (.inl ⟨rfl, rfl⟩)
  have hunsigned : SameWord word other word.unsignedWord other.unsignedWord :=
    .inr (.inr ⟨rfl, rfl⟩)
  exact .cons ⟨rfl, hunsigned⟩ (.cons ⟨rfl, hunsigned⟩ (.cons ⟨rfl, hsigned⟩
    (.cons ⟨rfl, hsigned⟩ (.cons ⟨rfl, hsigned⟩ (.cons ⟨rfl, .inl rfl⟩ .nil)))))

theorem known?_none_other_word (h : t.known? word = none) (other : WordSize) :
    t.known? other = none := by
  cases hother : t.known? other with
  | none => rfl
  | some known =>
      obtain ⟨known', hknown, -⟩ := known?_other_word hother word
      rw [h] at hknown
      cases hknown

/-- The word size is not asked for before the walk has come to an end. -/
theorem GoesOn.other_word (h : GoesOn word t stars next) (other : WordSize) :
    GoesOn other t stars next := by
  cases h with
  | pointer hkind hfunction hchar => exact .pointer hkind hfunction hchar
  | array hkind => exact .array hkind
  | elaborated hkind hname hnamed =>
      exact .elaborated hkind (known?_none_other_word hname other) hnamed
  | typeAlias hkind hname hrecord henum hfunction =>
      exact .typeAlias hkind (known?_none_other_word hname other) hrecord henum hfunction

theorem WalksTo.other_word (h : WalksTo word t layers last) (other : WordSize) :
    WalksTo other t layers last := by
  induction h with
  | here => exact .here
  | step hstep _ ih => exact .step (hstep.other_word other) ih

/-- An end is one under every word size. -/
theorem EndsAs.other_word (h : EndsAs word t leaf) (other : WordSize) :
    ∃ leaf', EndsAs other t leaf' ∧ SameWord word other leaf leaf' := by
  cases h with
  | builtin hkind => exact ⟨_, .builtin hkind, .inl rfl⟩
  | tagged hkind => exact ⟨_, .tagged hkind, .inl rfl⟩
  | known hkind hname =>
      obtain ⟨known', hknown, hsame⟩ := known?_other_word hname other
      exact ⟨known', .known hkind hknown, hsame⟩
  | keptName hkind hname hkept =>
      exact ⟨_, .keptName hkind (known?_none_other_word hname other) hkept, .inl rfl⟩
  | unnamed hkind hname hnamed =>
      exact ⟨_, .unnamed hkind (known?_none_other_word hname other) hnamed, .inl rfl⟩
  | spelled hkind => exact ⟨_, .spelled hkind, .inl rfl⟩
  | string hkind hfunction hchar => exact ⟨_, .string hkind hfunction hchar, .inl rfl⟩
  | callback hkind hfunction => exact ⟨_, .callback hkind hfunction, .inl rfl⟩
  | namedCallback hkind hname hfunction =>
      exact ⟨_, .namedCallback hkind (known?_none_other_word hname other) hfunction, .inl rfl⟩

/-- A type with a text has one under every word size, and both have the same stars. -/
theorem unmanaged?_other_word {text : Text} (h : t.unmanaged? word = some text)
    (other : WordSize) :
    ∃ leaf leaf' stars, text = withStars leaf stars
      ∧ t.unmanaged? other = some (withStars leaf' stars) ∧ SameWord word other leaf leaf' := by
  obtain ⟨layers, last, leaf, hwalk, hend, rfl⟩ := unmanaged?_eq_some_iff.mp h
  obtain ⟨leaf', hend', hsame⟩ := hend.other_word other
  exact ⟨leaf, leaf', layers, rfl, (hwalk.other_word other).unmanaged?_eq hend', hsame⟩

theorem withStars_eq (text : Text) (stars : Nat) :
    withStars text stars = text ++ spellMarkers (List.replicate stars .pointer) := by
  induction stars with
  | zero => rfl
  | succ stars ih =>
      rw [withStars_succ, ih, List.replicate_succ', spellMarkers_append, List.append_assoc]
      rfl

/-- The word size shows in a C type in front of its stars, if anywhere. -/
theorem unmanaged?_wordsApart (t : CType) :
    Option.Rel (WordsApart [.pointer]) (t.unmanaged? .intPtr) (t.unmanaged? .nint) := by
  cases htext : t.unmanaged? .intPtr with
  | none =>
      cases hother : t.unmanaged? .nint with
      | none => exact .none
      | some text =>
          obtain ⟨-, leaf, stars, -, hnative, -⟩ := unmanaged?_other_word hother .intPtr
          rw [htext] at hnative
          cases hnative
  | some text =>
      obtain ⟨leaf, leaf', stars, rfl, hnative, hsame⟩ := unmanaged?_other_word htext .nint
      have hpointers : ∀ m ∈ List.replicate stars Marker.pointer, m ∈ [Marker.pointer] :=
        fun m hm => List.mem_singleton.mpr (List.eq_of_mem_replicate hm)
      rw [hnative]
      refine .some ?_
      rcases hsame with rfl | ⟨rfl, rfl⟩ | ⟨rfl, rfl⟩
      · exact .same _
      · rw [withStars_eq, withStars_eq]
        exact .signed _ hpointers
      · rw [withStars_eq, withStars_eq]
        exact .unsigned _ hpointers

end CType

/-! ## Managed types -/

theorem primitiveSpelling?_nint (fullName : Text) :
    primitiveSpelling? .nint fullName
      = (primitiveSpelling? .intPtr fullName).or (wordSpellings.lookup fullName) :=
  List.lookup_append

/-- Two framework types are integers of pointer size. -/
theorem wordSpellings_lookup {fullName native : Text}
    (h : wordSpellings.lookup fullName = some native) :
    fullName = "System.IntPtr".toList ∧ native = "nint".toList
      ∨ fullName = "System.UIntPtr".toList ∧ native = "nuint".toList := by
  have hentry := mem_of_lookup h
  simpa [wordSpellings] using hentry

/-- The simple name of a full name with a point. -/
theorem eq_behindLastPoint {namespaceName plain fullName : Text} (hplain : '.' ∉ plain)
    (hpoint : '.' ∈ fullName) (h : qualifiedName namespaceName plain = fullName) :
    plain = behindLastPoint fullName ∧ namespaceName ++ '.' :: plain = fullName := by
  rw [qualifiedName] at h
  split at h
  · exact absurd (h ▸ hpoint) hplain
  · refine ⟨?_, h⟩
    rw [← h, (lastPoint_append namespaceName hplain).1]

/-- The two native bases differ for two framework types only, and where such types lose their
    names. -/
theorem nativeBase_word (o : TypePolicy) (namespaceName : Text) {plain : Text}
    (hplain : '.' ∉ plain) :
    nativeBase { o with word := .intPtr } namespaceName plain
        = nativeBase { o with word := .nint } namespaceName plain
      ∨ o.keepsTypeNames = false
        ∧ (namespaceName ++ '.' :: plain = "System.IntPtr".toList
            ∧ nativeBase { o with word := .intPtr } namespaceName plain = "IntPtr".toList
            ∧ nativeBase { o with word := .nint } namespaceName plain = "nint".toList
          ∨ namespaceName ++ '.' :: plain = "System.UIntPtr".toList
            ∧ nativeBase { o with word := .intPtr } namespaceName plain = "UIntPtr".toList
            ∧ nativeBase { o with word := .nint } namespaceName plain = "nuint".toList) := by
  rw [nativeBase, nativeBase, primitiveSpelling?_nint]
  dsimp only
  cases hkeeps : o.keepsTypeNames with
  | true => exact .inl rfl
  | false =>
      rw [if_neg Bool.false_ne_true, if_neg Bool.false_ne_true]
      cases hnative : primitiveSpelling? .intPtr (qualifiedName namespaceName plain) with
      | some native => exact .inl rfl
      | none =>
          cases hword : wordSpellings.lookup (qualifiedName namespaceName plain) with
          | none => exact .inl rfl
          | some native =>
              refine .inr ⟨rfl, ?_⟩
              rcases wordSpellings_lookup hword with ⟨hname, rfl⟩ | ⟨hname, rfl⟩
              · obtain ⟨hsimple, hfull⟩ := eq_behindLastPoint hplain (by decide) hname
                exact .inl ⟨hfull, hsimple, rfl⟩
              · obtain ⟨hsimple, hfull⟩ := eq_behindLastPoint hplain (by decide) hname
                exact .inr ⟨hfull, hsimple, rfl⟩

/-- The two texts of a managed type differ in their bases only, and only where these do. -/
theorem TypeReference.unmanaged?_word {t : TypeReference} (hline : '\n' ∉ t.fullName)
    (hplain : '+' ∉ t.fullName) (o : TypePolicy) :
    ∃ text other, t.unmanaged? { o with word := .intPtr } = some text
      ∧ t.unmanaged? { o with word := .nint } = some other
      ∧ (text = other
        ∨ o.keepsTypeNames = false
          ∧ (t.namespaceName ++ '.' :: t.plainBase = "System.IntPtr".toList
              ∧ text = "IntPtr".toList ++ spellMarkers t.keptMarkers
              ∧ other = "nint".toList ++ spellMarkers t.keptMarkers
            ∨ t.namespaceName ++ '.' :: t.plainBase = "System.UIntPtr".toList
              ∧ text = "UIntPtr".toList ++ spellMarkers t.keptMarkers
              ∧ other = "nuint".toList ++ spellMarkers t.keptMarkers)) := by
  cases hdelegate : t.isDelegate with
  | true =>
      exact ⟨_, _, unmanaged?_of_isDelegate hdelegate _, unmanaged?_of_isDelegate hdelegate _,
        .inl rfl⟩
  | false =>
      have hpoint : '.' ∉ t.plainBase := by
        rw [plainBase_of_plain hplain]
        exact point_notMem_behindLastPoint _
      refine ⟨_, _, unmanaged?_eq hline hdelegate _, unmanaged?_eq hline hdelegate _, ?_⟩
      rw [spelledBase, spelledBase]
      rcases nativeBase_word o t.namespaceName hpoint with
        hsame | ⟨hkeeps, ⟨hname, htext, hother⟩ | ⟨hname, htext, hother⟩⟩
      · exact .inl (by rw [hsame])
      · exact .inr ⟨hkeeps, .inl ⟨hname, by rw [htext], by rw [hother]⟩⟩
      · exact .inr ⟨hkeeps, .inr ⟨hname, by rw [htext], by rw [hother]⟩⟩

/-- **The word size shows in words only.**  A C type has a text under one word size exactly if it
    has one under the other, and a managed type on one line that is not nested has one under both.
    The two texts are the same, or the two spellings of an integer of pointer size with the same
    markers behind them, which are stars for C types.  For managed types they are the same where
    type names are kept, and for all types but two framework types. -/
theorem word_shows_in_words_only :
    (∀ t : CType, Option.Rel (WordsApart [.pointer]) (t.unmanaged? .intPtr) (t.unmanaged? .nint))
      ∧ ∀ (t : TypeReference) (o : TypePolicy), '\n' ∉ t.fullName → '+' ∉ t.fullName →
        ∃ text other, t.unmanaged? { o with word := .intPtr } = some text
          ∧ t.unmanaged? { o with word := .nint } = some other
          ∧ WordsApart [.pointer, .array, .reference] text other
          ∧ (o.keepsTypeNames = true
              ∨ t.namespaceName ++ '.' :: t.plainBase ≠ "System.IntPtr".toList
                ∧ t.namespaceName ++ '.' :: t.plainBase ≠ "System.UIntPtr".toList →
              text = other) := by
  refine ⟨CType.unmanaged?_wordsApart, fun t o hline hplain => ?_⟩
  have hmarkers : ∀ m ∈ t.keptMarkers, m ∈ [Marker.pointer, .array, .reference] := by
    intro m _
    cases m with
    | _ => decide
  obtain ⟨text, other, htext, hother, hwords⟩ := t.unmanaged?_word hline hplain o
  refine ⟨text, other, htext, hother, ?_⟩
  rcases hwords with rfl | ⟨hkeeps, ⟨hname, rfl, rfl⟩ | ⟨hname, rfl, rfl⟩⟩
  · exact ⟨.same text, fun _ => rfl⟩
  · refine ⟨.signed t.keptMarkers hmarkers, ?_⟩
    rintro (hkept | ⟨hsigned, -⟩)
    · rw [hkeeps] at hkept; cases hkept
    · exact absurd hname hsigned
  · refine ⟨.unsigned t.keptMarkers hmarkers, ?_⟩
    rintro (hkept | ⟨-, hunsigned⟩)
    · rw [hkeeps] at hkept; cases hkept
    · exact absurd hname hunsigned

/-- The type `ptrdiff_t *`. -/
def differencePointer : CType :=
  CType.pointerTo "ptrdiff_t *".toList
    (.mk .typeAlias "ptrdiff_t".toList none none none
      (some (.mk (.builtin .long) "long".toList none none none none none [] false)) none [] false)

/-- The type `System.UIntPtr[]`. -/
def wordArray : TypeReference :=
  ⟨"System.UIntPtr[]".toList, "System".toList, false⟩

/-- A pointer to a signed integer of pointer size and an array of unsigned ones. -/
theorem word_shows_in_words_only_layers :
    WordsApart [.pointer] "IntPtr*".toList "nint*".toList
      ∧ ('\n' ∉ wordArray.fullName ∧ '+' ∉ wordArray.fullName)
      ∧ wordArray.unmanaged? { word := .intPtr } = some "UIntPtr*".toList
      ∧ wordArray.unmanaged? { word := .nint } = some "nuint*".toList
      ∧ WordsApart [.pointer, .array, .reference] "UIntPtr*".toList "nuint*".toList := by
  obtain ⟨hc, hmanaged⟩ := word_shows_in_words_only
  have hline : '\n' ∉ wordArray.fullName := by decide
  have hplain : '+' ∉ wordArray.fullName := by decide
  obtain ⟨text, other, htext, hother, hapart, -⟩ := hmanaged wordArray {} hline hplain
  have hintPtr : text = "UIntPtr*".toList := Option.some.inj (htext.symm.trans (by decide))
  have hnint : other = "nuint*".toList := Option.some.inj (hother.symm.trans (by decide))
  rw [hintPtr] at htext hapart
  rw [hnint] at hother hapart
  have hpointer := hc differencePointer
  rw [show differencePointer.unmanaged? .intPtr = some "IntPtr*".toList from rfl,
    show differencePointer.unmanaged? .nint = some "nint*".toList from rfl] at hpointer
  cases hpointer with
  | some hpointer => exact ⟨hpointer, ⟨hline, hplain⟩, htext, hother, hapart⟩

end PointerBindings
