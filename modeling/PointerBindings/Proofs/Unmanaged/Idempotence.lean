import PointerBindings.Proofs.Catalog.References

/-! # Idempotence — the text of a type as the name of one

    The text of a type that is not nested may be read as a type name itself.  It has no
    namespace and no enclosing type, and it does not end as an array does: array markers are
    pointers by then, or something else is last (`TypeReference.unmanaged?_isSettled`).  Such a
    name is its own text under every policy, for no name without a point stands in the tables
    (`IsSettled.unmanaged?_eq`). -/

namespace PointerBindings

open Text

/-! ## Settled names -/

/-- There is nothing in the name to take off, to look up or to turn into a pointer. -/
structure IsSettled (name : Text) : Prop where
  oneLine : '\n' ∉ name
  pointless : '.' ∉ name
  plain : '+' ∉ name
  notArray : endsInArray name = false

section

variable {name : Text}

theorem IsSettled.pointless_base (h : IsSettled name) : '.' ∉ (divideLine name).1 :=
  fun hm => h.pointless (mem_of_mem_base hm)

theorem IsSettled.plain_base (h : IsSettled name) : '+' ∉ (divideLine name).1 :=
  fun hm => h.plain (mem_of_mem_base hm)

/-- A settled name is in no namespace. -/
theorem IsSettled.namespaceOf?_eq (h : IsSettled name) : namespaceOf? name = some [] := by
  rw [namespaceOf?, divideName?_of_oneLine h.oneLine, Option.map_some]
  dsimp only
  rw [(innermost_and_namespace_of_plain h.plain_base).2, (lastPoint_of_notMem h.pointless_base).2]

/-- A settled name is its own text. -/
theorem IsSettled.unmanaged?_eq (h : IsSettled name) (o : TypePolicy) :
    (TypeReference.mk name [] false).unmanaged? o = some name := by
  have hplain : (TypeReference.mk name [] false).plainBase = (divideLine name).1 := by
    rw [TypeReference.plainBase, if_neg h.plain, (innermost_and_namespace_of_plain h.plain_base).1,
      (lastPoint_of_notMem h.pointless_base).1]
  have hbase : (TypeReference.mk name [] false).spelledBase o = (divideLine name).1 := by
    rw [TypeReference.spelledBase, hplain]
    rcases nativeBase_cases o [] (divideLine name).1 with hsame | ⟨-, hnative⟩
    · exact hsame
    · rw [qualifiedName, if_pos rfl, primitiveSpelling?_of_pointless h.pointless_base] at hnative
      cases hnative
  have hkept : (TypeReference.mk name [] false).keptMarkers = (divideLine name).2 := by
    rw [TypeReference.keptMarkers, TypeReference.isArray, h.notArray]
    exact if_neg Bool.false_ne_true
  rw [TypeReference.unmanaged?_eq h.oneLine rfl, hbase, hkept, ← eq_of_divideLine]

end

/-! ## Texts are settled -/

/-- Native spellings are settled. -/
theorem primitiveSpelling?_isSettled {word : WordSize} {fullName native : Text}
    (h : primitiveSpelling? word fullName = some native) : '.' ∉ native ∧ '+' ∉ native := by
  have hall : ∀ entry ∈ primitiveSpellings ++ wordSpellings, '.' ∉ entry.2 ∧ '+' ∉ entry.2 := by
    decide
  exact hall _ (mem_of_primitiveSpelling? h)

namespace TypeReference

variable {t : TypeReference}

/-- A plain base is what stands behind the last point. -/
theorem plainBase_of_plain (hplain : '+' ∉ t.fullName) :
    t.plainBase = behindLastPoint (divideLine t.fullName).1 := by
  have hbase : '+' ∉ (divideLine t.fullName).1 := fun hm => hplain (mem_of_mem_base hm)
  rw [plainBase, if_neg hplain, (innermost_and_namespace_of_plain hbase).1]

/-- Nothing separates the new base of a type that is not nested. -/
theorem spelledBase_of_plain (hplain : '+' ∉ t.fullName) (o : TypePolicy) :
    '.' ∉ t.spelledBase o ∧ '+' ∉ t.spelledBase o := by
  rcases nativeBase_cases o t.namespaceName t.plainBase with hsame | ⟨-, hnative⟩
  · rw [spelledBase, hsame]
    constructor
    · rw [plainBase_of_plain hplain]
      exact point_notMem_behindLastPoint _
    · intro hm
      rcases mem_plainBase hm with hbase | hpoint
      · exact hplain (mem_of_mem_base hbase)
      · exact absurd hpoint (by decide)
  · exact primitiveSpelling?_isSettled hnative

/-- No array marker is last among those that a type keeps. -/
theorem getLast?_keptMarkers_ne_array (t : TypeReference) :
    t.keptMarkers.getLast? ≠ some .array := by
  intro hlast
  rw [keptMarkers] at hlast
  split at hlast
  · obtain ⟨m, -, hdecayed⟩ := List.mem_map.mp (List.mem_of_getLast? hlast)
    exact m.decayed_ne_array hdecayed
  · rename_i hother
    exact hother (endsInArray_iff.mpr (marker_suffix_iff.mpr hlast))

/-- The text of a type that is not nested is settled. -/
theorem unmanaged?_isSettled (hline : '\n' ∉ t.fullName) (hplain : '+' ∉ t.fullName)
    {o : TypePolicy} {text : Text} (h : t.unmanaged? o = some text) : IsSettled text := by
  cases hdelegate : t.isDelegate with
  | true =>
      rw [unmanaged?_of_isDelegate hdelegate] at h
      cases h
      exact ⟨by decide, by decide, by decide, rfl⟩
  | false =>
      rw [unmanaged?_eq hline hdelegate] at h
      cases h
      have hstem := spelledBase_isStem hline o
      obtain ⟨hpoint, hplus⟩ := spelledBase_of_plain hplain o
      have hmarkers {c : Char} (hc : c ∉ ['[', ']', '&', '*']) : c ∉ spellMarkers t.keptMarkers :=
        fun hm => hc (mem_spellMarkers hm)
      refine ⟨hstem.oneLine_append _, List.not_mem_append hpoint (hmarkers (by decide)),
        List.not_mem_append hplus (hmarkers (by decide)), Bool.eq_false_iff.mpr fun harray => ?_⟩
      -- the last marker is one of the name or a star of the base
      rw [endsInArray_iff, marker_suffix_iff, divideLine_append, List.getLast?_append] at harray
      rcases Option.or_eq_some_iff.mp harray with hkept | ⟨-, hbase⟩
      · exact t.getLast?_keptMarkers_ne_array hkept
      · cases hstem.stars _ (List.mem_of_getLast? hbase)

/-- **Spelling is idempotent.**  A reference on one line and without plus signs has a text, and the
    bare reference by that text, in the namespace of that text, has the same text under this and
    every other policy. -/
theorem unmanaged?_idempotent (t : TypeReference) (hline : '\n' ∉ t.fullName)
    (hplain : '+' ∉ t.fullName) (o : TypePolicy) :
    ∃ text namespaceName, t.unmanaged? o = some text
      ∧ PointerBindings.namespaceOf? text = some namespaceName
      ∧ ∀ other, (TypeReference.mk text namespaceName false).unmanaged? other = some text := by
  obtain ⟨text, htext⟩ := exists_text hline o
  have hsettled := unmanaged?_isSettled hline hplain htext
  exact ⟨text, [], htext, hsettled.namespaceOf?_eq, hsettled.unmanaged?_eq⟩

/-- An array of references to strings, from whose text nothing more can be made. -/
theorem unmanaged?_idempotent_strings :
    ('\n' ∉ "System.String&[]".toList ∧ '+' ∉ "System.String&[]".toList)
      ∧ (TypeReference.mk "System.String&[]".toList "System".toList false).unmanaged? {}
        = some "byte*&*".toList
      ∧ (TypeReference.mk "byte*&*".toList [] false).unmanaged? {} = some "byte*&*".toList := by
  have hline : '\n' ∉ "System.String&[]".toList := by decide
  have hplain : '+' ∉ "System.String&[]".toList := by decide
  obtain ⟨text, namespaceName, htext, hnamespace, hagain⟩ :=
    unmanaged?_idempotent ⟨"System.String&[]".toList, "System".toList, false⟩ hline hplain {}
  have heq : text = "byte*&*".toList := Option.some.inj (htext.symm.trans (by decide))
  rw [heq] at htext hnamespace hagain
  have hnone : namespaceName = [] := Option.some.inj (hnamespace.symm.trans (by decide))
  rw [hnone] at hagain
  exact ⟨⟨hline, hplain⟩, htext, hagain {}⟩

end TypeReference

end PointerBindings
