import PointerBindings.Proofs.Catalog.Lookup
import PointerBindings.Proofs.Unmanaged.Bases

/-! # Directions — one parameter under the two policies for references

    A parameter passed by reference is spelled in two ways: with its direction in front, or as a
    pointer without one.  Both are made of the text of its type, which no direction has a part in,
    so that they say the same of what is referred to; and a parameter passed by value is spelled
    in one way only (`Catalog.policies_agree`). -/

namespace PointerBindings

open Text

/-! ## The mark at the end -/

/-- A single mark at the end becomes a star. -/
theorem exchange_reference_append {t : Text} (h : '&' ∉ t) :
    exchange '&' '*' (t ++ ['&']) = t ++ ['*'] := by
  rw [exchange_append, exchange_of_notMem h]
  rfl

/-- A single mark at the end is dropped. -/
theorem dropReferences_append {t : Text} (h : '&' ∉ t) : dropReferences (t ++ ['&']) = t := by
  have hlast : ∀ hne : t ≠ [], ¬ (t.getLast hne == '&') = true := by
    intro hne heq
    exact h (eq_of_beq heq ▸ List.getLast_mem hne)
  rw [dropReferences, ← List.rdropWhile, List.rdropWhile_concat_pos _ _ _ rfl,
    List.rdropWhile_eq_self_iff.mpr hlast]

/-! ## Types behind references -/

/-- Native spellings have no reference marks. -/
theorem reference_notMem_of_primitive {word : WordSize} {fullName native : Text}
    (h : primitiveSpelling? word fullName = some native) : '&' ∉ native := by
  have hall : ∀ entry ∈ primitiveSpellings ++ wordSpellings, '&' ∉ entry.2 := by decide
  exact hall _ (mem_of_primitiveSpelling? h)

section Types

variable {t : TypeReference}

/-- A reference mark in the new base of a type was one in the base of its name. -/
theorem TypeReference.reference_mem_base {o : TypePolicy} (h : '&' ∈ t.spelledBase o) :
    '&' ∈ (divideLine t.fullName).1 := by
  rw [spelledBase] at h
  rcases nativeBase_cases o t.namespaceName t.plainBase with heq | ⟨-, hnative⟩
  · rw [heq] at h
    rcases mem_plainBase h with hbase | hpoint
    · exact hbase
    · exact absurd hpoint (by decide)
  · exact absurd h (reference_notMem_of_primitive hnative)

/-- The policy for references has no part in how a type is spelled. -/
theorem TypeReference.unmanaged?_keepsByRef (t : TypeReference) (o : TypePolicy) (keeps : Bool) :
    t.unmanaged? { o with keepsByRef := keeps } = t.unmanaged? o :=
  rfl

/-- The text of a type whose name has one reference mark, which is last, has one, which is
    last. -/
theorem TypeReference.exists_text_reference {front : Text} (hline : '\n' ∉ t.fullName)
    (hvalue : t.isDelegate = false) (hname : t.fullName = front ++ ['&']) (hfront : '&' ∉ front)
    (o : TypePolicy) : ∃ text, t.unmanaged? o = some (text ++ ['&']) ∧ '&' ∉ text := by
  have hends : Marker.reference.spelling <:+ t.fullName := ⟨front, hname.symm⟩
  have harray : t.isArray = false := by
    refine Bool.eq_false_iff.mpr fun h => ?_
    exact nomatch marker_eq_of_suffix hends (endsInArray_iff.mp h)
  obtain ⟨others, hmarkers⟩ := List.getLast?_eq_some_iff.mp (marker_suffix_iff.mp hends)
  have hbefore : front = (divideLine t.fullName).1 ++ spellMarkers others := by
    have hparts := eq_of_divideLine t.fullName
    rw [hmarkers, spellMarkers_append, ← List.append_assoc] at hparts
    exact List.append_cancel_right (hname.symm.trans hparts)
  refine ⟨t.spelledBase o ++ spellMarkers others, ?_, ?_⟩
  · rw [unmanaged?_eq hline hvalue, keptMarkers, harray, if_neg Bool.false_ne_true, hmarkers,
      spellMarkers_append, ← List.append_assoc]
    rfl
  · intro hm
    rw [hbefore] at hfront
    rcases List.mem_append.mp hm with hbase | hothers
    · exact hfront (List.mem_append_left _ (reference_mem_base hbase))
    · exact hfront (List.mem_append_right _ hothers)

end Types

/-! ## Parameters behind references -/

section Parameters

variable {q : ReflectedParameter} {o : TypePolicy} {text : Text}

/-- Where references are kept, the direction has the place of the mark at the end. -/
theorem ReflectedParameter.typeText?_of_kept_mark (h : q.type.isByRef = true)
    (htype : q.type.unmanaged? o = some (text ++ ['&'])) (htext : '&' ∉ text) :
    q.typeText? { o with keepsByRef := true } = some (q.direction ++ ' ' :: text) := by
  rw [typeText?_of_kept h rfl, TypeReference.unmanaged?_keepsByRef, htype, Option.map_some,
    dropReferences_append htext]

/-- Where references are erased, a star has the place of the mark at the end. -/
theorem ReflectedParameter.typeText?_of_erased_mark (h : q.type.isByRef = true)
    (htype : q.type.unmanaged? o = some (text ++ ['&'])) (htext : '&' ∉ text) :
    q.typeText? { o with keepsByRef := false } = some (text ++ ['*']) := by
  rw [typeText?_of_erased h rfl, TypeReference.unmanaged?_keepsByRef, htype, Option.map_some,
    exchange_reference_append htext]

end Parameters

namespace Catalog

/-- A reference keeps its name, and none with a marker behind it is a delegate. -/
theorem exists_resolve (c : Catalog) {name : Text} (hline : '\n' ∉ name) :
    ∃ r, c.resolve name = some r ∧ r.fullName = name
      ∧ (r.isDelegate = true → (divideLine name).2 = []) :=
  ⟨_, c.resolve_of_oneLine hline, rfl, fun h => ((c.declaresDelegate_and_isEmpty name).mp h).1⟩

/-- **Both policies describe the same parameter.**  A reference on one line is resolved in every
    catalog.  A parameter of that type has one text under both policies if no reference mark is at
    the end, and if one is and there is no other, there is one text that is behind the direction
    of the parameter under the one policy, and in front of a star under the other. -/
theorem policies_agree (c : Catalog) (o : TypePolicy) {name : Text} (hline : '\n' ∉ name) :
    ∃ r, c.resolve name = some r
      ∧ (¬ "&".toList <:+ name → ∃ text, ∀ q : ReflectedParameter, q.type = r →
          q.typeText? { o with keepsByRef := true } = some text
            ∧ q.typeText? { o with keepsByRef := false } = some text)
      ∧ (∀ front, name = front ++ ['&'] → '&' ∉ front →
          ∃ text, '&' ∉ text ∧ ∀ q : ReflectedParameter, q.type = r →
            q.typeText? { o with keepsByRef := true }
                = some ((if q.isIn then "in ".toList else if q.isOut then "out ".toList
                  else "ref ".toList) ++ text)
              ∧ q.typeText? { o with keepsByRef := false } = some (text ++ ['*'])) := by
  obtain ⟨r, hr, rfl, hdelegate⟩ := c.exists_resolve hline
  refine ⟨r, hr, ?_, ?_⟩
  · intro hends
    have hbyValue : r.isByRef = false :=
      Bool.eq_false_iff.mpr fun h => hends (endsInReference_iff.mp h)
    obtain ⟨text, htext⟩ := TypeReference.exists_text hline o
    refine ⟨text, ?_⟩
    rintro q rfl
    rw [q.typeText?_of_value hbyValue, q.typeText?_of_value hbyValue]
    exact ⟨htext, htext⟩
  · intro front hname hfront
    have hmark : Marker.reference.spelling <:+ r.fullName := ⟨front, hname.symm⟩
    have hbyRef : r.isByRef = true := endsInReference_iff.mpr hmark
    have hvalue : r.isDelegate = false := by
      refine Bool.eq_false_iff.mpr fun h => ?_
      have hlast := marker_suffix_iff.mp hmark
      rw [hdelegate h] at hlast
      exact nomatch hlast
    obtain ⟨text, htype, htext⟩ :=
      TypeReference.exists_text_reference hline hvalue hname hfront o
    refine ⟨text, htext, ?_⟩
    rintro q rfl
    refine ⟨?_, q.typeText?_of_erased_mark hbyRef htype htext⟩
    rw [q.typeText?_of_kept_mark hbyRef htype htext, ReflectedParameter.direction]
    split
    · rfl
    · split
      · rfl
      · rfl

/-- A string that is only read goes in behind its pointer, or behind a pointer to that. -/
theorem policies_agree_strings :
    '\n' ∉ "System.String&".toList
      ∧ ∃ r, resolve {} "System.String&".toList = some r
        ∧ ReflectedParameter.typeText? { keepsByRef := true } ⟨"text".toList, r, true, false⟩
          = some "in byte*".toList
        ∧ ReflectedParameter.typeText? { keepsByRef := false } ⟨"text".toList, r, true, false⟩
          = some "byte**".toList := by
  have hline : '\n' ∉ "System.String&".toList := by decide
  obtain ⟨r, hr, -, href⟩ := policies_agree {} {} hline
  obtain ⟨text, -, htexts⟩ := href "System.String".toList rfl (by decide)
  obtain ⟨hkept, herased⟩ := htexts ⟨"text".toList, r, true, false⟩ rfl
  cases hr
  -- the erased text is known, and the other one is made of the same
  have htext : text = "byte*".toList :=
    List.append_cancel_right (Option.some.inj herased).symm
  rw [htext] at hkept herased
  exact ⟨hline, _, rfl, hkept, herased⟩

end Catalog

end PointerBindings
