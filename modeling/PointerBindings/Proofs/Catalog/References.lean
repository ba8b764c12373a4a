import PointerBindings.Proofs.Catalog.Lookup
import PointerBindings.Proofs.Unmanaged.Bases

/-! # References — the text of a type that is not nested

    On its way to a text a reference is divided three times: when it is looked up, when its
    framework name is, and when its array markers are read as pointers, by then behind a spelling
    that may end in a star.  The text is the same as if it were written in one pass: what stands
    behind the last point of the base, or its native spelling, and the longest run of markers at
    the end of the reference (`Catalog.resolve_spelled_once`). -/

namespace PointerBindings

open Text

/-! ## Points -/

/-- What stands behind the last point, or all of the text where it has none. -/
def behindLastPoint (t : Text) : Text :=
  t.rtakeWhile (· ≠ '.')

/-- What stands in front of the last point, or nothing where the text has none. -/
def beforeLastPoint (t : Text) : Text :=
  (t.rdropWhile (· ≠ '.')).dropLast

/-- The last point parts a text where nothing behind it is a point. -/
theorem lastPoint_append (before : Text) {after : Text} (h : '.' ∉ after) :
    behindLastPoint (before ++ '.' :: after) = after
      ∧ beforeLastPoint (before ++ '.' :: after) = before := by
  have hafter : ∀ c ∈ after.reverse, decide (c ≠ '.') = true := by
    intro c hc
    exact decide_eq_true fun heq => h (heq ▸ List.mem_reverse.mp hc)
  rw [behindLastPoint, beforeLastPoint, List.rtakeWhile, List.rdropWhile, List.reverse_append,
    List.reverse_cons, List.append_assoc, List.takeWhile_append_of_pos hafter,
    List.dropWhile_append_of_pos hafter]
  simp

/-- A text without a point stands behind it as a whole, and nothing in front. -/
theorem lastPoint_of_notMem {t : Text} (h : '.' ∉ t) :
    behindLastPoint t = t ∧ beforeLastPoint t = [] := by
  have hall : ∀ c ∈ t, decide (c ≠ '.') = true := by
    intro c hc
    exact decide_eq_true fun heq => h (heq ▸ hc)
  rw [behindLastPoint, beforeLastPoint, List.rtakeWhile_eq_self_iff.mpr hall,
    List.rdropWhile_eq_nil_iff.mpr hall]
  exact ⟨rfl, rfl⟩

/-- Without plus signs the innermost type and the namespace are what the last point parts. -/
theorem innermost_and_namespace_of_plain {base : Text} (h : '+' ∉ base) :
    innermostOfBase base = behindLastPoint base ∧ namespaceOfBase base = beforeLastPoint base := by
  have houter : base.takeWhile (· ≠ '+') = base :=
    List.takeWhile_eq_self_iff.mpr fun c hc => decide_eq_true fun heq => h (heq ▸ hc)
  rw [innermostOfBase, namespaceOfBase, houter, cutLast_eq_none_iff.mpr h]
  cases hcut : cutLast '.' base with
  | none =>
      obtain ⟨hbehind, hbefore⟩ := lastPoint_of_notMem (cutLast_eq_none_iff.mp hcut)
      exact ⟨hbehind.symm, hbefore.symm⟩
  | some parts =>
      obtain ⟨before, after⟩ := parts
      obtain ⟨rfl, hafter⟩ := eq_of_cutLast hcut
      obtain ⟨hbehind, hbefore⟩ := lastPoint_append before hafter
      exact ⟨hbehind.symm, hbefore.symm⟩

theorem point_notMem_behindLastPoint (t : Text) : '.' ∉ behindLastPoint t := by
  intro hm
  simpa using List.mem_rtakeWhile_imp hm

/-! ## Framework names -/

/-- Every framework type that has a native spelling stands in a namespace. -/
theorem primitiveSpelling?_of_pointless {word : WordSize} {name : Text} (h : '.' ∉ name) :
    primitiveSpelling? word name = none := by
  have hall : ∀ entry ∈ primitiveSpellings ++ wordSpellings, '.' ∈ entry.1 := by decide
  cases hnative : primitiveSpelling? word name with
  | none => rfl
  | some native => exact absurd (hall _ (mem_of_primitiveSpelling? hnative)) h

/-! ## References without plus signs -/

namespace Catalog

/-- The namespace of a base without plus signs: that of the first type declared by it, or what
    stands in front of its last point. -/
def namespaceByPoint (c : Catalog) (base : Text) : Text :=
  ((c.find? base).map fun t => t.namespaceName).getD (beforeLastPoint base)

/-- The new base: what stands behind the last point, or the native spelling of the framework type
    that this is inside the namespace, unless such types keep their names. -/
def baseByPoint (c : Catalog) (o : TypePolicy) (base : Text) : Text :=
  if o.keepsTypeNames = true ∨ c.namespaceByPoint base = [] then behindLastPoint base
  else (primitiveSpelling? o.word
    (c.namespaceByPoint base ++ '.' :: behindLastPoint base)).getD (behindLastPoint base)

/-- The text of a reference in one pass over its base and its markers. -/
def textByPoint (c : Catalog) (o : TypePolicy) (name base : Text) (markers : List Marker) : Text :=
  if markers = [] ∧ c.declaresDelegate name = true then "void*".toList
  else c.baseByPoint o base
    ++ spellMarkers (if "[]".toList <:+ name then markers.map Marker.decayed else markers)

theorem namespaceOf_of_plain (c : Catalog) {base : Text} (h : '+' ∉ base) :
    c.namespaceOf base = c.namespaceByPoint base := by
  rw [namespaceOf, namespaceByPoint, (innermost_and_namespace_of_plain h).2]
  cases c.find? base with
  | none => rfl
  | some t => rfl

/-- Looking a plain base up in the tables needs a namespace. -/
theorem nativeBase_behindLastPoint (c : Catalog) (o : TypePolicy) (base : Text) :
    nativeBase o (c.namespaceByPoint base) (behindLastPoint base) = c.baseByPoint o base := by
  rw [nativeBase, baseByPoint, qualifiedName]
  by_cases hkeeps : o.keepsTypeNames = true
  · rw [if_pos hkeeps, if_pos (Or.inl hkeeps)]
  · rw [if_neg hkeeps]
    by_cases hnone : c.namespaceByPoint base = []
    · rw [if_pos hnone, if_pos (Or.inr hnone),
        primitiveSpelling?_of_pointless (point_notMem_behindLastPoint base), Option.getD_none]
    · rw [if_neg hnone, if_neg (not_or.mpr ⟨hkeeps, hnone⟩)]

/-- **One pass is enough.**  A reference on one line and without plus signs has one text in every
    catalog and under every policy: a base and the longest run of markers behind it, where the
    base is what stands behind the last point or its native spelling, and array markers become
    pointers if one is last; or an opaque pointer, if there are no markers and the first type
    declared by the reference is a delegate. -/
theorem resolve_spelled_once (c : Catalog) (o : TypePolicy) {name : Text} (hline : '\n' ∉ name)
    (hplain : '+' ∉ name) :
    ∃ base markers, DividesInto name base markers
      ∧ (c.resolve name).bind (TypeReference.unmanaged? o)
        = some (c.textByPoint o name base markers) := by
  refine ⟨(divideLine name).1, (divideLine name).2, dividesInto_iff.mpr rfl, ?_⟩
  have hbase : '+' ∉ (divideLine name).1 := fun hm => hplain (mem_of_mem_base hm)
  rw [c.resolve_of_oneLine hline, Option.bind_some, textByPoint]
  by_cases hdelegate : (divideLine name).2 = [] ∧ c.declaresDelegate name = true
  · rw [if_pos hdelegate, (c.declaresDelegate_and_isEmpty name).mpr hdelegate]
    rfl
  · have hvalue : (c.declaresDelegate (divideLine name).1 && (divideLine name).2.isEmpty) = false :=
      Bool.eq_false_iff.mpr fun h => hdelegate ((c.declaresDelegate_and_isEmpty name).mp h)
    have hkept : (if endsInArray name = true then (divideLine name).2.map Marker.decayed
        else (divideLine name).2)
        = if "[]".toList <:+ name then (divideLine name).2.map Marker.decayed
          else (divideLine name).2 := if_congr endsInArray_iff rfl rfl
    rw [if_neg hdelegate, hvalue, TypeReference.unmanaged?_eq hline rfl, TypeReference.spelledBase,
      TypeReference.plainBase, TypeReference.keptMarkers, TypeReference.isArray]
    dsimp only
    rw [if_neg hplain, (innermost_and_namespace_of_plain hbase).1, c.namespaceOf_of_plain hbase,
      nativeBase_behindLastPoint, hkept]

/-- A catalog of one callback. -/
def withHandler : Catalog where
  types := [{ fullName := "N.Handler".toList, namespaceName := "N".toList, kind := .delegateKind }]

/-- An array of references to strings brings the star of its native spelling in front of its own
    markers, and only the bare callback is opaque. -/
theorem resolve_spelled_once_strings :
    ('\n' ∉ "System.String&[]".toList ∧ '+' ∉ "System.String&[]".toList
        ∧ (withHandler.resolve "System.String&[]".toList).bind (TypeReference.unmanaged? {})
          = some "byte*&*".toList)
      ∧ (withHandler.resolve "N.Handler".toList).bind (TypeReference.unmanaged? {})
        = some "void*".toList
      ∧ (withHandler.resolve "N.Handler*".toList).bind (TypeReference.unmanaged? {})
        = some "Handler*".toList := by
  have hspelled : ∀ {name base : Text} {markers : List Marker}, '\n' ∉ name → '+' ∉ name →
      divideLine name = (base, markers) →
      (withHandler.resolve name).bind (TypeReference.unmanaged? {})
        = some (withHandler.textByPoint {} name base markers) := by
    intro name base markers hline hplain hdivide
    obtain ⟨base', markers', hdivides, htext⟩ := withHandler.resolve_spelled_once {} hline hplain
    cases hdivide.symm.trans (dividesInto_iff.mp hdivides)
    exact htext
  refine ⟨⟨by decide, by decide, ?_⟩, ?_, ?_⟩
  · exact hspelled (by decide) (by decide) rfl
  · exact hspelled (by decide) (by decide) rfl
  · exact hspelled (by decide) (by decide) rfl

end Catalog

end PointerBindings
