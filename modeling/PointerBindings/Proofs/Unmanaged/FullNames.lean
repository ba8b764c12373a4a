import PointerBindings.Proofs.Catalog.References

/-! # Full names — what a namespace and a text have between them

    The namespace of a name is cut off at the last point of its outermost type, and its text
    begins behind the namespace if the type is nested, else behind the last of all points.  Both
    cuts are at the same place, wherever points and plus signs stand, so that the namespace, a
    point and the text make up the full name again, its plus signs turned into points
    (`TypeReference.full_name_kept`).  Only a name that begins with a point loses it. -/

namespace PointerBindings

open Text

/-! ## The cut behind the namespace -/

/-- A base goes on behind its namespace with a point, or has none. -/
theorem namespaceOfBase_cases (base : Text) :
    (∃ rest, base = namespaceOfBase base ++ '.' :: rest) ∨ namespaceOfBase base = [] := by
  rw [namespaceOfBase]
  cases hcut : cutLast '.' (base.takeWhile (· ≠ '+')) with
  | none => exact Or.inr rfl
  | some parts =>
      obtain ⟨before, after⟩ := parts
      have houter := (eq_of_cutLast hcut).1
      refine Or.inl ⟨after ++ base.dropWhile (· ≠ '+'), ?_⟩
      rw [← List.cons_append, ← List.append_assoc, ← houter, List.takeWhile_append_dropWhile]

/-- A nested type is called by all that stands behind its namespace. -/
theorem exchange_plus_shedNamespace (base : Text) :
    exchange '+' '.' base
      = qualifiedName (namespaceOfBase base)
          (exchange '+' '.' (shedNamespace (namespaceOfBase base) base)) := by
  rw [qualifiedName]
  by_cases hnone : namespaceOfBase base = []
  · rw [if_pos hnone, hnone, shedNamespace_nil]
  · obtain ⟨rest, hbase⟩ := (namespaceOfBase_cases base).resolve_right hnone
    have hshed : shedNamespace (namespaceOfBase base) base = rest :=
      (congrArg _ hbase).trans (shedNamespace_append hnone rest)
    conv_lhs => rw [hbase]
    rw [if_neg hnone, hshed, exchange_append, exchange_of_notMem (plus_notMem_namespaceOfBase base)]
    rfl

/-- Any other type is called by what stands behind its last point, and its namespace is what
    stands in front of it. -/
theorem eq_qualifiedName_innermost {base : Text} (hplain : '+' ∉ base)
    (hpoint : base.head? ≠ some '.') :
    base = qualifiedName (namespaceOfBase base) (innermostOfBase base) := by
  obtain ⟨hinnermost, hnamespace⟩ := innermost_and_namespace_of_plain hplain
  rw [hinnermost, hnamespace, qualifiedName]
  cases hcut : cutLast '.' base with
  | none =>
      obtain ⟨hbehind, hbefore⟩ := lastPoint_of_notMem (cutLast_eq_none_iff.mp hcut)
      rw [if_pos hbefore, hbehind]
  | some parts =>
      obtain ⟨before, after⟩ := parts
      obtain ⟨rfl, hafter⟩ := eq_of_cutLast hcut
      obtain ⟨hbehind, hbefore⟩ := lastPoint_append before hafter
      have hnonempty : before ≠ [] := by
        rintro rfl
        exact hpoint rfl
      rw [hbehind, hbefore, if_neg hnonempty]

namespace TypeReference

/-- **One cut for all names**: the plain base of a type and its namespace make up its base, with
    points for the plus signs. -/
theorem exchange_plus_base {name : Text} (hpoint : (divideLine name).1.head? ≠ some '.') :
    exchange '+' '.' (divideLine name).1
      = qualifiedName (namespaceOfBase (divideLine name).1)
          (TypeReference.mk name (namespaceOfBase (divideLine name).1) false).plainBase := by
  rw [plainBase]
  dsimp only
  by_cases hnested : '+' ∈ name
  · rw [if_pos hnested]
    exact exchange_plus_shedNamespace _
  · have hplain : '+' ∉ (divideLine name).1 := fun hm => hnested (mem_of_mem_base hm)
    rw [if_neg hnested, exchange_of_notMem hplain]
    exact eq_qualifiedName_innermost hplain hpoint

/-- **Nothing of a name is lost** between its namespace and its text.  Where types keep their
    names, a name on one line has a namespace without plus signs and, in that namespace, a text;
    unless the base of the name begins with a point, the two with a point between them, or the
    text alone if the namespace is empty, are the name itself with points for its plus signs and,
    if an array marker is last, with pointer markers for its array markers. -/
theorem full_name_kept (o : TypePolicy) {name : Text} (hline : '\n' ∉ name) :
    ∃ base markers namespaceName text,
      divideName? name = some (base, markers)
      ∧ PointerBindings.namespaceOf? name = some namespaceName
      ∧ (TypeReference.mk name namespaceName false).unmanaged? { o with keepsTypeNames := true }
        = some text
      ∧ '+' ∉ namespaceName
      ∧ (base.head? ≠ some '.' →
        exchange '+' '.' (base ++ spellMarkers
            (if "[]".toList <:+ name then markers.map Marker.decayed else markers))
          = if namespaceName = [] then text else namespaceName ++ '.' :: text) := by
  have hdivided := divideName?_of_oneLine hline
  have hnamespace : PointerBindings.namespaceOf? name
      = some (namespaceOfBase (divideLine name).1) := by
    rw [PointerBindings.namespaceOf?, hdivided]
    rfl
  refine ⟨(divideLine name).1, (divideLine name).2, _, _, hdivided, hnamespace,
    unmanaged?_eq hline rfl _, plus_notMem_namespaceOfBase _, fun hpoint => ?_⟩
  have hkept : (if "[]".toList <:+ name then (divideLine name).2.map Marker.decayed
        else (divideLine name).2)
      = (TypeReference.mk name (namespaceOfBase (divideLine name).1) false).keptMarkers :=
    if_congr endsInArray_iff.symm rfl rfl
  rw [hkept, exchange_append, exchange_plus_spellMarkers, exchange_plus_base hpoint, qualifiedName]
  split
  · rfl
  · rw [List.append_assoc]
    rfl

/-- A type nested twice, in an array of references to arrays of it. -/
theorem full_name_kept_nested :
    '\n' ∉ "Vendor.Interop.Native+Point+Axis[]&[]".toList
      ∧ ∃ namespaceName text,
        PointerBindings.namespaceOf? "Vendor.Interop.Native+Point+Axis[]&[]".toList
          = some namespaceName
        ∧ (TypeReference.mk "Vendor.Interop.Native+Point+Axis[]&[]".toList namespaceName
            false).unmanaged? { keepsTypeNames := true } = some text
        ∧ namespaceName ++ '.' :: text = "Vendor.Interop.Native.Point.Axis*&*".toList := by
  have hline : '\n' ∉ "Vendor.Interop.Native+Point+Axis[]&[]".toList := by decide
  obtain ⟨base, markers, namespaceName, text, hdivided, hnamespace, htext, -, hname⟩ :=
    full_name_kept {} hline
  have hparts : (base, markers)
      = ("Vendor.Interop.Native+Point+Axis".toList, [.array, .reference, .array]) :=
    Option.some.inj (hdivided.symm.trans (by decide))
  cases hparts
  have hvendor : namespaceName = "Vendor.Interop".toList :=
    Option.some.inj (hnamespace.symm.trans (by decide))
  have hnonempty : namespaceName ≠ [] := by
    rw [hvendor]
    decide
  refine ⟨hline, namespaceName, text, hnamespace, htext, ?_⟩
  rw [← (hname (by decide)).trans (if_neg hnonempty)]
  decide

end TypeReference

end PointerBindings
