import PointerBindings.Proofs.Catalog.Members
import PointerBindings.Proofs.Unmanaged.Bases

/-! # Erasure — signatures under a policy without references

    A policy that erases references turns those of parameters into pointers, and arrays turn
    into pointers where a name ends in one.  A name that has no reference but at its end
    leaves no reference in the type of a parameter, and no array in any type unless one
    stands in front of its last marker (`MemberKind.erasure_leaves_pointers`).  What is
    returned is no parameter and keeps its reference (`MemberKind.erasure_spares_references`). -/

namespace PointerBindings

open Text Xml

/-- The name has no reference marker but perhaps its last. -/
def ReferenceLast (name : Text) : Prop :=
  Marker.reference ∉ (divideLine name).2.dropLast

instance (name : Text) : Decidable (ReferenceLast name) :=
  inferInstanceAs (Decidable (Marker.reference ∉ (divideLine name).2.dropLast))

/-- If the name has array markers at all, one is its last. -/
def ArrayLast (name : Text) : Prop :=
  Marker.array ∈ (divideLine name).2 → endsInArray name = true

/-! ## Markers that are kept -/

/-- A reference that may only be last is there exactly if it is last. -/
theorem ReferenceLast.mem_iff {name : Text} (h : ReferenceLast name) :
    Marker.reference ∈ (divideLine name).2 ↔ endsInReference name = true := by
  rw [endsInReference_iff, marker_suffix_iff]
  refine ⟨fun hmem => ?_, List.mem_of_getLast?⟩
  rcases List.eq_nil_or_concat (divideLine name).2 with hnil | ⟨front, last, hconcat⟩
  · rw [hnil] at hmem
    exact nomatch hmem
  · rw [ReferenceLast, hconcat, List.concat_eq_append, List.dropLast_concat] at h
    rw [hconcat, List.concat_eq_append] at hmem ⊢
    rw [List.getLast?_concat]
    rcases List.mem_append.mp hmem with hfront | hlast
    · exact absurd hfront h
    · rw [List.mem_singleton.mp hlast]

theorem Marker.decayed_eq_reference_iff {m : Marker} : m.decayed = .reference ↔ m = .reference := by
  cases m with
  | _ => decide

theorem Marker.erased_ne_reference (m : Marker) : m.erased ≠ .reference := by
  cases m with
  | _ => decide

theorem Marker.erased_eq_array_iff {m : Marker} : m.erased = .array ↔ m = .array := by
  cases m with
  | _ => decide

/-- A type keeps the reference in its name. -/
theorem TypeReference.reference_mem_keptMarkers {t : TypeReference} :
    Marker.reference ∈ t.keptMarkers ↔ Marker.reference ∈ (divideLine t.fullName).2 := by
  rw [keptMarkers]
  split
  · rw [List.mem_map]
    constructor
    · rintro ⟨m, hm, hdecayed⟩
      rw [← Marker.decayed_eq_reference_iff.mp hdecayed]
      exact hm
    · intro hm
      exact ⟨.reference, hm, rfl⟩
  · exact Iff.rfl

/-- A type keeps no array in its name if one is last. -/
theorem TypeReference.array_notMem_keptMarkers {t : TypeReference} (h : ArrayLast t.fullName) :
    Marker.array ∉ t.keptMarkers := by
  rw [keptMarkers]
  split
  · intro hm
    obtain ⟨m, -, hdecayed⟩ := List.mem_map.mp hm
    exact m.decayed_ne_array hdecayed
  · rename_i hother
    exact fun hm => hother (h hm)

/-! ## Types spelled -/

/-- The text of what is returned by the name has a reference marker exactly if the name ends in
    one, and no array marker if there is none in the name or one at its end. -/
structure ErasedReturn (name text : Text) : Prop where
  oneLine : '\n' ∉ text
  reference : ReferenceLast name →
    (Marker.reference ∈ (divideLine text).2 ↔ endsInReference name = true)
  array : ArrayLast name → Marker.array ∉ (divideLine text).2

/-- The text of a parameter by the name has no reference marker, and no array marker if there is
    none in the name or one at its end. -/
structure ErasedParameter (name text : Text) : Prop where
  oneLine : '\n' ∉ text
  reference : ReferenceLast name → Marker.reference ∉ (divideLine text).2
  array : ArrayLast name → Marker.array ∉ (divideLine text).2

/-- A marker behind a stem that is no star is one of those put there. -/
theorem IsStem.mem_append_iff {stem : Text} (h : IsStem stem) {ms : List Marker} {m : Marker}
    (hm : m ≠ .pointer) : m ∈ (divideLine (stem ++ spellMarkers ms)).2 ↔ m ∈ ms := by
  rw [divideLine_append, List.mem_append]
  exact or_iff_right fun hstem => hm (h.stars m hstem)

section Spelling

variable {declared : List Declaration} {name : Text} {o : TypePolicy}

/-- A reference is spelled as a stem and the markers it keeps; for a delegate, the stem is the
    whole text, and there are no markers. -/
theorem exists_stem (hname : IsTrimmed name) {r : TypeReference}
    (hr : resolveAmong declared name = some r) {text : Text} (h : r.unmanaged? o = some text) :
    ∃ stem, IsStem stem ∧ text = stem ++ spellMarkers r.keptMarkers := by
  cases hdelegate : r.isDelegate with
  | true =>
      have hclear := ((resolveAmong_isDelegate hname hr).mp hdelegate).1
      have hkept : r.keptMarkers = [] := by
        rw [TypeReference.keptMarkers, resolveAmong_fullName hname hr,
          divideLine_of_endsClear hclear]
        exact ite_self _
      rw [TypeReference.unmanaged?, hdelegate, if_pos rfl] at h
      cases h
      refine ⟨opaquePointer, ⟨by decide, by decide⟩, ?_⟩
      rw [hkept]
      rfl
  | false =>
      have hline := oneLine_of_resolveAmong hname hr
      rw [TypeReference.unmanaged?_eq hline hdelegate] at h
      exact ⟨r.spelledBase o, TypeReference.spelledBase_isStem hline o, (Option.some.inj h).symm⟩

theorem erasedReturn_of_spelled (hname : IsTrimmed name) {r : TypeReference}
    (hr : resolveAmong declared name = some r) {text : Text} (h : r.unmanaged? o = some text) :
    ErasedReturn name text := by
  obtain ⟨stem, hstem, rfl⟩ := exists_stem hname hr h
  have hfull := resolveAmong_fullName hname hr
  refine ⟨hstem.oneLine_append _, ?_, ?_⟩
  · intro hlast
    rw [hstem.mem_append_iff (by decide), TypeReference.reference_mem_keptMarkers, hfull,
      hlast.mem_iff]
  · intro harray
    rw [hstem.mem_append_iff (by decide)]
    exact TypeReference.array_notMem_keptMarkers (hfull ▸ harray)

theorem erasedParameter_of_spelled (hname : IsTrimmed name) {q : ReflectedParameter}
    (hq : resolveAmong declared name = some q.type) (herase : o.keepsByRef = false)
    {p : Parameter} (h : q.unmanaged? o = some p) : ErasedParameter name p.type := by
  obtain ⟨text, htext, rfl⟩ := Option.map_eq_some_iff.mp h
  have hfull := resolveAmong_fullName hname hq
  cases hbyRef : q.type.isByRef with
  | true =>
      -- every reference marker becomes a star
      rw [ReflectedParameter.typeText?_of_erased hbyRef herase] at htext
      obtain ⟨plain, hplain, rfl⟩ := Option.map_eq_some_iff.mp htext
      obtain ⟨stem, hstem, rfl⟩ := exists_stem hname hq hplain
      have hstars := hstem.exchange_reference
      dsimp only
      rw [exchange_append, exchange_reference_spellMarkers]
      refine ⟨hstars.oneLine_append _, ?_, ?_⟩
      · intro _
        rw [hstars.mem_append_iff (by decide)]
        intro hm
        obtain ⟨m, -, hm⟩ := List.mem_map.mp hm
        exact m.erased_ne_reference hm
      · intro harray
        rw [hstars.mem_append_iff (by decide)]
        intro hm
        obtain ⟨m, hkept, hm⟩ := List.mem_map.mp hm
        rw [Marker.erased_eq_array_iff.mp hm] at hkept
        exact TypeReference.array_notMem_keptMarkers (hfull ▸ harray) hkept
  | false =>
      -- a parameter passed by value is spelled as it would be returned
      rw [ReflectedParameter.typeText?_of_value hbyRef] at htext
      have hvalue := erasedReturn_of_spelled hname hq htext
      refine ⟨hvalue.oneLine, fun hlast hm => ?_, hvalue.array⟩
      rw [TypeReference.isByRef, hfull] at hbyRef
      exact Bool.false_ne_true (hbyRef.symm.trans ((hvalue.reference hlast).mp hm))

end Spelling

/-! ## Whole sources -/

/-- **Erased references leave pointers.**  Under a policy that erases references, in every
    signature of a source over a catalog that was read: a parameter has no reference marker if
    the name of its type has none but the last, what is returned has one exactly if its name
    ends in one, and neither has an array marker if its name has none or ends in one. -/
theorem MemberKind.erasure_leaves_pointers {root : Element} {c : Catalog}
    (hread : Catalog.ofElement root = .ok c) (k : MemberKind) (path : Option Text)
    {o : TypePolicy} (herase : o.keepsByRef = false) :
    List.Forall₂ (fun outcome e => ∀ s, outcome = .ok s →
        ErasedReturn e.returnName s.returnType
        ∧ List.Forall₂ (fun p e => ErasedParameter e.typeName p.type) s.parameters
            e.parameterElements)
      (k.source c path o).outcomes (k.elements path root) := by
  have hc := Catalog.ofElement_eq_ok_iff.mp hread
  refine (k.outcomes_spelledFrom hc path o).imp ?_
  intro outcome e hspelled s hs
  obtain ⟨⟨r, hr, hreturns⟩, hparameters⟩ := hspelled s hs
  refine ⟨erasedReturn_of_spelled (isTrimmed_trimmedOr _ _ _) hr hreturns, hparameters.imp ?_⟩
  rintro p e ⟨q, hq, hp⟩
  exact erasedParameter_of_spelled (isTrimmed_trimmedOr _ _ _) hq.resolve_typeName herase hp

/-- A method that returns a reference and takes a reference to an array and one to a pointer. -/
def methodWithReferences : Element :=
  .node "method".toList
    [("name".toList, "m".toList), ("returns".toList, "System.Int32&".toList),
     ("dllImport".toList, "lib".toList)]
    [.node "parameter".toList
      [("name".toList, "a".toList), ("type".toList, "System.Int32[]&".toList)] [],
     .node "parameter".toList
      [("name".toList, "b".toList), ("type".toList, "N.P*&".toList)] []]

/-- An assembly with `methodWithReferences`. -/
def assemblyWithReferences : Element :=
  .node "assembly".toList []
    [.node "type".toList [("fullName".toList, "A".toList)] [methodWithReferences]]

/-- The catalog that `assemblyWithReferences` is. -/
def catalogWithReferences : Catalog where
  types :=
    [{ fullName := "A".toList, namespaceName := []
       methods :=
        [{ name := "m".toList, library := some "lib".toList
           returnType := ⟨"System.Int32&".toList, "System".toList, false⟩
           parameters :=
            [{ name := "a".toList, type := ⟨"System.Int32[]&".toList, "System".toList, false⟩ },
             { name := "b".toList, type := ⟨"N.P*&".toList, "N".toList, false⟩ }] }] }]

/-- The signature of `methodWithReferences` where references are erased. -/
def signatureWithReferences : Signature where
  name := "m".toList
  returnType := "int&".toList
  convention := none
  parameters := [⟨"int[]*".toList, "a".toList⟩, ⟨"P**".toList, "b".toList⟩]

/-- The reference to a pointer becomes a pointer, and what is returned stays a reference. -/
theorem MemberKind.erasure_leaves_pointers_method :
    Catalog.ofElement assemblyWithReferences = .ok catalogWithReferences
      ∧ (MemberKind.imports.source catalogWithReferences none { keepsByRef := false }).outcomes
        = [.ok signatureWithReferences]
      ∧ ErasedReturn "System.Int32&".toList "int&".toList
      ∧ ErasedParameter "N.P*&".toList "P**".toList := by
  have hread : Catalog.ofElement assemblyWithReferences = .ok catalogWithReferences := rfl
  have houtcomes : (MemberKind.imports.source catalogWithReferences none
      { keepsByRef := false }).outcomes = [.ok signatureWithReferences] := rfl
  have hleaves := @MemberKind.erasure_leaves_pointers _ _ hread .imports none
    { keepsByRef := false } rfl
  rw [houtcomes] at hleaves
  refine ⟨hread, houtcomes, ?_⟩
  cases hleaves with
  | cons hfirst _ =>
      obtain ⟨hreturns, hparameters⟩ := hfirst _ rfl
      cases hparameters with
      | cons _ hrest =>
          cases hrest with
          | cons hpointer _ => exact ⟨hreturns, hpointer⟩

/-- Only stars are left of the markers of a name without references but at its end. -/
def LeavesPointers (name text : Text) : Prop :=
  ReferenceLast name → ∀ m ∈ (divideLine text).2, m = .pointer

/-- Where references are erased, what is returned may still be a reference, and a parameter may
    still have an array marker: `int&` and `int[]*` are left of `System.Int32&` and
    `System.Int32[]&`. -/
theorem MemberKind.erasure_spares_references :
    Catalog.ofElement assemblyWithReferences = .ok catalogWithReferences
      ∧ (¬ List.Forall₂ (fun outcome e => ∀ s, outcome = .ok s →
            LeavesPointers e.returnName s.returnType)
          (MemberKind.imports.source catalogWithReferences none { keepsByRef := false }).outcomes
          (MemberKind.imports.elements none assemblyWithReferences))
      ∧ ¬ List.Forall₂ (fun outcome e => ∀ s, outcome = .ok s →
            List.Forall₂ (fun p e => LeavesPointers e.typeName p.type) s.parameters
              e.parameterElements)
          (MemberKind.imports.source catalogWithReferences none { keepsByRef := false }).outcomes
          (MemberKind.imports.elements none assemblyWithReferences) := by
  have houtcomes : (MemberKind.imports.source catalogWithReferences none
      { keepsByRef := false }).outcomes = [.ok signatureWithReferences] := rfl
  rw [houtcomes]
  refine ⟨rfl, ?_, ?_⟩
  · intro hleaves
    cases hleaves with
    | cons hfirst _ =>
        have hreturns : LeavesPointers "System.Int32&".toList "int&".toList := hfirst _ rfl
        exact absurd (hreturns (by decide) .reference (by decide)) (by decide)
  · intro hleaves
    cases hleaves with
    | cons hfirst _ =>
        cases hfirst _ rfl with
        | cons harray _ =>
            have htext : LeavesPointers "System.Int32[]&".toList "int[]*".toList := harray
            exact absurd (htext (by decide) .array (by decide)) (by decide)

end PointerBindings
