import PointerBindings.Proofs.Catalog.Callbacks

/-! # Gaps — signatures that lack a name or a type

    An attribute that is left out or empty is a fault of the document, but one that holds
    only blanks is trimmed to nothing behind that check, and a name that breaks off behind
    its last separator has no innermost type.  A signature has a gap exactly where its element
    gives such a name, and nowhere else (`MemberKind.gaps_iff`); so not every signature of a
    catalog can be used (`MemberKind.signature_with_gaps`). -/

namespace PointerBindings

open Text Xml

/-- Nothing stands behind the last separator of the name: the last plus sign, or, without one,
    the last point. -/
def BreaksOff (name : Text) : Prop :=
  name = [] ∨ name.getLast? = some '+' ∨ '+' ∉ name ∧ name.getLast? = some '.'

instance (name : Text) : Decidable (BreaksOff name) :=
  inferInstanceAs (Decidable (_ ∨ _ ∨ _ ∧ _))

/-! ## Simple names -/

/-- What stands behind the last occurrence of a character is empty exactly if the text ends in
    it. -/
theorem cutLast_after_eq_nil_iff {c : Char} {t before after : Text}
    (h : cutLast c t = some (before, after)) : after = [] ↔ t.getLast? = some c := by
  obtain ⟨rfl, hafter⟩ := eq_of_cutLast h
  constructor
  · rintro rfl
    exact List.getLast?_concat
  · intro hlast
    by_contra hne
    rw [List.getLast?_append_of_ne_nil _ (List.cons_ne_nil c after),
      List.getLast?_cons_of_ne_nil hne] at hlast
    exact hafter (List.mem_of_getLast? hlast)

/-- The innermost type of a base has no name exactly if the base breaks off. -/
theorem innermostOfBase_eq_nil_iff {base : Text} : innermostOfBase base = [] ↔ BreaksOff base := by
  rw [innermostOfBase, BreaksOff]
  cases hplus : cutLast '+' base with
  | some parts =>
      obtain ⟨before, after⟩ := parts
      have hmem : '+' ∈ base := by
        rw [(eq_of_cutLast hplus).1]
        exact List.mem_append_right _ List.mem_cons_self
      dsimp only
      rw [cutLast_after_eq_nil_iff hplus]
      constructor
      · exact fun h => Or.inr (Or.inl h)
      · rintro (rfl | h | ⟨hnone, -⟩)
        · exact absurd hmem List.not_mem_nil
        · exact h
        · exact absurd hmem hnone
  | none =>
      have hnone : '+' ∉ base := cutLast_eq_none_iff.mp hplus
      have hlast : base.getLast? ≠ some '+' := fun h => hnone (List.mem_of_getLast? h)
      dsimp only
      cases hpoint : cutLast '.' base with
      | some parts =>
          obtain ⟨before, after⟩ := parts
          have hmem : '.' ∈ base := by
            rw [(eq_of_cutLast hpoint).1]
            exact List.mem_append_right _ List.mem_cons_self
          dsimp only
          rw [cutLast_after_eq_nil_iff hpoint]
          constructor
          · exact fun h => Or.inr (Or.inr ⟨hnone, h⟩)
          · rintro (rfl | h | ⟨-, h⟩)
            · exact absurd hmem List.not_mem_nil
            · exact absurd h hlast
            · exact h
      | none =>
          have hpointless : base.getLast? ≠ some '.' :=
            fun h => cutLast_eq_none_iff.mp hpoint (List.mem_of_getLast? h)
          constructor
          · exact Or.inl
          · rintro (h | h | ⟨-, h⟩)
            · exact h
            · exact absurd h hlast
            · exact absurd h hpointless

/-- A name that breaks off ends in no marker. -/
theorem BreaksOff.endsClear {name : Text} (h : BreaksOff name) : EndsClear name := by
  intro m hm
  have hlast := getLast?_of_marker hm
  rcases h with rfl | h | ⟨-, h⟩
  · rw [List.getLast?_nil] at hlast
    cases m with
    | _ => exact nomatch hlast
  · rw [h] at hlast
    cases m with
    | _ => exact absurd hlast (by decide)
  · rw [h] at hlast
    cases m with
    | _ => exact absurd hlast (by decide)

theorem spellMarkers_eq_nil_iff {ms : List Marker} : spellMarkers ms = [] ↔ ms = [] := by
  cases ms with
  | nil => exact ⟨fun _ => rfl, fun _ => rfl⟩
  | cons m ms =>
      refine ⟨fun h => ?_, fun h => absurd h (List.cons_ne_nil m ms)⟩
      rw [spellMarkers, List.flatMap_cons] at h
      cases m with
      | _ => cases h

/-- A simple name is empty exactly if the full name breaks off. -/
theorem simpleName?_eq_nil_iff {name simple : Text} (hline : '\n' ∉ name)
    (h : simpleName? name = some simple) : simple = [] ↔ BreaksOff name := by
  rw [simpleName?, divideName?_of_oneLine hline] at h
  obtain rfl := Option.some.inj h
  dsimp only
  rw [List.append_eq_nil_iff, innermostOfBase_eq_nil_iff, spellMarkers_eq_nil_iff]
  constructor
  · rintro ⟨hbreaks, hmarkers⟩
    rw [divideLine_of_markers_nil hmarkers] at hbreaks
    exact hbreaks
  · intro hbreaks
    rw [divideLine_of_endsClear hbreaks.endsClear]
    exact ⟨hbreaks, rfl⟩

/-! ## Types without a text -/

/-- The type has no name once its namespace is taken off. -/
def TypeReference.LacksName (t : TypeReference) : Prop :=
  if '+' ∈ t.fullName then t.fullName = t.namespaceName ++ ['.'] else BreaksOff t.fullName

section Types

variable {t : TypeReference}

theorem exchange_eq_nil_iff {old new : Char} {t : Text} : exchange old new t = [] ↔ t = [] :=
  List.map_eq_nil_iff

/-- Nothing is left of a nested name exactly if its namespace is all of it. -/
theorem nestedName_eq_nil_iff (hnested : '+' ∈ t.fullName) :
    nestedName t = [] ↔ t.fullName = t.namespaceName ++ ['.'] := by
  have hfull : t.fullName ≠ [] := List.ne_nil_of_mem hnested
  rw [nestedName, exchange_eq_nil_iff]
  by_cases hnone : t.namespaceName = []
  · rw [if_pos hnone, hnone]
    refine ⟨fun h => absurd h hfull, fun h => ?_⟩
    rw [h] at hnested
    exact absurd hnested (by decide)
  · rw [if_neg hnone]
    cases hafter : after? (t.namespaceName ++ ['.']) t.fullName with
    | none =>
        refine ⟨fun h => absurd h hfull, fun h => ?_⟩
        rw [after?_eq_some_iff.mpr (h.trans (List.append_nil _).symm)] at hafter
        cases hafter
    | some rest =>
        rw [Option.getD_some, after?_eq_some_iff.mp hafter]
        exact List.append_right_eq_self.symm

theorem plainName?_eq_nil_iff (hline : '\n' ∉ t.fullName) {plain : Text}
    (h : plainName? t = some plain) : plain = [] ↔ t.LacksName := by
  rw [plainName?] at h
  rw [TypeReference.LacksName]
  split at h
  · rename_i hnested
    rw [if_pos hnested, ← Option.some.inj h, nestedName_eq_nil_iff hnested]
  · rename_i hplain
    rw [if_neg hplain]
    exact simpleName?_eq_nil_iff hline h

/-- Every framework type that has a native spelling has a name, and so has the spelling. -/
theorem primitiveSpelling?_named {word : WordSize} {fullName native : Text}
    (h : primitiveSpelling? word fullName = some native) :
    native ≠ [] ∧ fullName ≠ [] ∧ fullName.getLast? ≠ some '.' := by
  have hall : ∀ entry ∈ primitiveSpellings ++ wordSpellings,
      entry.2 ≠ [] ∧ entry.1 ≠ [] ∧ entry.1.getLast? ≠ some '.' := by decide
  exact hall _ (mem_of_primitiveSpelling? h)

/-- A native spelling neither fills a gap nor makes one. -/
theorem nativeName?_eq_nil_iff {o : TypePolicy} {name text : Text} (hline : '\n' ∉ name)
    (h : nativeName? o t name = some text) : text = [] ↔ name = [] := by
  rw [nativeName?] at h
  split at h
  · rw [Option.some.inj h]
  · rw [divideName?_of_oneLine hline] at h
    dsimp only at h
    split at h
    · rename_i native hnative
      obtain ⟨hnamed, hqualified, hpoint⟩ := primitiveSpelling?_named hnative
      rw [← Option.some.inj h, List.append_eq_nil_iff]
      refine ⟨fun hnil => absurd hnil.1 hnamed, fun hnil => ?_⟩
      -- an empty name qualified is no framework type
      rw [hnil] at hqualified hpoint
      rw [qualifiedName] at hqualified hpoint
      split at hqualified
      · exact absurd rfl hqualified
      · rename_i hnamespace
        rw [if_neg hnamespace] at hpoint
        exact absurd List.getLast?_concat hpoint
    · rw [Option.some.inj h]

theorem TypeReference.keptMarkers_eq_nil_iff :
    t.keptMarkers = [] ↔ (divideLine t.fullName).2 = [] := by
  rw [keptMarkers]
  split
  · exact List.map_eq_nil_iff
  · exact Iff.rfl

/-- The text of a type is empty exactly if it is no delegate and lacks a name. -/
theorem TypeReference.unmanaged?_eq_nil_iff (hline : '\n' ∉ t.fullName) {o : TypePolicy}
    {text : Text} (h : t.unmanaged? o = some text) :
    text = [] ↔ t.isDelegate = false ∧ t.LacksName := by
  cases hdelegate : t.isDelegate with
  | true =>
      rw [t.unmanaged?_of_isDelegate hdelegate] at h
      rw [← Option.some.inj h]
      exact ⟨nofun, fun hvalue => nomatch hvalue.1⟩
  | false =>
      have hclear := t.plainBase_endsClear
      have hplainLine := plainBase_oneLine hline
      have hplain := plainName?_eq hline
      have hnative := nativeName?_eq (t := t) o hclear hplainLine (divideLine t.fullName).2
      rw [unmanaged?_eq hline hdelegate] at h
      rw [← Option.some.inj h, ← plainName?_eq_nil_iff hline hplain,
        ← nativeName?_eq_nil_iff ((hclear.isStem hplainLine).oneLine_append _) hnative,
        List.append_eq_nil_iff, List.append_eq_nil_iff, spellMarkers_eq_nil_iff,
        spellMarkers_eq_nil_iff, TypeReference.keptMarkers_eq_nil_iff]
      exact (and_iff_right rfl).symm

/-- A type that lacks a name is not passed by reference. -/
theorem TypeReference.LacksName.isByRef_eq_false (h : t.LacksName) : t.isByRef = false := by
  refine Bool.eq_false_iff.mpr fun hbyRef => ?_
  have hends := endsInReference_iff.mp hbyRef
  rw [LacksName] at h
  split at h
  · have hlast := getLast?_of_marker hends
    rw [h, List.getLast?_concat] at hlast
    exact absurd hlast (by decide)
  · exact h.endsClear .reference hends

end Types

/-- The type of a parameter is empty exactly if it is no delegate and lacks a name. -/
theorem ReflectedParameter.unmanaged?_type_eq_nil_iff {q : ReflectedParameter}
    (hline : '\n' ∉ q.type.fullName) {o : TypePolicy} {p : Parameter}
    (h : q.unmanaged? o = some p) :
    p.type = [] ↔ q.type.isDelegate = false ∧ q.type.LacksName := by
  obtain ⟨text, htext, rfl⟩ := Option.map_eq_some_iff.mp h
  dsimp only
  cases hbyRef : q.type.isByRef with
  | false =>
      rw [typeText?_of_value hbyRef] at htext
      exact q.type.unmanaged?_eq_nil_iff hline htext
  | true =>
      cases hkeep : o.keepsByRef with
      | false =>
          rw [typeText?_of_erased hbyRef hkeep] at htext
          obtain ⟨plain, hplain, rfl⟩ := Option.map_eq_some_iff.mp htext
          rw [exchange_eq_nil_iff]
          exact q.type.unmanaged?_eq_nil_iff hline hplain
      | true =>
          -- the direction is a text already
          rw [typeText?_of_kept hbyRef hkeep] at htext
          obtain ⟨plain, -, rfl⟩ := Option.map_eq_some_iff.mp htext
          refine ⟨fun hnil => ?_, fun hlacks => ?_⟩
          · exact absurd (List.append_eq_nil_iff.mp hnil).2 (List.cons_ne_nil _ _)
          · rw [hlacks.2.isByRef_eq_false] at hbyRef
            exact nomatch hbyRef

/-! ## Names in a document -/

/-- The name stands for no type that has a text: for no callback, and nothing is left of it when
    the namespace is taken off, which for a nested name is the one that its first declaration
    gives. -/
def Xml.Element.NamesNoType (root : Element) (name : Text) : Prop :=
  ¬ root.DeclaresCallback name
    ∧ if '+' ∈ name then
        ∃ e written, root.typeElements.find? (fun e => e.declaredName = name) = some e
          ∧ e.attribute? "namespace".toList = some written ∧ name = trim written ++ ['.']
      else BreaksOff name

/-- A namespace with a plus sign in it is one that was written. -/
theorem Declaration.ReadFrom.namespace_written {d : Declaration} {e : Element} (h : d.ReadFrom e)
    (hplus : '+' ∈ d.namespaceName) :
    ∃ written, e.attribute? "namespace".toList = some written ∧ d.namespaceName = trim written := by
  have hnamespace := h.namespaceName
  rw [declaredNamespace] at hnamespace
  cases hwritten : e.attribute? "namespace".toList with
  | some written =>
      rw [hwritten] at hnamespace
      exact ⟨written, rfl, (Except.ok.inj hnamespace).symm⟩
  | none =>
      rw [hwritten] at hnamespace
      dsimp only at hnamespace
      split at hnamespace
      · rename_i shown hshown
        obtain ⟨parts, -, hbase⟩ := Option.map_eq_some_iff.mp hshown
        rw [← Except.ok.inj hnamespace, ← hbase] at hplus
        exact absurd hplus (plus_notMem_namespaceOfBase _)
      · exact nomatch hnamespace

/-- What a written namespace leaves of a name is what the declaration of the type says. -/
theorem Declaration.ReadFrom.namespaceName_of_written {d : Declaration} {e : Element}
    (h : d.ReadFrom e) {written : Text}
    (hwritten : e.attribute? "namespace".toList = some written) :
    d.namespaceName = trim written := by
  have hnamespace := h.namespaceName
  rw [declaredNamespace, hwritten] at hnamespace
  exact (Except.ok.inj hnamespace).symm

section Documents

variable {root : Element} {c : Catalog}

/-- A reference is no delegate and lacks a name exactly if its name stands for no type. -/
theorem Catalog.ReadFrom.namesNoType_iff (h : c.ReadFrom root) {name : Text}
    (hname : IsTrimmed name) {r : TypeReference} (hr : resolveAmong c.declared name = some r) :
    r.isDelegate = false ∧ r.LacksName ↔ root.NamesNoType name := by
  have hfull := resolveAmong_fullName hname hr
  rw [Xml.Element.NamesNoType, ← h.resolve_isDelegate_iff hname hr, Bool.not_eq_true,
    TypeReference.LacksName, hfull]
  refine and_congr_right fun _ => ?_
  split
  · rename_i hnested
    have hdivide : ∀ namespaceName, name = namespaceName ++ ['.'] → (divideLine name).1 = name := by
      rintro namespaceName rfl
      rw [divideLine_point]
      rfl
    have hresolved := (resolveAmong_trimmed hname hr).2
    constructor
    · intro hlacks
      have hplus : '+' ∈ r.namespaceName := by
        rw [hlacks] at hnested
        rcases List.mem_append.mp hnested with hmem | hmem
        · exact hmem
        · exact absurd hmem (by decide)
      rw [hdivide _ hlacks] at hresolved
      cases hfind : findDeclaration? c.declared name with
      | none =>
          rw [hfind] at hresolved
          rw [hresolved] at hplus
          exact absurd hplus (plus_notMem_namespaceOfBase _)
      | some d =>
          rw [hfind] at hresolved
          rw [hresolved] at hplus hlacks
          obtain ⟨e, he, hread⟩ := find?_of_findDeclaration? h.declarations hfind
          obtain ⟨written, hwritten, htrim⟩ := hread.namespace_written hplus
          exact ⟨e, written, he, hwritten, htrim ▸ hlacks⟩
    · rintro ⟨e, written, he, hwritten, hlacks⟩
      obtain ⟨d, hfind, hread⟩ := findDeclaration?_of_find? h.declarations he
      rw [hdivide _ hlacks, hfind] at hresolved
      rw [hresolved]
      dsimp only
      rw [hread.namespaceName_of_written hwritten]
      exact hlacks
  · exact Iff.rfl

end Documents

/-! ## Whole sources -/

/-- The element gives its member no name: a delegate bears the simple name of its type, an
    imported method its own, which may be all blank. -/
def MemberKind.LeavesUnnamed : MemberKind → Element → Prop
  | .delegates, e => BreaksOff e.declaredName
  | .imports, e => e.trimmedOr "name".toList [] = []

/-- The signature has gaps just where its element leaves them. -/
structure Signature.GapsFrom (root : Element) (k : MemberKind) (s : Signature) (e : Element) :
    Prop where
  name : s.name = [] ↔ k.LeavesUnnamed e
  returnType : s.returnType = [] ↔ root.NamesNoType e.returnName
  parameters : List.Forall₂ (fun p e =>
      (p.name = [] ↔ e.trimmedOr "name".toList [] = [])
      ∧ (p.type = [] ↔ root.NamesNoType e.typeName))
    s.parameters e.parameterElements

/-- A method has its signature under the name that is asked for. -/
theorem Method.signature?_name {o : TypePolicy} {m : Method} {name : Text}
    {convention : Option Text} {s : Signature} (h : m.signature? o name convention = some s) :
    s.name = name := by
  obtain ⟨returnType, -, h⟩ := Option.bind_eq_some_iff.mp h
  obtain ⟨parameters, -, h⟩ := Option.bind_eq_some_iff.mp h
  cases h
  rfl

section Sources

variable {root : Element} {c : Catalog}

theorem Catalog.ReadFrom.returnType_eq_nil_iff (h : c.ReadFrom root) {o : TypePolicy}
    {s : Signature} {e : Element} (hs : s.SpelledFrom c.declared o e) :
    s.returnType = [] ↔ root.NamesNoType e.returnName := by
  obtain ⟨r, hr, hspelled⟩ := hs.returns
  have hname : IsTrimmed e.returnName := isTrimmed_trimmedOr _ _ _
  rw [r.unmanaged?_eq_nil_iff (oneLine_of_resolveAmong hname hr) hspelled,
    h.namesNoType_iff hname hr]

theorem Catalog.ReadFrom.parameters_eq_nil_iff (h : c.ReadFrom root) {o : TypePolicy}
    {s : Signature} {e : Element} (hs : s.SpelledFrom c.declared o e) :
    List.Forall₂ (fun p e =>
        (p.name = [] ↔ e.trimmedOr "name".toList [] = [])
        ∧ (p.type = [] ↔ root.NamesNoType e.typeName))
      s.parameters e.parameterElements := by
  refine hs.parameters.imp ?_
  rintro p e ⟨q, hq, hspelled⟩
  have hname : IsTrimmed e.typeName := isTrimmed_trimmedOr _ _ _
  have hline := oneLine_of_resolveAmong hname hq.resolve_typeName
  constructor
  · obtain ⟨text, -, rfl⟩ := Option.map_eq_some_iff.mp hspelled
    rw [trimmedOr_of_trimmed? hq.name]
  · rw [ReflectedParameter.unmanaged?_type_eq_nil_iff hline hspelled,
      h.namesNoType_iff hname hq.resolve_typeName]

/-- **Where signatures have gaps.**  In every signature of a source over a catalog that was read,
    a name is empty exactly if the element leaves its member or its parameter unnamed, and a type
    exactly if the name in the element stands for no type. -/
theorem MemberKind.gaps_iff (hread : Catalog.ofElement root = .ok c) (k : MemberKind)
    (path : Option Text) (o : TypePolicy) :
    List.Forall₂ (fun outcome e => ∀ s, outcome = .ok s → s.GapsFrom root k e)
      (k.source c path o).outcomes (k.elements path root) := by
  have hc := Catalog.ofElement_eq_ok_iff.mp hread
  cases k with
  | delegates =>
      refine List.forall₂_map_left_iff.mpr ((hc.delegates path).imp ?_)
      intro d e htype s hs
      have hspelled := htype.spelledFrom hs
      refine ⟨?_, hc.returnType_eq_nil_iff hspelled, hc.parameters_eq_nil_iff hspelled⟩
      obtain ⟨m, simple, -, hsimple, hs⟩ := DeclaredType.delegateSignature_eq_ok_iff.mp hs
      rw [Method.signature?_name hs, MemberKind.LeavesUnnamed]
      rw [htype.declaration.fullName_eq] at hsimple
      obtain ⟨parts, hparts, -⟩ := Option.map_eq_some_iff.mp hsimple
      have hline := (oneLine_of_divideName? (isTrimmed_trimmedOr _ _ _) hparts).1
      exact simpleName?_eq_nil_iff hline hsimple
  | imports =>
      refine List.forall₂_map_left_iff.mpr ((hc.imports path).imp ?_)
      intro m e hm s hs
      have hsignature := orUndivided_eq_ok_iff.mp hs
      have hspelled := hm.toCallReadFrom.spelledFrom hsignature
      refine ⟨?_, hc.returnType_eq_nil_iff hspelled, hc.parameters_eq_nil_iff hspelled⟩
      rw [Method.signature?_name hsignature, MemberKind.LeavesUnnamed,
        trimmedOr_of_trimmed? hm.name]

end Sources

/-- A method whose name is blank, which returns a type without a name, and whose parameter has
    neither a name nor a type but blanks for both. -/
def blankMethod : Element :=
  .node "method".toList
    [("name".toList, " ".toList), ("returns".toList, "N.".toList),
     ("dllImport".toList, "lib".toList)]
    [.node "parameter".toList [("name".toList, " ".toList), ("type".toList, " ".toList)] []]

/-- An assembly with `blankMethod` in it. -/
def assemblyWithBlanks : Element :=
  .node "assembly".toList []
    [.node "type".toList [("fullName".toList, "A".toList)] [blankMethod]]

/-- The catalog that `assemblyWithBlanks` is. -/
def catalogWithBlanks : Catalog where
  types :=
    [{ fullName := "A".toList, namespaceName := []
       methods :=
        [{ name := [], library := some "lib".toList
           returnType := ⟨"N.".toList, "N".toList, false⟩
           parameters := [{ name := [], type := ⟨[], [], false⟩ }] }] }]

/-- The signature of `blankMethod`. -/
def blankSignature : Signature :=
  ⟨[], [], none, [⟨[], []⟩]⟩

/-- The element of `blankMethod` leaves every gap that its signature has. -/
theorem MemberKind.gaps_iff_blank :
    Catalog.ofElement assemblyWithBlanks = .ok catalogWithBlanks
      ∧ (MemberKind.imports.source catalogWithBlanks none {}).outcomes = [.ok blankSignature]
      ∧ MemberKind.imports.LeavesUnnamed blankMethod
      ∧ assemblyWithBlanks.NamesNoType "N.".toList
      ∧ assemblyWithBlanks.NamesNoType [] := by
  have hread : Catalog.ofElement assemblyWithBlanks = .ok catalogWithBlanks := rfl
  have houtcomes : (MemberKind.imports.source catalogWithBlanks none {}).outcomes
      = [.ok blankSignature] := rfl
  have hgaps := MemberKind.gaps_iff hread .imports none {}
  rw [houtcomes] at hgaps
  refine ⟨hread, houtcomes, ?_⟩
  cases hgaps with
  | cons hfirst _ =>
      obtain ⟨hname, hreturns, hparameters⟩ := hfirst _ rfl
      cases hparameters with
      | cons hparameter _ => exact ⟨hname.mp rfl, hreturns.mp rfl, hparameter.2.mp rfl⟩

/-- The signature lacks nothing that a class needs of it. -/
structure Signature.IsUsable (s : Signature) : Prop where
  name : s.name ≠ []
  returnType : s.returnType ≠ []
  parameters : ∀ p ∈ s.parameters, p.name ≠ [] ∧ p.type ≠ []

/-- A source over a catalog that was read answers with a signature that has neither a name nor a
    type, and a parameter with neither. -/
theorem MemberKind.signature_with_gaps :
    Catalog.ofElement assemblyWithBlanks = .ok catalogWithBlanks
      ∧ ¬ ∀ s, .ok s ∈ (MemberKind.imports.source catalogWithBlanks none {}).outcomes →
        s.IsUsable := by
  refine ⟨rfl, fun hall => ?_⟩
  have hmem : .ok blankSignature ∈ (MemberKind.imports.source catalogWithBlanks none {}).outcomes :=
    List.mem_singleton.mpr rfl
  exact (hall _ hmem).name rfl

end PointerBindings
