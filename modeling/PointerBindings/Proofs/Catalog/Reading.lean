import PointerBindings.Proofs.Catalog.Description
import PointerBindings.Proofs.Catalog.Members
import PointerBindings.Proofs.Signature.Grammar
import PointerBindings.Proofs.TypeName.Markers

/-! # Reading — the catalog that a rendered description gives

    Each part of a description is read back from every element that renders it: first the
    values of attributes, then declarations, parameters and methods, and from these the
    types and the whole assembly (`Catalog.ofElement_renders`). -/

namespace PointerBindings

open Text Xml

/-! ## Attributes -/

namespace Xml.Element

variable {e : Element} {key default value word : Text}

/-- What is written without blanks around it is written. -/
theorem writes_of_eq (h : e.attribute? key = some value) : e.Writes key value :=
  ⟨[], [], rfl, rfl, by rw [h, List.nil_append, List.append_nil]⟩

/-- What is written for a trimmed value gives the value back. -/
theorem Writes.exists_trim_eq (h : e.Writes key value) (ht : IsTrimmed value) :
    ∃ written, e.attribute? key = some written ∧ trim written = value := by
  obtain ⟨before, behind, hbefore, hbehind, hwritten⟩ := h
  exact ⟨_, hwritten, trim_of_blanks_around hbefore hbehind ht⟩

/-- A value that is not empty counts as present. -/
theorem Writes.trimmed? (h : e.Writes key value) (ht : IsTrimmed value)
    (hne : value ≠ []) : trimmed? e key = some value := by
  obtain ⟨written, hwritten, htrim⟩ := h.exists_trim_eq ht
  have hpresent : required? e key = some written := by
    rw [required?, hwritten]
    split
    · rename_i h; cases h
    · rename_i h
      rw [Option.some.inj h] at htrim
      exact absurd htrim.symm hne
    · rename_i h; exact h.symm
  rw [PointerBindings.trimmed?, hpresent, Option.map_some, htrim]

theorem WritesOr.trim_eq (h : e.WritesOr key default value) (ht : IsTrimmed value) :
    trim ((e.attribute? key).getD default) = value := by
  rcases h with hwrites | ⟨rfl, hnone⟩
  · obtain ⟨written, hwritten, htrim⟩ := hwrites.exists_trim_eq ht
    rw [hwritten, Option.getD_some, htrim]
  · rw [hnone, Option.getD_none, trim_eq_self_iff.mpr ht]

theorem WritesAny.trim_eq {given : Option TrimmedText}
    (h : e.WritesAny key (given.map (·.text))) :
    (e.attribute? key).map trim = given.map (·.text) := by
  cases given with
  | none => rw [show e.attribute? key = none from h]; rfl
  | some t =>
      obtain ⟨written, hwritten, htrim⟩ := Writes.exists_trim_eq h t.trimmed
      rw [hwritten, Option.map_some, htrim]
      rfl

theorem WritesAny.trimmed? {given : Option PlainName}
    (h : e.WritesAny key (given.map (·.text))) :
    trimmed? e key = given.map (·.text) := by
  cases given with
  | none => rw [PointerBindings.trimmed?, required?, show e.attribute? key = none from h]; rfl
  | some n => exact Writes.trimmed? h n.trimmed n.ne_nil

/-- What is read where a plain word is written is that word. -/
theorem WritesWordOr.lower_trim (h : e.WritesWordOr key default word) (hword : IsPlainWord word) :
    lower (trim ((e.attribute? key).getD default)) = word := by
  rcases h with ⟨value, hcase, before, behind, hbefore, hbehind, hwritten⟩ | ⟨rfl, hnone⟩
  · rw [hwritten, Option.getD_some, hword.lower_trim hcase hbefore hbehind]
  · rw [hnone, Option.getD_none]
    have hself : lower (trim ([] ++ word ++ [])) = word := hword.lower_trim hword.2 rfl rfl
    rwa [List.nil_append, List.append_nil] at hself

end Xml.Element

theorem truthWord_isPlainWord (b : Bool) : IsPlainWord (truthWord b) := by
  cases b with
  | false => decide +kernel
  | true => decide +kernel

theorem spelling_isPlainWord (k : TypeKind) : IsPlainWord k.spelling := by
  cases k with
  | _ => decide +kernel

theorem truthWord_injective {a b : Bool} (h : truthWord a = truthWord b) : a = b := by
  revert a b
  decide

/-- A flag is read as it is written. -/
theorem flag_eq {e : Element} {key : Text} {default value : Bool}
    (h : e.WritesWordOr key (truthWord default) (truthWord value)) :
    flag e key default = value := by
  have hword := h.lower_trim (truthWord_isPlainWord value)
  rw [flag]
  cases hpresent : e.attribute? key with
  | none =>
      rcases h with ⟨spelled, -, hwritten⟩ | ⟨hdefault, -⟩
      · obtain ⟨before, behind, -, -, hwritten⟩ := hwritten
        exact nomatch hpresent.symm.trans hwritten
      · exact (truthWord_injective hdefault).symm
  | some spelled =>
      rw [hpresent, Option.getD_some] at hword
      dsimp only
      rw [hword]
      cases value with
      | false => rfl
      | true => rfl

/-! ## References -/

theorem PlainName.namespaceOf?_eq (n : PlainName) :
    namespaceOf? n.text = some n.shownNamespace := by
  rw [namespaceOf?, divideName?_of_oneLine n.oneLine]
  rfl

/-- Every name can be referred to by. -/
theorem PlainName.resolveAmong_eq (n : PlainName) (declared : List Declaration) :
    resolveAmong declared n.text = some (n.reference declared) := by
  rw [resolveAmong, divideName?_of_oneLine n.oneLine, reference]
  dsimp only
  cases findDeclaration? declared (divideLine n.text).1 with
  | none => rfl
  | some d => rfl

theorem PlainName.referenceTo_eq (n : PlainName) (declared : List Declaration) :
    referenceTo declared n.text = .ok (n.reference declared) := by
  rw [referenceTo, n.resolveAmong_eq]

theorem RendersReturns.returnReference_eq {returns : PlainName} {e : Element}
    (h : RendersReturns returns e) (declared : List Declaration) :
    returnReference declared e = .ok (returns.reference declared) := by
  rw [returnReference, Element.WritesOr.trim_eq h returns.trimmed, returns.referenceTo_eq]

/-! ## Members -/

/-- What is read from each of some things is read from them all, in their order. -/
theorem mapM_of_renders {α β ε : Type} {R : α → ε → Prop} {f : ε → Except CatalogFault β}
    {g : α → β} (hread : ∀ a e, R a e → f e = .ok (g a)) {as : List α} {es : List ε}
    (h : List.Forall₂ R as es) : es.mapM f = .ok (as.map g) := by
  rw [mapM_eq_ok_iff (P := fun b e => f e = .ok b) fun _ _ => Iff.rfl, List.forall₂_map_left_iff]
  exact h.imp hread

theorem ParameterDescription.Renders.ofElement_eq {p : ParameterDescription} {e : Element}
    (h : p.Renders e) (declared : List Declaration) (owner : Text) :
    ReflectedParameter.ofElement declared owner e = .ok (p.parameter declared) := by
  rw [ReflectedParameter.ofElement, h.name.trimmed? p.name.trimmed p.name.ne_nil,
    h.type.trimmed? p.type.trimmed p.type.ne_nil]
  dsimp only
  rw [p.type.referenceTo_eq, flag_eq h.isIn, flag_eq h.isOut]
  rfl

theorem RendersParameters.parametersInside_eq {parameters : List ParameterDescription}
    {e : Element} (h : RendersParameters parameters e) (declared : List Declaration)
    (owner : Text) :
    parametersInside declared owner e = .ok (parameters.map (·.parameter declared)) :=
  mapM_of_renders (fun _ _ hp => hp.ofElement_eq declared owner) h

theorem MethodDescription.Renders.ofElement_eq {m : MethodDescription} {e : Element}
    (h : m.Renders e) (declared : List Declaration) (owner : Text) :
    Method.ofElement declared owner e = .ok (m.method declared) := by
  rw [Method.ofElement, h.name.trimmed? m.name.trimmed m.name.ne_nil]
  dsimp only
  rw [h.returns.returnReference_eq, h.parameters.parametersInside_eq, flag_eq h.isStatic,
    h.library.trim_eq, h.convention.trimmed?]
  rfl

/-! ## Types -/

theorem TypeDescription.Renders.declaredNamespace_eq {t : TypeDescription} {e : Element}
    (h : t.Renders e) : declaredNamespace e t.fullName.text = .ok t.fullNamespace := by
  rw [declaredNamespace]
  rcases h.namespaceName with ⟨given, hgiven, hwrites⟩ | ⟨hshown, hnone⟩
  · obtain ⟨written, hwritten, htrim⟩ := hwrites.exists_trim_eq given.trimmed
    rw [hwritten, fullNamespace, hgiven]
    exact congrArg Except.ok htrim
  · rw [hnone, hshown]
    dsimp only
    rw [t.fullName.namespaceOf?_eq]

/-- **A declaration** is read as it is described. -/
theorem TypeDescription.Renders.ofElement_eq {t : TypeDescription} {e : Element}
    (h : t.Renders e) : Declaration.ofElement e = .ok t.declaration := by
  have hkind : lower (trim ((e.attribute? "kind".toList).getD "class".toList))
      = t.kind.kind.spelling :=
    h.kind.lower_trim (spelling_isPlainWord t.kind.kind)
  rw [Declaration.ofElement, h.fullName.trimmed? t.fullName.trimmed t.fullName.ne_nil]
  dsimp only
  rw [hkind, TypeKind.ofSpelling?_eq_some_iff.mpr rfl]
  dsimp only
  rw [h.declaredNamespace_eq, flag_eq h.isGeneric, h.convention.trimmed?]
  rfl

/-- How a type is called is read of a delegate only. -/
theorem TypeDescription.Renders.invoke_eq {t : TypeDescription} {e : Element}
    (h : t.Renders e) (declared : List Declaration) :
    (if t.declaration.isDelegate then some <$> Method.invocation declared t.fullName.text e
      else pure none) = .ok (t.kind.invoke declared) := by
  have hinvoke := h.invoke
  rw [show t.declaration.isDelegate = decide (t.kind.kind = .delegateKind) from rfl]
  cases hkind : t.kind with
  | delegateKind returns parameters =>
      rw [hkind] at hinvoke
      obtain ⟨hreturns, hparameters⟩ := hinvoke
      rw [KindDescription.kind, decide_eq_true rfl, if_pos rfl, Method.invocation,
        hreturns.returnReference_eq, hparameters.parametersInside_eq]
      rfl
  | _ => rfl

/-- **The members of a type** are read as they are described. -/
theorem TypeDescription.Renders.declaredType_eq {t : TypeDescription} {e : Element}
    (h : t.Renders e) (declared : List Declaration) :
    DeclaredType.ofElement declared t.declaration e = .ok (t.declaredType declared) := by
  have hmethods : (e.childrenNamed "method".toList).mapM
      (Method.ofElement declared t.declaration.fullName)
        = .ok (t.methods.map (·.method declared)) :=
    mapM_of_renders (fun _ _ hm => hm.ofElement_eq declared _) h.methods
  have hinvoke := h.invoke_eq declared
  rw [DeclaredType.ofElement, hmethods]
  split
  · rename_i hdelegate
    rw [if_pos hdelegate] at hinvoke
    rw [show t.declaration.fullName = t.fullName.text from rfl, hinvoke]
    rfl
  · rename_i hother
    rw [if_neg hother] at hinvoke
    rw [hinvoke]
    rfl

/-! ## Assemblies -/

theorem definitionsOf_eq {types : List TypeDescription} {es : List Element}
    (h : List.Forall₂ TypeDescription.Renders types es) :
    definitionsOf es
      = .ok (types.map (·.declaredType (types.map TypeDescription.declaration))) := by
  have hdeclared : es.mapM Declaration.ofElement = .ok (types.map TypeDescription.declaration) :=
    mapM_of_renders (fun _ _ ht => ht.ofElement_eq) h
  -- every declaration stands next to the element that it was read from
  have hpairs : List.Forall₂ (fun t (entry : Declaration × Element) =>
      entry.1 = t.declaration ∧ t.Renders entry.2) types
      ((types.map TypeDescription.declaration).zip es) := by
    clear hdeclared
    induction h with
    | nil => exact .nil
    | cons ht _ ih => exact .cons ⟨rfl, ht⟩ ih
  have hread := mapM_of_renders
    (f := fun (entry : Declaration × Element) =>
      DeclaredType.ofElement (types.map TypeDescription.declaration) entry.1 entry.2)
    (g := (·.declaredType (types.map TypeDescription.declaration)))
    (fun t entry ht => by rw [ht.1]; exact ht.2.declaredType_eq _) hpairs
  rw [definitionsOf, hdeclared]
  exact hread

/-- What the types of a described catalog say of themselves. -/
theorem AssemblyDescription.declared_catalog (a : AssemblyDescription) :
    a.catalog.declared = a.types.map TypeDescription.declaration := by
  rw [Catalog.declared, catalog, List.map_map]
  rfl

/-- References resolve against the described catalog itself. -/
theorem AssemblyDescription.resolve_catalog (a : AssemblyDescription) (n : PlainName) :
    a.catalog.resolve n.text = some (n.reference (a.types.map TypeDescription.declaration)) := by
  rw [Catalog.resolve, a.declared_catalog, n.resolveAmong_eq]

/-- Exactly the delegates are called. -/
theorem TypeDescription.invoke_isSome_iff (t : TypeDescription) (declared : List Declaration) :
    (t.declaredType declared).invoke.isSome ↔ (t.declaredType declared).kind = .delegateKind := by
  show (t.kind.invoke declared).isSome ↔ t.kind.kind = .delegateKind
  cases t.kind with
  | delegateKind returns parameters => exact ⟨fun _ => rfl, fun _ => rfl⟩
  | _ => exact ⟨nofun, nofun⟩

theorem AssemblyDescription.Renders.ofElement_eq {a : AssemblyDescription} {root : Element}
    (h : a.Renders root) : Catalog.ofElement root = .ok a.catalog := by
  rw [Catalog.ofElement, if_neg (by rw [h.tag]; exact not_not_intro rfl),
    definitionsOf_eq h.types, h.name.trim_eq a.name.trimmed]
  rfl

/-! ## One rendering -/

theorem Xml.Element.writesAny_of_eq {e : Element} {key : Text} {given : Option Text}
    (h : e.attribute? key = given) : e.WritesAny key given := by
  cases given with
  | none => exact h
  | some value => exact writes_of_eq h

theorem Xml.Element.writesWordOr_of_eq {e : Element} {key default word : Text}
    (hword : IsPlainWord word) (h : e.attribute? key = some word) :
    e.WritesWordOr key default word :=
  Or.inl ⟨word, hword.2, writes_of_eq h⟩

theorem ParameterDescription.toElement_renders (p : ParameterDescription) :
    p.Renders p.toElement where
  name := Element.writes_of_eq rfl
  type := Element.writes_of_eq rfl
  isIn := Element.writesWordOr_of_eq (truthWord_isPlainWord p.isIn) rfl
  isOut := Element.writesWordOr_of_eq (truthWord_isPlainWord p.isOut) rfl

/-- Each of some things is rendered by its own element. -/
theorem forall₂_toElement {α : Type} {R : α → Element → Prop} {toElement : α → Element}
    (h : ∀ a, R a (toElement a)) (as : List α) : List.Forall₂ R as (as.map toElement) :=
  List.forall₂_map_right_iff.mpr (List.forall₂_same.mpr fun a _ => h a)

/-- All elements have the tag that is looked for. -/
theorem filter_tag_eq_self {α : Type} (toElement : α → Element) {tag : Text}
    (h : ∀ a, (toElement a).tag = tag) (as : List α) :
    (as.map toElement).filter (fun child => child.tag = tag) = as.map toElement := by
  refine List.filter_eq_self.mpr fun child hchild => ?_
  obtain ⟨a, -, rfl⟩ := List.mem_map.mp hchild
  exact decide_eq_true (h a)

/-- No element has the tag that is looked for. -/
theorem filter_tag_eq_nil {α : Type} (toElement : α → Element) {tag : Text}
    (h : ∀ a, (toElement a).tag ≠ tag) (as : List α) :
    (as.map toElement).filter (fun child => child.tag = tag) = [] := by
  refine List.filter_eq_nil_iff.mpr fun child hchild => ?_
  obtain ⟨a, -, rfl⟩ := List.mem_map.mp hchild
  simpa using h a

/-- The optional attributes of a method. -/
theorem MethodDescription.attribute?_toElement (m : MethodDescription) :
    m.toElement.attribute? "dllImport".toList = m.library.map (·.text)
      ∧ m.toElement.attribute? "callingConvention".toList = m.convention.map (·.text) := by
  rw [toElement]
  cases m.library <;> cases m.convention <;> exact ⟨rfl, rfl⟩

theorem MethodDescription.toElement_renders (m : MethodDescription) : m.Renders m.toElement where
  name := Element.writes_of_eq rfl
  returns := Or.inl (Element.writes_of_eq rfl)
  isStatic := Element.writesWordOr_of_eq (truthWord_isPlainWord m.isStatic) rfl
  library := Element.writesAny_of_eq m.attribute?_toElement.1
  convention := Element.writesAny_of_eq m.attribute?_toElement.2
  parameters := by
    have hchildren : m.toElement.childrenNamed "parameter".toList
        = m.parameters.map ParameterDescription.toElement :=
      filter_tag_eq_self ParameterDescription.toElement (fun _ => rfl) m.parameters
    rw [RendersParameters, hchildren]
    exact forall₂_toElement ParameterDescription.toElement_renders m.parameters

/-- The optional attributes of a type. -/
theorem TypeDescription.attribute?_toElement (t : TypeDescription) :
    t.toElement.attribute? "namespace".toList = t.namespaceName.map (·.text)
      ∧ t.toElement.attribute? "callingConvention".toList = t.convention.map (·.text) := by
  rw [toElement]
  cases t.namespaceName <;> cases t.convention <;> cases t.kind <;> exact ⟨rfl, rfl⟩

theorem TypeDescription.parameters_toElement (t : TypeDescription) :
    t.toElement.childrenNamed "parameter".toList
      = t.kind.parameters.map ParameterDescription.toElement := by
  have htag : "method".toList ≠ "parameter".toList := by decide
  have hother : (t.methods.map MethodDescription.toElement).filter
      (fun child => child.tag = "parameter".toList) = [] :=
    filter_tag_eq_nil MethodDescription.toElement (fun _ => htag) t.methods
  rw [Element.childrenNamed, toElement, Element.children, List.filter_append, hother,
    List.append_nil]
  exact filter_tag_eq_self ParameterDescription.toElement (fun _ => rfl) t.kind.parameters

theorem TypeDescription.methods_toElement (t : TypeDescription) :
    t.toElement.childrenNamed "method".toList = t.methods.map MethodDescription.toElement := by
  have htag : "parameter".toList ≠ "method".toList := by decide
  have hother : (t.kind.parameters.map ParameterDescription.toElement).filter
      (fun child => child.tag = "method".toList) = [] :=
    filter_tag_eq_nil ParameterDescription.toElement (fun _ => htag) t.kind.parameters
  rw [Element.childrenNamed, toElement, Element.children, List.filter_append, hother,
    List.nil_append]
  exact filter_tag_eq_self MethodDescription.toElement (fun _ => rfl) t.methods

theorem TypeDescription.toElement_rendersInvoke (t : TypeDescription) :
    t.kind.RendersInvoke t.toElement := by
  have hparameters := t.parameters_toElement
  cases hkind : t.kind with
  | delegateKind returns parameters =>
      rw [hkind] at hparameters
      refine ⟨Or.inl (Element.writes_of_eq ?_), ?_⟩
      · rw [toElement, hkind]
        cases t.namespaceName <;> cases t.convention <;> rfl
      · rw [RendersParameters, hparameters]
        exact forall₂_toElement ParameterDescription.toElement_renders parameters
  | _ => trivial

theorem TypeDescription.toElement_renders (t : TypeDescription) : t.Renders t.toElement where
  fullName := Element.writes_of_eq rfl
  namespaceName := by
    have hnamespace := t.attribute?_toElement.1
    cases hgiven : t.namespaceName with
    | none =>
        rw [hgiven] at hnamespace
        exact Or.inr ⟨by rw [fullNamespace, hgiven], hnamespace⟩
    | some given =>
        rw [hgiven] at hnamespace
        exact Or.inl ⟨given, rfl, Element.writes_of_eq hnamespace⟩
  kind := Element.writesWordOr_of_eq (spelling_isPlainWord t.kind.kind) rfl
  isGeneric := Element.writesWordOr_of_eq (truthWord_isPlainWord t.isGeneric) rfl
  convention := Element.writesAny_of_eq t.attribute?_toElement.2
  invoke := t.toElement_rendersInvoke
  methods := by
    rw [t.methods_toElement]
    exact forall₂_toElement MethodDescription.toElement_renders t.methods

theorem AssemblyDescription.toElement_renders (a : AssemblyDescription) :
    a.Renders a.toElement where
  tag := rfl
  name := Or.inl (Element.writes_of_eq rfl)
  types := by
    have hchildren : a.toElement.childrenNamed "type".toList
        = a.types.map TypeDescription.toElement :=
      filter_tag_eq_self TypeDescription.toElement (fun _ => rfl) a.types
    rw [hchildren]
    exact forall₂_toElement TypeDescription.toElement_renders a.types

/-! ## Faithful reading -/

/-- **A catalog document is read as it is meant.**  Every element tree that renders a
    description gives the catalog of that description, and there is such a tree.  A name by
    itself shows the namespace that stands for one left out, a reference is what the catalog
    resolves it to, and exactly the delegates say how they are called. -/
theorem Catalog.ofElement_renders (a : AssemblyDescription) :
    (∀ root, a.Renders root → Catalog.ofElement root = .ok a.catalog)
      ∧ a.Renders a.toElement
      ∧ (∀ n : PlainName, namespaceOf? n.text = some n.shownNamespace)
      ∧ (∀ n : PlainName, a.catalog.resolve n.text
          = some (n.reference (a.types.map TypeDescription.declaration)))
      ∧ ∀ t ∈ a.catalog.types, t.invoke.isSome ↔ t.kind = .delegateKind := by
  refine ⟨fun root h => h.ofElement_eq, a.toElement_renders, fun n => n.namespaceOf?_eq,
    a.resolve_catalog, fun t ht => ?_⟩
  obtain ⟨described, -, rfl⟩ := List.mem_map.mp ht
  exact described.invoke_isSome_iff _

/-- A type with a parameter of a delegate that is declared behind it, blanks and capitals
    strewn in and defaults left out. -/
theorem Catalog.ofElement_renders_delegate :
    Catalog.ofElement
        (.node "assembly".toList []
          [.node "type".toList [("fullName".toList, " N.Api".toList)]
            [.node "method".toList
              [("name".toList, "Run\t".toList), ("static".toList, " FALSE".toList),
               ("dllImport".toList, []), ("callingConvention".toList, "Cdecl ".toList)]
              [.node "parameter".toList
                [("name".toList, "f".toList), ("type".toList, " N.Call ".toList),
                 ("in".toList, "True".toList)] []]],
           .node "type".toList
            [("fullName".toList, "N.Call".toList), ("kind".toList, " Delegate".toList),
             ("namespace".toList, " M ".toList), ("returns".toList, "N.Call&".toList)] []])
      = .ok
        { types :=
            [{ fullName := "N.Api".toList, namespaceName := "N".toList
               methods :=
                [{ name := "Run".toList, isStatic := false, library := some []
                   convention := some "Cdecl".toList
                   returnType := ⟨"System.Void".toList, "System".toList, false⟩
                   parameters :=
                    [{ name := "f".toList, isIn := true
                       type := ⟨"N.Call".toList, "M".toList, true⟩ }] }] },
             { fullName := "N.Call".toList, namespaceName := "M".toList, kind := .delegateKind
               invoke := some
                { name := "Invoke".toList, isStatic := false
                  returnType := ⟨"N.Call&".toList, "M".toList, false⟩ } }] } := by
  let void : PlainName := ⟨⟨"System.Void".toList, by decide⟩, by decide, by decide⟩
  let api : PlainName := ⟨⟨"N.Api".toList, by decide⟩, by decide, by decide⟩
  let call : PlainName := ⟨⟨"N.Call".toList, by decide⟩, by decide, by decide⟩
  let callByRef : PlainName := ⟨⟨"N.Call&".toList, by decide⟩, by decide, by decide⟩
  let runName : PlainName := ⟨⟨"Run".toList, by decide⟩, by decide, by decide⟩
  let cdecl : PlainName := ⟨⟨"Cdecl".toList, by decide⟩, by decide, by decide⟩
  let f : PlainName := ⟨⟨"f".toList, by decide⟩, by decide, by decide⟩
  let run : MethodDescription :=
    { name := runName, returns := void, isStatic := false, library := some ⟨[], by decide⟩
      convention := some cdecl, parameters := [{ name := f, type := call, isIn := true }] }
  let types : List TypeDescription :=
    [{ fullName := api, methods := [run] },
     { fullName := call, namespaceName := some ⟨"M".toList, by decide⟩
       kind := .delegateKind callByRef [] }]
  refine ((ofElement_renders ⟨⟨[], by decide⟩, types⟩).1 _ ⟨rfl, Or.inr ⟨rfl, rfl⟩,
    .cons ?_ (.cons ?_ .nil)⟩).trans rfl
  · exact
      { fullName := ⟨[' '], [], rfl, rfl, rfl⟩
        namespaceName := Or.inr ⟨rfl, rfl⟩
        kind := Or.inr ⟨rfl, rfl⟩
        isGeneric := Or.inr ⟨rfl, rfl⟩
        convention := rfl
        invoke := trivial
        methods := .cons
          { name := ⟨[], ['\t'], rfl, rfl, rfl⟩
            returns := Or.inr ⟨rfl, rfl⟩
            isStatic := Or.inl ⟨"FALSE".toList, by decide, [' '], [], rfl, rfl, rfl⟩
            library := ⟨[], [], rfl, rfl, rfl⟩
            convention := ⟨[], [' '], rfl, rfl, rfl⟩
            parameters := .cons
              { name := ⟨[], [], rfl, rfl, rfl⟩
                type := ⟨[' '], [' '], rfl, rfl, rfl⟩
                isIn := Or.inl ⟨"True".toList, by decide, [], [], rfl, rfl, rfl⟩
                isOut := Or.inr ⟨rfl, rfl⟩ }
              .nil }
          .nil }
  · exact
      { fullName := ⟨[], [], rfl, rfl, rfl⟩
        namespaceName := Or.inl ⟨_, rfl, [' '], [' '], rfl, rfl, rfl⟩
        kind := Or.inl ⟨"Delegate".toList, by decide, [' '], [], rfl, rfl, rfl⟩
        isGeneric := Or.inr ⟨rfl, rfl⟩
        convention := rfl
        invoke := ⟨Or.inl ⟨[], [], rfl, rfl, rfl⟩, .nil⟩
        methods := .nil }

end PointerBindings
