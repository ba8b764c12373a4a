import Mathlib.Data.List.Nodup
import PointerBindings.Proofs.Catalog.Members

/-! # Order — types declared in another order

    References are resolved against the first declaration of a name.  Where no name is
    declared twice the first declaration is the only one, so a row of declarations says the
    same in any order (`findDeclaration?_of_perm`), and so does every member that is read
    with it in sight.  Each type element then stands for one type wherever it is put among
    the others (`Catalog.ofElement_permuted`). -/

namespace PointerBindings

open Text Xml

/-! ## Looking names up -/

/-- Among distinct names each one finds its only declaration. -/
theorem findDeclaration?_eq_some_iff {declared : List Declaration}
    (hnames : (declared.map Declaration.fullName).Nodup) {name : Text} {d : Declaration} :
    findDeclaration? declared name = some d ↔ d ∈ declared ∧ d.fullName = name := by
  constructor
  · intro h
    exact ⟨List.mem_of_find?_eq_some h, by simpa using List.find?_some h⟩
  · rintro ⟨hmem, hname⟩
    cases hfound : findDeclaration? declared name with
    | none =>
        have hother := List.find?_eq_none.mp hfound d hmem
        exact absurd (decide_eq_true hname) hother
    | some first =>
        have hfirst : first.fullName = name := by simpa using List.find?_some hfound
        rw [List.inj_on_of_nodup_map hnames (List.mem_of_find?_eq_some hfound) hmem
          (hfirst.trans hname.symm)]

/-- Distinct names are found alike in any order. -/
theorem findDeclaration?_of_perm {declared declared' : List Declaration}
    (hperm : declared'.Perm declared) (hnames : (declared.map Declaration.fullName).Nodup) :
    findDeclaration? declared' = findDeclaration? declared := by
  have hnames' : (declared'.map Declaration.fullName).Nodup :=
    (hperm.map Declaration.fullName).nodup_iff.mpr hnames
  funext name
  refine Option.ext fun d => ?_
  rw [findDeclaration?_eq_some_iff hnames, findDeclaration?_eq_some_iff hnames', hperm.mem_iff]

/-- References are resolved by what names find. -/
theorem resolveAmong_congr {declared declared' : List Declaration}
    (h : findDeclaration? declared' = findDeclaration? declared) :
    resolveAmong declared' = resolveAmong declared := by
  funext name
  rw [resolveAmong, resolveAmong, h]

/-! ## Members in sight of other declarations

    All that a member shows of the declarations is what its references resolve to. -/

section Sight

variable {declared declared' : List Declaration} {e : Element}

theorem ReflectedParameter.ReadFrom.congr {p : ReflectedParameter} (h : p.ReadFrom declared e)
    (hsight : resolveAmong declared' = resolveAmong declared) : p.ReadFrom declared' e where
  name := h.name
  type := by rw [hsight]; exact h.type
  isIn := h.isIn
  isOut := h.isOut

theorem Method.CallReadFrom.congr {m : Method} (h : m.CallReadFrom declared e)
    (hsight : resolveAmong declared' = resolveAmong declared) : m.CallReadFrom declared' e where
  returns := by rw [hsight]; exact h.returns
  parameters := h.parameters.imp fun _ _ hp => hp.congr hsight

theorem Method.ReadFrom.congr {m : Method} (h : m.ReadFrom declared e)
    (hsight : resolveAmong declared' = resolveAmong declared) : m.ReadFrom declared' e :=
  { h with toCallReadFrom := h.toCallReadFrom.congr hsight }

theorem Method.InvocationReadFrom.congr {m : Method} (h : m.InvocationReadFrom declared e)
    (hsight : resolveAmong declared' = resolveAmong declared) :
    m.InvocationReadFrom declared' e :=
  { h with toCallReadFrom := h.toCallReadFrom.congr hsight }

theorem DeclaredType.ReadFrom.congr {t : DeclaredType} (h : t.ReadFrom declared e)
    (hsight : resolveAmong declared' = resolveAmong declared) : t.ReadFrom declared' e where
  declaration := h.declaration
  invoke := by
    have hinvoke := h.invoke
    split at hinvoke
    · rename_i hdelegate
      obtain ⟨m, hm, hread⟩ := hinvoke
      rw [if_pos hdelegate]
      exact ⟨m, hm, hread.congr hsight⟩
    · rename_i hother
      rw [if_neg hother]
      exact hinvoke
  methods := h.methods.imp fun _ _ hm => hm.congr hsight

end Sight

/-! ## Each element by itself -/

/-- The type that an element stands for in sight of the declarations. -/
def DeclaredType.standsFor (declared : List Declaration) (e : Element) : DeclaredType :=
  match Declaration.ofElement e >>= fun d => DeclaredType.ofElement declared d e with
  | .ok t => t
  | .error _ => default

/-- What is read from an element is the type that it stands for. -/
theorem DeclaredType.ReadFrom.standsFor_eq {declared : List Declaration} {t : DeclaredType}
    {e : Element} (h : t.ReadFrom declared e) : DeclaredType.standsFor declared e = t := by
  have hread : (Declaration.ofElement e >>= fun d => DeclaredType.ofElement declared d e) = .ok t :=
    bind_eq_ok_iff.mpr ⟨t.toDeclaration, Declaration.ofElement_eq_ok_iff.mpr h.declaration,
      (DeclaredType.ofElement_eq_ok_iff h.declaration).mpr ⟨rfl, h⟩⟩
  rw [DeclaredType.standsFor, hread]

/-- The types of a catalog are those that its elements stand for, in order. -/
theorem Catalog.ReadFrom.types_eq {c : Catalog} {root : Element} (h : c.ReadFrom root) :
    c.types = root.typeElements.map (DeclaredType.standsFor c.declared) := by
  have heach : List.Forall₂ (fun t e => t = DeclaredType.standsFor c.declared e) c.types
      root.typeElements := h.types.imp fun _ _ ht => ht.standsFor_eq.symm
  rw [← List.forall₂_eq_eq_eq, List.forall₂_map_right_iff]
  exact heach

theorem Catalog.ReadFrom.standsFor_readFrom {c : Catalog} {root e : Element} (h : c.ReadFrom root)
    (he : e ∈ root.typeElements) :
    (DeclaredType.standsFor c.declared e).ReadFrom c.declared e := by
  have htypes := h.types
  rw [h.types_eq, List.forall₂_map_left_iff, List.forall₂_same] at htypes
  exact htypes e he

/-- The declarations have the names that the elements give. -/
theorem Catalog.ReadFrom.names_declared {c : Catalog} {root : Element} (h : c.ReadFrom root) :
    c.declared.map Declaration.fullName = root.typeElements.map Element.declaredName := by
  have hnames : List.Forall₂ (fun (d : Declaration) e => d.fullName = e.declaredName) c.declared
      root.typeElements := h.declarations.imp fun _ _ hd => hd.fullName_eq
  rw [← List.forall₂_eq_eq_eq, List.forall₂_map_left_iff, List.forall₂_map_right_iff]
  exact hnames

/-- The elements of a catalog whose names are distinct stand for the same types in any
    order. -/
theorem Catalog.ReadFrom.permuted {c : Catalog} {root root' : Element} (h : c.ReadFrom root)
    (hnames : (root.typeElements.map Element.declaredName).Nodup) (htag : root'.tag = root.tag)
    (hattributes : root'.attributes = root.attributes)
    (htypes : root'.typeElements.Perm root.typeElements) :
    Catalog.ReadFrom
      { c with types := root'.typeElements.map (DeclaredType.standsFor c.declared) } root' := by
  have hperm : (root'.typeElements.map (DeclaredType.standsFor c.declared)).Perm c.types := by
    conv_rhs => rw [h.types_eq]
    exact htypes.map _
  -- so the declarations are the same in another order, and every name finds what it found
  have hsight := resolveAmong_congr (findDeclaration?_of_perm (hperm.map DeclaredType.toDeclaration)
    (h.names_declared ▸ hnames))
  refine ⟨htag.trans h.tag, ?_, ?_⟩
  · show c.name = _
    rw [h.name, Element.trimmedOr, Element.trimmedOr, Element.attribute?, Element.attribute?,
      hattributes]
  · refine List.forall₂_map_left_iff.mpr (List.forall₂_same.mpr fun e he => ?_)
    exact (h.standsFor_readFrom (htypes.subset he)).congr hsight

/-! ## Each type by itself -/

/-- What a source over types has to answer is what it has to answer of each of them. -/
theorem MemberKind.outcomes_eq_flatMap (k : MemberKind) (c : Catalog) (path : Option Text)
    (o : TypePolicy) :
    (k.source c path o).outcomes
      = c.types.flatMap fun t => (k.source { types := [t] } path o).outcomes := by
  obtain ⟨name, types⟩ := c
  dsimp only
  induction types with
  | nil => cases k <;> rfl
  | cons t types ih =>
      rw [List.flatMap_cons, ← ih]
      cases k with
      | delegates =>
          show List.map (DeclaredType.delegateSignature o) _ = List.map _ _ ++ List.map _ _
          rw [← List.map_append]
          show List.map _ (List.filter DeclaredType.isPlainDelegate (List.filter _ ([t] ++ types)))
            = List.map _ (List.filter _ (List.filter _ [t]) ++ List.filter _ (List.filter _ types))
          rw [List.filter_append, List.filter_append]
      | imports =>
          show List.map (Method.importSignature o) _ = List.map _ _ ++ List.map _ _
          rw [← List.map_append]
          show List.map _ (List.flatMap _ (List.filter _ ([t] ++ types)))
            = List.map _ (List.flatMap _ (List.filter _ [t]) ++ List.flatMap _ (List.filter _ types))
          rw [List.filter_append, List.flatMap_append]

/-! ## The whole document -/

/-- **The order of declarations does not matter.**  If a tree is a catalog and the names of
    its types are distinct, every tree with the same type elements in another order is a
    catalog too.  Each element stands for the same type in both, so the types, and what any
    source over them has to answer, are regrouped as the elements are. -/
theorem Catalog.ofElement_permuted {root root' : Element} {c : Catalog}
    (hread : Catalog.ofElement root = .ok c)
    (hnames : (root.typeElements.map Element.declaredName).Nodup) (htag : root'.tag = root.tag)
    (hattributes : root'.attributes = root.attributes)
    (htypes : root'.typeElements.Perm root.typeElements) :
    ∃ (c' : Catalog) (define : Element → DeclaredType),
      Catalog.ofElement root' = .ok c' ∧ c'.name = c.name
      ∧ c.types = root.typeElements.map define ∧ c'.types = root'.typeElements.map define
      ∧ ∀ (k : MemberKind) (path : Option Text) (o : TypePolicy),
          (k.source c path o).outcomes
            = root.typeElements.flatMap (fun e => (k.source { types := [define e] } path o).outcomes)
          ∧ (k.source c' path o).outcomes
            = root'.typeElements.flatMap
                fun e => (k.source { types := [define e] } path o).outcomes := by
  have hc := Catalog.ofElement_eq_ok_iff.mp hread
  have hc' := hc.permuted hnames htag hattributes htypes
  refine ⟨_, DeclaredType.standsFor c.declared, Catalog.ofElement_eq_ok_iff.mpr hc', rfl,
    hc.types_eq, rfl, ?_⟩
  intro k path o
  constructor
  · rw [k.outcomes_eq_flatMap]
    conv_lhs => rw [hc.types_eq]
    rw [List.flatMap_map]
  · rw [k.outcomes_eq_flatMap, List.flatMap_map]

/-- A type with a method that returns `F`. -/
def elementOfA : Element :=
  .node "type".toList [("fullName".toList, "A".toList)]
    [.node "method".toList [("name".toList, "m".toList), ("returns".toList, " F ".toList)] []]

/-- A delegate `F` that takes one of its own kind. -/
def elementOfF : Element :=
  .node "type".toList [("fullName".toList, "F".toList), ("kind".toList, "delegate".toList)]
    [.node "parameter".toList [("name".toList, "f".toList), ("type".toList, "F".toList)] []]

/-- What `elementOfA` and `elementOfF` stand for beside each other. -/
def typeA : DeclaredType where
  fullName := "A".toList
  namespaceName := []
  methods := [{ name := "m".toList, returnType := ⟨"F".toList, [], true⟩ }]

@[inherit_doc typeA]
def typeF : DeclaredType where
  fullName := "F".toList
  namespaceName := []
  kind := .delegateKind
  invoke := some
    { name := "Invoke".toList, isStatic := false
      returnType := ⟨"System.Void".toList, "System".toList, false⟩
      parameters := [{ name := "f".toList, type := ⟨"F".toList, [], true⟩ }] }

/-- A delegate may stand behind the type that refers to it or in front of it. -/
theorem Catalog.ofElement_permuted_delegate :
    Catalog.ofElement (.node "assembly".toList [] [elementOfA, elementOfF])
        = .ok { types := [typeA, typeF] }
      ∧ ∃ c, Catalog.ofElement (.node "assembly".toList [] [elementOfF, elementOfA]) = .ok c
        ∧ c.types = [typeF, typeA] := by
  have hread : Catalog.ofElement (.node "assembly".toList [] [elementOfA, elementOfF])
      = .ok { types := [typeA, typeF] } := rfl
  have hperm : (Element.typeElements
      (.node "assembly".toList [] [elementOfF, elementOfA])).Perm
        (Element.typeElements (.node "assembly".toList [] [elementOfA, elementOfF])) :=
    .swap elementOfA elementOfF []
  obtain ⟨c, define, hread', -, htypes, htypes', -⟩ :=
    @Catalog.ofElement_permuted _ (.node "assembly".toList [] [elementOfF, elementOfA]) _ hread
      (by decide) rfl rfl hperm
  refine ⟨hread, c, hread', ?_⟩
  have hdefine : [typeA, typeF] = [define elementOfA, define elementOfF] := htypes
  obtain ⟨hA, hrest⟩ := List.cons.inj hdefine
  obtain ⟨hF, -⟩ := List.cons.inj hrest
  rw [hA, hF]
  exact htypes'

end PointerBindings
