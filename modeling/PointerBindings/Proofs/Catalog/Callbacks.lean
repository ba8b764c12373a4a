import PointerBindings.Proofs.Catalog.Members
import PointerBindings.Proofs.Unmanaged.Bases

/-! # Callbacks — what a delegate becomes in a signature

    A callback is named where a type bears the bare name of a declared delegate.  The name
    has no markers, so it is looked up as it stands and finds the first declaration of that
    name, wherever in the document that is; the reference is then known for a delegate, and
    no policy has a say in how it is spelled (`MemberKind.callbacks_opaque`). -/

namespace PointerBindings

open Text Xml

/-- The name stands for a callback: it ends in no marker, and the first type that the
    document declares by it is a delegate. -/
def Xml.Element.DeclaresCallback (root : Element) (name : Text) : Prop :=
  EndsClear name ∧ ∃ e, root.typeElements.find? (fun e => e.declaredName = name) = some e
    ∧ e.declaresDelegate = true

/-! ## Callbacks looked up -/

/-- The first declaration of a name is read from the first element that declares it. -/
theorem findDeclaration?_readFrom {declared : List Declaration} {es : List Element}
    (h : List.Forall₂ Declaration.ReadFrom declared es) (name : Text) :
    Option.Rel Declaration.ReadFrom (findDeclaration? declared name)
      (es.find? fun e => e.declaredName = name) := by
  rw [findDeclaration?]
  induction h with
  | nil => exact .none
  | @cons d first declared es hd _ ih =>
      rw [List.find?_cons, List.find?_cons, hd.fullName_eq]
      by_cases hname : first.declaredName = name
      · rw [decide_eq_true hname]
        exact .some hd
      · rw [decide_eq_false hname]
        exact ih

/-- The first element that declares a name holds its first declaration. -/
theorem findDeclaration?_of_find? {declared : List Declaration} {es : List Element}
    (h : List.Forall₂ Declaration.ReadFrom declared es) {name : Text} {e : Element}
    (hfind : es.find? (fun e => e.declaredName = name) = some e) :
    ∃ d, findDeclaration? declared name = some d ∧ d.ReadFrom e := by
  have hread := findDeclaration?_readFrom h name
  rw [hfind] at hread
  cases hd : findDeclaration? declared name with
  | none => rw [hd] at hread; exact nomatch hread
  | some d =>
      rw [hd] at hread
      cases hread with
      | some hread => exact ⟨d, rfl, hread⟩

/-- The first declaration of a name stands in the first element that declares it. -/
theorem find?_of_findDeclaration? {declared : List Declaration} {es : List Element}
    (h : List.Forall₂ Declaration.ReadFrom declared es) {name : Text} {d : Declaration}
    (hfind : findDeclaration? declared name = some d) :
    ∃ e, es.find? (fun e => e.declaredName = name) = some e ∧ d.ReadFrom e := by
  have hread := findDeclaration?_readFrom h name
  rw [hfind] at hread
  cases he : es.find? fun e => e.declaredName = name with
  | none => rw [he] at hread; exact nomatch hread
  | some e =>
      rw [he] at hread
      cases hread with
      | some hread => exact ⟨e, rfl, hread⟩

/-- A reference is known for a delegate exactly if its name stands for a callback. -/
theorem Catalog.ReadFrom.resolve_isDelegate_iff {c : Catalog} {root : Element}
    (h : c.ReadFrom root) {name : Text} (hname : IsTrimmed name) {r : TypeReference}
    (hr : resolveAmong c.declared name = some r) :
    r.isDelegate = true ↔ root.DeclaresCallback name := by
  rw [resolveAmong_isDelegate hname hr]
  constructor
  · rintro ⟨hclear, d, hd, hdelegate⟩
    obtain ⟨e, hfind, hread⟩ := find?_of_findDeclaration? h.declarations hd
    exact ⟨hclear, e, hfind, hread.isDelegate_eq.symm.trans hdelegate⟩
  · rintro ⟨hclear, e, hfind, hdelegate⟩
    obtain ⟨d, hd, hread⟩ := findDeclaration?_of_find? h.declarations hfind
    exact ⟨hclear, d, hd, hread.isDelegate_eq.trans hdelegate⟩

/-! ## Callbacks spelled -/

/-- A parameter of a delegate by its bare name is an opaque pointer, whatever its
    direction. -/
theorem ReflectedParameter.unmanaged?_of_isDelegate {q : ReflectedParameter}
    (hdelegate : q.type.isDelegate = true) (hclear : EndsClear q.type.fullName) (o : TypePolicy) :
    q.unmanaged? o = some ⟨opaquePointer, q.name⟩ := by
  have hvalue : q.type.isByRef = false :=
    Bool.eq_false_iff.mpr fun h => hclear .reference (endsInReference_iff.mp h)
  rw [unmanaged?, typeText?_of_value hvalue, q.type.unmanaged?_of_isDelegate hdelegate]
  rfl

/-- The types in a signature that are named by callbacks are opaque. -/
theorem Signature.SpelledFrom.callbacks {c : Catalog} {root e : Element} (h : c.ReadFrom root)
    {o : TypePolicy} {s : Signature} (hs : s.SpelledFrom c.declared o e) :
    (root.DeclaresCallback e.returnName → s.returnType = "void*".toList)
      ∧ List.Forall₂ (fun p e => root.DeclaresCallback e.typeName → p.type = "void*".toList)
          s.parameters e.parameterElements := by
  constructor
  · intro hcallback
    obtain ⟨r, hr, hspelled⟩ := hs.returns
    have hdelegate := (h.resolve_isDelegate_iff (isTrimmed_trimmedOr _ _ _) hr).mpr hcallback
    rw [r.unmanaged?_of_isDelegate hdelegate] at hspelled
    exact (Option.some.inj hspelled).symm
  · refine hs.parameters.imp ?_
    rintro p e ⟨q, hq, hspelled⟩ hcallback
    have hname := resolveAmong_fullName (isTrimmed_trimmedOr _ _ _) hq.resolve_typeName
    have hdelegate :=
      (h.resolve_isDelegate_iff (isTrimmed_trimmedOr _ _ _) hq.resolve_typeName).mpr hcallback
    rw [q.unmanaged?_of_isDelegate hdelegate (hname ▸ hcallback.1)] at hspelled
    cases hspelled
    rfl

/-- **Callbacks are opaque.**  In every signature of a source over a catalog that was read,
    each type is `void*` whose name stands for a callback in the document. -/
theorem MemberKind.callbacks_opaque {root : Element} {c : Catalog}
    (hread : Catalog.ofElement root = .ok c) (k : MemberKind) (path : Option Text)
    (o : TypePolicy) :
    List.Forall₂ (fun outcome e => ∀ s, outcome = .ok s →
        (root.DeclaresCallback e.returnName → s.returnType = "void*".toList)
        ∧ List.Forall₂ (fun p e => root.DeclaresCallback e.typeName → p.type = "void*".toList)
            s.parameters e.parameterElements)
      (k.source c path o).outcomes (k.elements path root) := by
  have hc := Catalog.ofElement_eq_ok_iff.mp hread
  refine (k.outcomes_spelledFrom hc path o).imp ?_
  intro outcome e hspelled s hs
  exact (hspelled s hs).callbacks hc

/-- An assembly whose imported method takes and returns a delegate that is declared behind
    it, inside its type and with a namespace of its own. -/
def assemblyWithCallback : Element :=
  .node "assembly".toList []
    [.node "type".toList [("fullName".toList, "N.A".toList)]
      [.node "method".toList
        [("name".toList, "m".toList), ("returns".toList, "N.A+F".toList),
         ("dllImport".toList, "lib".toList)]
        [.node "parameter".toList
          [("name".toList, "f".toList), ("type".toList, " N.A+F\t".toList),
           ("out".toList, "true".toList)] []]],
     .node "type".toList
      [("fullName".toList, "N.A+F ".toList), ("kind".toList, "Delegate".toList),
       ("generic".toList, "true".toList), ("namespace".toList, "M".toList)] []]

/-- The catalog that `assemblyWithCallback` is. -/
def catalogWithCallback : Catalog where
  types :=
    [{ fullName := "N.A".toList, namespaceName := "N".toList
       methods :=
        [{ name := "m".toList, library := some "lib".toList
           returnType := ⟨"N.A+F".toList, "M".toList, true⟩
           parameters :=
            [{ name := "f".toList, isOut := true
               type := ⟨"N.A+F".toList, "M".toList, true⟩ }] }] },
     { fullName := "N.A+F".toList, namespaceName := "M".toList, kind := .delegateKind
       isGeneric := true
       invoke := some
        { name := "Invoke".toList, isStatic := false
          returnType := ⟨"System.Void".toList, "System".toList, false⟩ } }]

/-- The delegate is opaque where it is returned and where it is taken. -/
theorem MemberKind.callbacks_opaque_nested :
    Catalog.ofElement assemblyWithCallback = .ok catalogWithCallback
      ∧ ∃ s, (MemberKind.imports.source catalogWithCallback none {}).outcomes = [.ok s]
        ∧ s.returnType = "void*".toList ∧ s.parameters.map (·.type) = ["void*".toList] := by
  have hread : Catalog.ofElement assemblyWithCallback = .ok catalogWithCallback := rfl
  have hcallback : assemblyWithCallback.DeclaresCallback "N.A+F".toList := by
    refine ⟨?_, _, rfl, by decide⟩
    intro m
    cases m with
    | _ => decide
  let s : Signature := ⟨"m".toList, "void*".toList, none, [⟨"void*".toList, "f".toList⟩]⟩
  have houtcomes : (MemberKind.imports.source catalogWithCallback none {}).outcomes = [.ok s] := rfl
  have hopaque := MemberKind.callbacks_opaque hread .imports none {}
  rw [houtcomes] at hopaque
  refine ⟨hread, s, houtcomes, ?_⟩
  cases hopaque with
  | cons hfirst _ =>
      obtain ⟨hreturns, hparameters⟩ := hfirst s rfl
      cases hparameters with
      | cons hparameter _ =>
          refine ⟨hreturns hcallback, ?_⟩
          rw [List.map_singleton, hparameter hcallback]

end PointerBindings
