import Mathlib.Data.List.Forall2
import PointerBindings.Catalog.Document
import PointerBindings.Proofs.Signature.Grammar
import PointerBindings.Proofs.Source.Outcomes
import PointerBindings.Proofs.TypeName.Markers

/-! # Members — a catalog held against the elements it was read from

    A document is a catalog exactly if every part of the catalog is read from its element
    (`Catalog.ofElement_eq_ok_iff`): declarations by themselves, and members as seen from
    all declarations.  So what a source over the catalog spells can be followed back to the
    document: it has one outcome for each element of a member that it selects, in order,
    and the types in a signature are those that the element names
    (`MemberKind.outcomes_spelledFrom`). -/

namespace PointerBindings

open Text Xml

/-! ## What elements name -/

namespace Xml.Element

/-- The value of an attribute without the blanks around it, or the default where the
    attribute is left out. -/
def trimmedOr (e : Element) (key default : Text) : Text :=
  trim ((e.attribute? key).getD default)

/-- The elements that declare types. -/
def typeElements (root : Element) : List Element :=
  root.childrenNamed "type".toList

/-- The elements of methods. -/
def methodElements (e : Element) : List Element :=
  e.childrenNamed "method".toList

/-- The elements of parameters. -/
def parameterElements (e : Element) : List Element :=
  e.childrenNamed "parameter".toList

/-- The full name of the type that the element declares. -/
def declaredName (e : Element) : Text :=
  e.trimmedOr "fullName".toList []

/-- The element declares a delegate. -/
def declaresDelegate (e : Element) : Bool :=
  lower (e.trimmedOr "kind".toList "class".toList) = TypeKind.delegateKind.spelling

/-- The name of the type that a method or delegate returns. -/
def returnName (e : Element) : Text :=
  e.trimmedOr "returns".toList "System.Void".toList

/-- The name of the type of a parameter. -/
def typeName (e : Element) : Text :=
  e.trimmedOr "type".toList []

end Xml.Element

theorem trimmed?_eq_some_iff {e : Element} {key value : Text} :
    trimmed? e key = some value
      ↔ ∃ written, e.attribute? key = some written ∧ written ≠ [] ∧ trim written = value := by
  rw [trimmed?, required?, Option.map_eq_some_iff]
  cases e.attribute? key with
  | none => exact ⟨nofun, nofun⟩
  | some written =>
      cases written with
      | nil =>
          refine ⟨nofun, ?_⟩
          rintro ⟨_, h, hne, -⟩
          cases h
          exact absurd rfl hne
      | cons c rest =>
          constructor
          · rintro ⟨_, h, htrim⟩
            cases h
            exact ⟨c :: rest, rfl, List.cons_ne_nil c rest, htrim⟩
          · rintro ⟨_, h, -, htrim⟩
            cases h
            exact ⟨c :: rest, rfl, htrim⟩

/-- An attribute that counts as present has its trimmed value whatever the default. -/
theorem trimmedOr_of_trimmed? {e : Element} {key value : Text} (h : trimmed? e key = some value)
    (default : Text) : e.trimmedOr key default = value := by
  obtain ⟨written, hwritten, -, htrim⟩ := trimmed?_eq_some_iff.mp h
  rw [Element.trimmedOr, hwritten, Option.getD_some, htrim]

theorem isTrimmed_trimmedOr (e : Element) (key default : Text) :
    IsTrimmed (e.trimmedOr key default) :=
  isTrimmed_trim _

/-! ## References -/

/-- A reference by a trimmed name bears that name, which stays on one line, and looks its base
    up. -/
theorem resolveAmong_trimmed {declared : List Declaration} {name : Text} (hname : IsTrimmed name)
    {r : TypeReference} (h : resolveAmong declared name = some r) :
    '\n' ∉ name ∧ r = match findDeclaration? declared (divideLine name).1 with
      | some d => ⟨name, d.namespaceName, d.isDelegate && (divideLine name).2.isEmpty⟩
      | none => ⟨name, namespaceOfBase (divideLine name).1, false⟩ := by
  rw [resolveAmong] at h
  cases hdivide : divideName? name with
  | none => rw [hdivide] at h; exact nomatch h
  | some parts =>
      obtain ⟨hline, rfl⟩ := oneLine_of_divideName? hname hdivide
      refine ⟨hline, ?_⟩
      rw [hdivide] at h
      dsimp only at h
      cases hfind : findDeclaration? declared (divideLine name).1 with
      | none => rw [hfind] at h; exact (Option.some.inj h).symm
      | some d => rw [hfind] at h; exact (Option.some.inj h).symm

theorem resolveAmong_fullName {declared : List Declaration} {name : Text}
    (hname : IsTrimmed name) {r : TypeReference} (h : resolveAmong declared name = some r) :
    r.fullName = name := by
  rw [(resolveAmong_trimmed hname h).2]
  cases findDeclaration? declared (divideLine name).1 with
  | _ => rfl

/-- A reference that was resolved by a trimmed name is on one line. -/
theorem oneLine_of_resolveAmong {declared : List Declaration} {name : Text}
    (hname : IsTrimmed name) {r : TypeReference} (h : resolveAmong declared name = some r) :
    '\n' ∉ r.fullName := by
  rw [resolveAmong_fullName hname h]
  exact (resolveAmong_trimmed hname h).1

/-- A reference is known for a delegate if its name has no markers and the first declaration of
    that name is one. -/
theorem resolveAmong_isDelegate {declared : List Declaration} {name : Text}
    (hname : IsTrimmed name) {r : TypeReference} (h : resolveAmong declared name = some r) :
    r.isDelegate = true
      ↔ EndsClear name ∧ ∃ d, findDeclaration? declared name = some d ∧ d.isDelegate = true := by
  have hr := (resolveAmong_trimmed hname h).2
  constructor
  · intro hdelegate
    cases hfind : findDeclaration? declared (divideLine name).1 with
    | none =>
        rw [hfind] at hr
        rw [hr] at hdelegate
        exact nomatch hdelegate
    | some d =>
        rw [hfind] at hr
        rw [hr] at hdelegate
        obtain ⟨hd, hempty⟩ := Bool.and_eq_true_iff.mp hdelegate
        have hbase := divideLine_of_markers_nil (List.isEmpty_iff.mp hempty)
        have hclear := endsClear_divideLine name
        rw [hbase] at hfind hclear
        exact ⟨hclear, d, hfind, hd⟩
  · rintro ⟨hclear, d, hfind, hd⟩
    rw [divideLine_of_endsClear hclear] at hr
    dsimp only at hr
    rw [hfind] at hr
    rw [hr]
    dsimp only
    rw [hd]
    rfl

/-! ## Readings that succeed -/

/-- One reading after the other succeeds if the first does and then the second. -/
theorem bind_eq_ok_iff {α β ε : Type} {first : Except ε α} {next : α → Except ε β} {b : β} :
    first >>= next = .ok b ↔ ∃ a, first = .ok a ∧ next a = .ok b := by
  cases first with
  | error fault => exact ⟨nofun, nofun⟩
  | ok a =>
      refine ⟨fun h => ⟨a, rfl, h⟩, ?_⟩
      rintro ⟨_, ha, h⟩
      cases ha
      exact h

theorem referenceTo_eq_ok_iff {declared : List Declaration} {name : Text} {r : TypeReference} :
    referenceTo declared name = .ok r ↔ resolveAmong declared name = some r := by
  rw [referenceTo]
  cases resolveAmong declared name with
  | none => exact ⟨nofun, nofun⟩
  | some reference =>
      exact ⟨fun h => congrArg some (Except.ok.inj h),
        fun h => congrArg Except.ok (Option.some.inj h)⟩

/-- A parameter is read from its element. -/
structure ReflectedParameter.ReadFrom (declared : List Declaration) (p : ReflectedParameter)
    (e : Element) : Prop where
  name : trimmed? e "name".toList = some p.name
  type : ∃ written, trimmed? e "type".toList = some written
    ∧ resolveAmong declared written = some p.type
  isIn : p.isIn = flag e "in".toList false
  isOut : p.isOut = flag e "out".toList false

theorem ReflectedParameter.ofElement_eq_ok_iff {declared : List Declaration} {owner : Text}
    {e : Element} {p : ReflectedParameter} :
    ReflectedParameter.ofElement declared owner e = .ok p ↔ p.ReadFrom declared e := by
  rw [ReflectedParameter.ofElement]
  constructor
  · intro h
    split at h
    · rename_i name written hname hwritten
      obtain ⟨type, htype, hp⟩ := bind_eq_ok_iff.mp h
      cases hp
      exact ⟨hname, ⟨written, hwritten, referenceTo_eq_ok_iff.mp htype⟩, rfl, rfl⟩
    · exact nomatch h
  · rintro ⟨hname, ⟨written, hwritten, htype⟩, hin, hout⟩
    rw [hname, hwritten]
    dsimp only
    rw [referenceTo_eq_ok_iff.mpr htype, ← hin, ← hout]
    rfl

/-- The type of a parameter is the one that the element names. -/
theorem ReflectedParameter.ReadFrom.resolve_typeName {declared : List Declaration}
    {p : ReflectedParameter} {e : Element} (h : p.ReadFrom declared e) :
    resolveAmong declared e.typeName = some p.type := by
  obtain ⟨written, hwritten, htype⟩ := h.type
  rw [Element.typeName, trimmedOr_of_trimmed? hwritten, htype]

/-- What a method returns and takes is read from its element. -/
structure Method.CallReadFrom (declared : List Declaration) (m : Method) (e : Element) : Prop where
  returns : resolveAmong declared e.returnName = some m.returnType
  parameters :
    List.Forall₂ (ReflectedParameter.ReadFrom declared) m.parameters e.parameterElements

/-- A method is read from its element. -/
structure Method.ReadFrom (declared : List Declaration) (m : Method) (e : Element) : Prop
    extends m.CallReadFrom declared e where
  name : trimmed? e "name".toList = some m.name
  isStatic : m.isStatic = flag e "static".toList true
  library : m.library = (e.attribute? "dllImport".toList).map trim
  convention : m.convention = trimmed? e "callingConvention".toList

/-- The way a delegate is called is read from the element of its type. -/
structure Method.InvocationReadFrom (declared : List Declaration) (m : Method) (e : Element) :
    Prop extends m.CallReadFrom declared e where
  name : m.name = "Invoke".toList
  isStatic : m.isStatic = false
  library : m.library = none
  convention : m.convention = none

theorem returnReference_eq_ok_iff {declared : List Declaration} {e : Element}
    {r : TypeReference} :
    returnReference declared e = .ok r ↔ resolveAmong declared e.returnName = some r :=
  referenceTo_eq_ok_iff

theorem parametersInside_eq_ok_iff {declared : List Declaration} {owner : Text} {e : Element}
    {parameters : List ReflectedParameter} :
    parametersInside declared owner e = .ok parameters
      ↔ List.Forall₂ (ReflectedParameter.ReadFrom declared) parameters e.parameterElements :=
  mapM_eq_ok_iff fun _ _ => ReflectedParameter.ofElement_eq_ok_iff

theorem Method.ofElement_eq_ok_iff {declared : List Declaration} {owner : Text} {e : Element}
    {m : Method} : Method.ofElement declared owner e = .ok m ↔ m.ReadFrom declared e := by
  rw [Method.ofElement]
  constructor
  · intro h
    split at h
    · exact nomatch h
    · rename_i name hname
      obtain ⟨returnType, hreturns, h⟩ := bind_eq_ok_iff.mp h
      obtain ⟨parameters, hparameters, hm⟩ := bind_eq_ok_iff.mp h
      cases hm
      exact
        { returns := returnReference_eq_ok_iff.mp hreturns
          parameters := parametersInside_eq_ok_iff.mp hparameters
          name := hname, isStatic := rfl, library := rfl, convention := rfl }
  · intro h
    rw [h.name]
    dsimp only
    rw [returnReference_eq_ok_iff.mpr h.returns, parametersInside_eq_ok_iff.mpr h.parameters,
      ← h.isStatic, ← h.library, ← h.convention]
    rfl

theorem Method.invocation_eq_ok_iff {declared : List Declaration} {owner : Text} {e : Element}
    {m : Method} :
    Method.invocation declared owner e = .ok m ↔ m.InvocationReadFrom declared e := by
  rw [Method.invocation]
  constructor
  · intro h
    obtain ⟨returnType, hreturns, h⟩ := bind_eq_ok_iff.mp h
    obtain ⟨parameters, hparameters, hm⟩ := bind_eq_ok_iff.mp h
    cases hm
    exact
      { returns := returnReference_eq_ok_iff.mp hreturns
        parameters := parametersInside_eq_ok_iff.mp hparameters
        name := rfl, isStatic := rfl, library := rfl, convention := rfl }
  · intro h
    rw [returnReference_eq_ok_iff.mpr h.returns, parametersInside_eq_ok_iff.mpr h.parameters]
    obtain ⟨-, hname, hstatic, hlibrary, hconvention⟩ := h
    obtain ⟨name, returnType, parameters, isStatic, library, convention⟩ := m
    cases hname
    cases hstatic
    cases hlibrary
    cases hconvention
    rfl

/-! ## Declared types -/

/-- What a type says of itself is read from its element. -/
structure Declaration.ReadFrom (d : Declaration) (e : Element) : Prop where
  fullName : trimmed? e "fullName".toList = some d.fullName
  kind : TypeKind.ofSpelling? (lower (e.trimmedOr "kind".toList "class".toList)) = some d.kind
  namespaceName : declaredNamespace e d.fullName = .ok d.namespaceName
  isGeneric : d.isGeneric = flag e "generic".toList false
  convention : d.convention = trimmed? e "callingConvention".toList

theorem Declaration.ofElement_eq_ok_iff {d : Declaration} {e : Element} :
    Declaration.ofElement e = .ok d ↔ d.ReadFrom e := by
  rw [Declaration.ofElement]
  constructor
  · intro h
    split at h
    · exact nomatch h
    · rename_i fullName hname
      dsimp only at h
      split at h
      · exact nomatch h
      · rename_i kind hkind
        obtain ⟨namespaceName, hnamespace, hd⟩ := bind_eq_ok_iff.mp h
        cases hd
        exact ⟨hname, hkind, hnamespace, rfl, rfl⟩
  · intro h
    have hkind := h.kind
    rw [Element.trimmedOr] at hkind
    rw [h.fullName]
    dsimp only
    rw [hkind]
    dsimp only
    rw [h.namespaceName, ← h.isGeneric, ← h.convention]
    rfl

theorem Declaration.ReadFrom.fullName_eq {d : Declaration} {e : Element} (h : d.ReadFrom e) :
    d.fullName = e.declaredName :=
  (trimmedOr_of_trimmed? h.fullName []).symm

theorem Declaration.ReadFrom.isTrimmed_fullName {d : Declaration} {e : Element}
    (h : d.ReadFrom e) : IsTrimmed d.fullName := by
  rw [h.fullName_eq]
  exact isTrimmed_trimmedOr _ _ _

/-- Two kinds are spelled alike only if they are one. -/
theorem TypeKind.ofSpelling?_eq_some_iff {spelling : Text} {kind : TypeKind} :
    TypeKind.ofSpelling? spelling = some kind ↔ spelling = kind.spelling := by
  constructor
  · intro h
    have hspelling : kind.spelling = spelling := by simpa using List.find?_some h
    exact hspelling.symm
  · intro h
    rw [h]
    cases kind with
    | _ => rfl

theorem Declaration.ReadFrom.isDelegate_eq {d : Declaration} {e : Element} (h : d.ReadFrom e) :
    d.isDelegate = e.declaresDelegate := by
  have hspelling := TypeKind.ofSpelling?_eq_some_iff.mp h.kind
  rw [Element.declaresDelegate, hspelling, Declaration.isDelegate]
  cases d.kind with
  | _ => rfl

/-- A type is read from its element, as seen from the declarations. -/
structure DeclaredType.ReadFrom (declared : List Declaration) (t : DeclaredType) (e : Element) :
    Prop where
  declaration : t.toDeclaration.ReadFrom e
  /-- Only a delegate is called. -/
  invoke : if t.isDelegate then ∃ m, t.invoke = some m ∧ m.InvocationReadFrom declared e
    else t.invoke = none
  methods : List.Forall₂ (Method.ReadFrom declared) t.methods e.methodElements

theorem DeclaredType.ofElement_eq_ok_iff {declared : List Declaration} {d : Declaration}
    {e : Element} (hd : d.ReadFrom e) {t : DeclaredType} :
    DeclaredType.ofElement declared d e = .ok t
      ↔ t.toDeclaration = d ∧ t.ReadFrom declared e := by
  have hmethods : ∀ methods, (e.childrenNamed "method".toList).mapM
      (Method.ofElement declared d.fullName) = .ok methods
        ↔ List.Forall₂ (Method.ReadFrom declared) methods e.methodElements :=
    fun _ => mapM_eq_ok_iff fun _ _ => Method.ofElement_eq_ok_iff
  rw [DeclaredType.ofElement]
  constructor
  · intro h
    split at h
    · rename_i hdelegate
      obtain ⟨invoke, hinvoke, h⟩ := bind_eq_ok_iff.mp h
      obtain ⟨m, hm, hsome⟩ := bind_eq_ok_iff.mp hinvoke
      obtain ⟨methods, hread, ht⟩ := bind_eq_ok_iff.mp h
      cases hsome
      cases ht
      refine ⟨rfl, hd, ?_, (hmethods methods).mp hread⟩
      rw [if_pos hdelegate]
      exact ⟨m, rfl, Method.invocation_eq_ok_iff.mp hm⟩
    · rename_i hother
      obtain ⟨invoke, hinvoke, h⟩ := bind_eq_ok_iff.mp h
      obtain ⟨methods, hread, ht⟩ := bind_eq_ok_iff.mp h
      cases hinvoke
      cases ht
      refine ⟨rfl, hd, ?_, (hmethods methods).mp hread⟩
      rw [if_neg hother]
  · rintro ⟨rfl, h⟩
    have hinvoke := h.invoke
    rw [(hmethods t.methods).mpr h.methods]
    obtain ⟨declaration, invoke, methods⟩ := t
    split at hinvoke
    · rename_i hdelegate
      obtain ⟨m, rfl, hread⟩ := hinvoke
      rw [if_pos hdelegate, Method.invocation_eq_ok_iff.mpr hread]
      rfl
    · rename_i hother
      cases hinvoke
      rw [if_neg hother]
      rfl

/-! ## Whole catalogs -/

/-- Types read next to their declarations are types read from their elements. -/
theorem forall₂_zip_iff {declared ds : List Declaration} {es : List Element}
    (hds : List.Forall₂ Declaration.ReadFrom ds es) {ts : List DeclaredType} :
    List.Forall₂ (fun t (entry : Declaration × Element) =>
        DeclaredType.ofElement declared entry.1 entry.2 = .ok t) ts (ds.zip es)
      ↔ ts.map DeclaredType.toDeclaration = ds
        ∧ List.Forall₂ (DeclaredType.ReadFrom declared) ts es := by
  induction hds generalizing ts with
  | nil =>
      constructor
      · intro h; cases h; exact ⟨rfl, .nil⟩
      · rintro ⟨-, h⟩; cases h; exact .nil
  | cons hd _ ih =>
      constructor
      · intro h
        cases h with
        | cons ht hts =>
            obtain ⟨hdeclaration, hread⟩ := (DeclaredType.ofElement_eq_ok_iff hd).mp ht
            obtain ⟨hdeclarations, hreads⟩ := ih.mp hts
            exact ⟨by rw [List.map_cons, hdeclaration, hdeclarations], .cons hread hreads⟩
      · rintro ⟨hdeclarations, h⟩
        cases h with
        | cons hread hreads =>
            obtain ⟨hdeclaration, hrest⟩ := List.cons.inj hdeclarations
            exact .cons ((DeclaredType.ofElement_eq_ok_iff hd).mpr ⟨hdeclaration, hread⟩)
              (ih.mpr ⟨hrest, hreads⟩)

theorem definitionsOf_eq_ok_iff {es : List Element} {types : List DeclaredType} :
    definitionsOf es = .ok types
      ↔ List.Forall₂ (DeclaredType.ReadFrom (types.map DeclaredType.toDeclaration)) types es := by
  have hdeclared : ∀ ds, es.mapM Declaration.ofElement = .ok ds
      ↔ List.Forall₂ Declaration.ReadFrom ds es :=
    fun _ => mapM_eq_ok_iff fun _ _ => Declaration.ofElement_eq_ok_iff
  rw [definitionsOf, bind_eq_ok_iff]
  constructor
  · rintro ⟨ds, hds, hmembers⟩
    have hread := (hdeclared ds).mp hds
    obtain ⟨rfl, h⟩ := (forall₂_zip_iff hread).mp ((mapM_eq_ok_iff fun _ _ => Iff.rfl).mp hmembers)
    exact h
  · intro h
    have hread : List.Forall₂ Declaration.ReadFrom (types.map DeclaredType.toDeclaration) es :=
      List.forall₂_map_left_iff.mpr (h.imp fun _ _ ht => ht.declaration)
    exact ⟨_, (hdeclared _).mpr hread,
      (mapM_eq_ok_iff fun _ _ => Iff.rfl).mpr ((forall₂_zip_iff hread).mpr ⟨rfl, h⟩)⟩

/-- A catalog is read from an element tree. -/
structure Catalog.ReadFrom (c : Catalog) (root : Element) : Prop where
  tag : root.tag = "assembly".toList
  name : c.name = root.trimmedOr "name".toList []
  types : List.Forall₂ (DeclaredType.ReadFrom c.declared) c.types root.typeElements

/-- **A tree is a catalog** exactly if every type of the catalog is read from its element,
    seen from all declarations. -/
theorem Catalog.ofElement_eq_ok_iff {root : Element} {c : Catalog} :
    Catalog.ofElement root = .ok c ↔ c.ReadFrom root := by
  rw [Catalog.ofElement]
  constructor
  · intro h
    split at h
    · exact nomatch h
    · rename_i htag
      obtain ⟨types, htypes, hc⟩ := bind_eq_ok_iff.mp h
      cases hc
      exact ⟨not_not.mp htag, rfl, definitionsOf_eq_ok_iff.mp htypes⟩
  · intro h
    have hname := h.name
    rw [Element.trimmedOr] at hname
    rw [if_neg (not_not.mpr h.tag), ← hname]
    show definitionsOf root.typeElements >>= _ = _
    rw [definitionsOf_eq_ok_iff.mpr h.types]
    rfl

/-- The declarations of a catalog are read from its elements, in order. -/
theorem Catalog.ReadFrom.declarations {c : Catalog} {root : Element} (h : c.ReadFrom root) :
    List.Forall₂ Declaration.ReadFrom c.declared root.typeElements :=
  List.forall₂_map_left_iff.mpr (h.types.imp fun _ _ ht => ht.declaration)

/-! ## The elements of members -/

/-- Which members of a catalog a source spells. -/
inductive MemberKind where
  | delegates
  | imports

/-- The source over the members of a catalog under a search path. -/
def MemberKind.source (k : MemberKind) (c : Catalog) (path : Option Text) (o : TypePolicy) :
    Source :=
  match k with
  | .delegates => .ofDelegates c path o
  | .imports => .ofImports c path o

/-- The elements of the members under a search path. -/
def MemberKind.elements (k : MemberKind) (path : Option Text) (root : Element) : List Element :=
  let types := root.typeElements.filter fun e => fallsUnder e.declaredName path
  match k with
  | .delegates => types.filter fun e => e.declaresDelegate && !flag e "generic".toList false
  | .imports =>
      types.flatMap fun e => e.methodElements.filter fun m =>
        flag m "static".toList true && (m.attribute? "dllImport".toList).isSome

/-- The types in a signature are those that the element names. -/
structure Signature.SpelledFrom (declared : List Declaration) (o : TypePolicy) (s : Signature)
    (e : Element) : Prop where
  returns : ∃ r, resolveAmong declared e.returnName = some r ∧ r.unmanaged? o = some s.returnType
  parameters : List.Forall₂ (fun p e => ∃ q : ReflectedParameter, q.ReadFrom declared e
    ∧ q.unmanaged? o = some p) s.parameters e.parameterElements

/-- What is spelled of some things in order is spelled of each of them. -/
private theorem mapM_eq_some {α β : Type} {f : α → Option β} {as : List α} {bs : List β}
    (h : as.mapM f = some bs) : List.Forall₂ (fun b a => f a = some b) bs as := by
  induction as generalizing bs with
  | nil => cases h; exact .nil
  | cons a as ih =>
      rw [List.mapM_cons] at h
      obtain ⟨b, hb, h⟩ := Option.bind_eq_some_iff.mp h
      obtain ⟨bs, hbs, h⟩ := Option.bind_eq_some_iff.mp h
      cases h
      exact .cons hb (ih hbs)

/-- What holds from first to second and from second to third holds step by step. -/
private theorem forall₂_comp {α β γ : Type} {R : α → β → Prop} {S : β → γ → Prop} {as : List α}
    {bs : List β} {cs : List γ} (hR : List.Forall₂ R as bs) (hS : List.Forall₂ S bs cs) :
    List.Forall₂ (fun a c => ∃ b, S b c ∧ R a b) as cs := by
  induction hR generalizing cs with
  | nil => cases hS; exact .nil
  | cons hr _ ih =>
      cases hS with
      | cons hs hrest => exact .cons ⟨_, hs, hr⟩ (ih hrest)

/-- The signature of a method spells what its element names. -/
theorem Method.CallReadFrom.spelledFrom {declared : List Declaration} {o : TypePolicy} {m : Method}
    {e : Element} (h : m.CallReadFrom declared e) {name : Text} {convention : Option Text}
    {s : Signature} (hs : m.signature? o name convention = some s) :
    s.SpelledFrom declared o e := by
  obtain ⟨returnType, hreturns, hs⟩ := Option.bind_eq_some_iff.mp hs
  obtain ⟨parameters, hparameters, hs⟩ := Option.bind_eq_some_iff.mp hs
  cases hs
  exact ⟨⟨m.returnType, h.returns, hreturns⟩, forall₂_comp (mapM_eq_some hparameters) h.parameters⟩

theorem orUndivided_eq_ok_iff {signature : Option Signature} {s : Signature} :
    orUndivided signature = .ok s ↔ signature = some s := by
  cases signature with
  | none => exact ⟨nofun, nofun⟩
  | some spelled =>
      exact ⟨fun h => congrArg some (Except.ok.inj h),
        fun h => congrArg Except.ok (Option.some.inj h)⟩

/-- The way that a type is called, if there is one, is read from the element of the type. -/
theorem DeclaredType.ReadFrom.invocation {declared : List Declaration} {t : DeclaredType}
    {e : Element} (h : t.ReadFrom declared e) {m : Method} (hm : t.invoke = some m) :
    m.InvocationReadFrom declared e := by
  have hinvoke := h.invoke
  split at hinvoke
  · obtain ⟨m', hm', hread⟩ := hinvoke
    cases hm.symm.trans hm'
    exact hread
  · exact nomatch hm.symm.trans hinvoke

/-- The signature of a delegate is that of the way it is called, under its simple name. -/
theorem DeclaredType.delegateSignature_eq_ok_iff {o : TypePolicy} {t : DeclaredType}
    {s : Signature} :
    t.delegateSignature o = .ok s ↔ ∃ m name, t.invoke = some m ∧ simpleName? t.fullName = some name
      ∧ m.signature? o name t.convention = some s := by
  rw [delegateSignature]
  constructor
  · intro h
    split at h
    · exact nomatch h
    · exact nomatch h
    · rename_i name m hname hm
      exact ⟨m, name, hm, hname, orUndivided_eq_ok_iff.mp h⟩
  · rintro ⟨m, name, hm, hname, hs⟩
    rw [hname, hm]
    exact orUndivided_eq_ok_iff.mpr hs

/-- The signature of a delegate spells what the element of its type names. -/
theorem DeclaredType.ReadFrom.spelledFrom {declared : List Declaration} {o : TypePolicy}
    {t : DeclaredType} {e : Element} (h : t.ReadFrom declared e) {s : Signature}
    (hs : t.delegateSignature o = .ok s) : s.SpelledFrom declared o e := by
  obtain ⟨m, name, hm, -, hs⟩ := DeclaredType.delegateSignature_eq_ok_iff.mp hs
  exact (h.invocation hm).toCallReadFrom.spelledFrom hs

/-- The delegates among types are read from the elements that declare delegates. -/
theorem delegates_readFrom {declared : List Declaration} {types : List DeclaredType}
    {es : List Element} (h : List.Forall₂ (DeclaredType.ReadFrom declared) types es) :
    List.Forall₂ (DeclaredType.ReadFrom declared) (types.filter DeclaredType.isPlainDelegate)
      (es.filter fun e => e.declaresDelegate && !flag e "generic".toList false) := by
  refine List.rel_filter ?_ h
  intro t e ht
  dsimp only
  rw [DeclaredType.isPlainDelegate, ht.declaration.isGeneric, ht.declaration.isDelegate_eq]

/-- The imported methods of a type are read from the elements that say so. -/
theorem imports_readFrom {declared : List Declaration} {methods : List Method} {es : List Element}
    (h : List.Forall₂ (Method.ReadFrom declared) methods es) :
    List.Forall₂ (Method.ReadFrom declared) (methods.filter Method.isImported)
      (es.filter fun m =>
        flag m "static".toList true && (m.attribute? "dllImport".toList).isSome) := by
  refine List.rel_filter ?_ h
  intro m e hm
  dsimp only
  rw [Method.isImported, hm.isStatic, hm.library, Option.isSome_map]

/-- The types under a search path are read from the elements that declare them. -/
theorem Catalog.ReadFrom.typesUnder {c : Catalog} {root : Element} (h : c.ReadFrom root)
    (path : Option Text) :
    List.Forall₂ (DeclaredType.ReadFrom c.declared)
      (c.types.filter fun t => fallsUnder t.fullName path)
      (root.typeElements.filter fun e => fallsUnder e.declaredName path) := by
  refine List.rel_filter ?_ h.types
  intro t e ht
  dsimp only
  rw [ht.declaration.fullName_eq]

/-- The delegates under a search path are read from their elements. -/
theorem Catalog.ReadFrom.delegates {c : Catalog} {root : Element} (h : c.ReadFrom root)
    (path : Option Text) :
    List.Forall₂ (DeclaredType.ReadFrom c.declared) (c.delegates path)
      (MemberKind.delegates.elements path root) :=
  delegates_readFrom (h.typesUnder path)

/-- The imported methods under a search path are read from their elements. -/
theorem Catalog.ReadFrom.imports {c : Catalog} {root : Element} (h : c.ReadFrom root)
    (path : Option Text) :
    List.Forall₂ (Method.ReadFrom c.declared) (c.imports path)
      (MemberKind.imports.elements path root) :=
  List.rel_flatMap (h.typesUnder path) fun _ _ ht => imports_readFrom ht.methods

/-- **One outcome for one element.**  A source over a catalog that was read has an outcome
    for each element of a member that it selects, in order, and every signature spells the
    types that its element names. -/
theorem MemberKind.outcomes_spelledFrom {c : Catalog} {root : Element} (h : c.ReadFrom root)
    (k : MemberKind) (path : Option Text) (o : TypePolicy) :
    List.Forall₂ (fun outcome e => ∀ s, outcome = .ok s → s.SpelledFrom c.declared o e)
      (k.source c path o).outcomes (k.elements path root) := by
  cases k with
  | delegates =>
      refine List.forall₂_map_left_iff.mpr ((h.delegates path).imp ?_)
      intro t e ht s hs
      exact ht.spelledFrom hs
  | imports =>
      refine List.forall₂_map_left_iff.mpr ((h.imports path).imp ?_)
      intro m e hm s hs
      exact hm.toCallReadFrom.spelledFrom (orUndivided_eq_ok_iff.mp hs)

end PointerBindings
