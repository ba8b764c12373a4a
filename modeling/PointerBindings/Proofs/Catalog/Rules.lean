import PointerBindings.Proofs.Catalog.Members
import PointerBindings.Proofs.Tables

/-! # Rules — which documents are catalogs, and what is reported of the others

    A catalog has its root, every type is declared with a name and a kind, every method has a name
    and every parameter that is read has a name and a type (`CatalogRules`).  A document on single
    lines is read exactly if it keeps these rules.  Otherwise the first rule that it breaks is
    reported (`Catalog.ofElement_first_broken`): the root comes before all else, then come the
    declarations of all types, and only then the members.

    Every reading function gets its list of broken rules, in the order in which it looks at them,
    and reports the first one of them.  Such readings are put together one after the other, so
    that their lists are appended (`Reports.bind`, `Reports.mapM`). -/

namespace PointerBindings

open Text Xml

/-! ## Rules -/

namespace Xml.Element

/-- No value of an attribute in the tree has a line feed. -/
inductive OnOneLine : Element → Prop where
  | node {tag : Text} {attributes : List (Text × Text)} {children : List Element}
      (values : ∀ entry ∈ attributes, '\n' ∉ entry.2)
      (inside : ∀ child ∈ children, OnOneLine child) : OnOneLine (.node tag attributes children)

/-- The attribute is there and not empty. -/
def Gives (e : Element) (key : Text) : Prop :=
  (e.attribute? key).getD [] ≠ []

instance (e : Element) (key : Text) : Decidable (e.Gives key) :=
  inferInstanceAs (Decidable (_ ≠ _))

/-- The kind of the type that the element declares, as it is compared. -/
def kindName (e : Element) : Text :=
  lower (e.trimmedOr "kind".toList "class".toList)

/-- The kind of the type is one of the four. -/
def HasKind (e : Element) : Prop :=
  e.kindName ∈ TypeKind.all.map TypeKind.spelling

instance (e : Element) : Decidable e.HasKind :=
  inferInstanceAs (Decidable (_ ∈ _))

/-- A parameter has a name and a type. -/
def IsParameter (e : Element) : Prop :=
  e.Gives "name".toList ∧ e.Gives "type".toList

instance (e : Element) : Decidable e.IsParameter :=
  inferInstanceAs (Decidable (_ ∧ _))

end Xml.Element

/-- The rules of a catalog. -/
structure CatalogRules (root : Element) : Prop where
  tag : root.tag = "assembly".toList
  types : ∀ t ∈ root.typeElements, t.Gives "fullName".toList ∧ t.HasKind
  methods : ∀ t ∈ root.typeElements, ∀ m ∈ t.methodElements,
    m.Gives "name".toList ∧ ∀ p ∈ m.parameterElements, p.IsParameter
  /-- Parameters inside another type are not looked at. -/
  delegates : ∀ t ∈ root.typeElements, t.declaresDelegate = true →
    ∀ p ∈ t.parameterElements, p.IsParameter

/-- The fault is that of a broken rule: neither the bytes are at fault nor a name that cannot be
    divided. -/
def CatalogFault.IsBreach : CatalogFault → Prop
  | .document _ | .undividedName _ => False
  | .wrongRoot _ | .typeWithoutName | .unknownKind _ _ | .methodWithoutName _
  | .incompleteParameter _ => True

/-! ## Broken rules in order -/

/-- The fault, unless the rule is kept. -/
def faultUnless (rule : Prop) [Decidable rule] (fault : CatalogFault) : List CatalogFault :=
  if rule then [] else [fault]

/-- The rules that the declaration of a type breaks: its name comes before its kind. -/
def brokenByDeclaration (e : Element) : List CatalogFault :=
  faultUnless (e.Gives "fullName".toList) .typeWithoutName
    ++ faultUnless e.HasKind (.unknownKind e.kindName e.declaredName)

/-- The rules that the parameters inside an element break. -/
def brokenByParameters (owner : Text) (e : Element) : List CatalogFault :=
  e.parameterElements.flatMap fun p => faultUnless p.IsParameter (.incompleteParameter owner)

/-- The rules that a method breaks: its name comes before its parameters. -/
def brokenByMethod (owner : Text) (e : Element) : List CatalogFault :=
  faultUnless (e.Gives "name".toList) (.methodWithoutName owner)
    ++ brokenByParameters (owner ++ '.' :: e.trimmedOr "name".toList []) e

/-- The rules that the members of a type break: the parameters of a delegate come before its
    methods. -/
def brokenByMembers (e : Element) : List CatalogFault :=
  (if e.declaresDelegate then brokenByParameters e.declaredName e else [])
    ++ e.methodElements.flatMap (brokenByMethod e.declaredName)

/-- The rules that the types of a document break: all declarations come before all members. -/
def brokenByTypes (root : Element) : List CatalogFault :=
  root.typeElements.flatMap brokenByDeclaration ++ root.typeElements.flatMap brokenByMembers

/-- All rules that a document breaks. -/
def brokenRules (root : Element) : List CatalogFault :=
  faultUnless (root.tag = "assembly".toList) (.wrongRoot root.tag) ++ brokenByTypes root

section FaultUnless

variable {rule : Prop} [Decidable rule] {fault : CatalogFault}

theorem faultUnless_of_kept (h : rule) : faultUnless rule fault = [] :=
  if_pos h

theorem faultUnless_of_broken (h : ¬ rule) : faultUnless rule fault = [fault] :=
  if_neg h

@[simp] theorem faultUnless_eq_nil_iff : faultUnless rule fault = [] ↔ rule := by
  by_cases h : rule
  · exact iff_of_true (faultUnless_of_kept h) h
  · rw [faultUnless_of_broken h]
    exact iff_of_false (List.cons_ne_nil _ _) h

theorem eq_of_mem_faultUnless {found : CatalogFault} (h : found ∈ faultUnless rule fault) :
    found = fault := by
  by_cases hrule : rule
  · rw [faultUnless_of_kept hrule] at h
    exact nomatch h
  · rw [faultUnless_of_broken hrule] at h
    exact List.mem_singleton.mp h

end FaultUnless

theorem brokenByDeclaration_eq_nil_iff {e : Element} :
    brokenByDeclaration e = [] ↔ e.Gives "fullName".toList ∧ e.HasKind := by
  rw [brokenByDeclaration, List.append_eq_nil_iff, faultUnless_eq_nil_iff, faultUnless_eq_nil_iff]

theorem brokenByParameters_eq_nil_iff {owner : Text} {e : Element} :
    brokenByParameters owner e = [] ↔ ∀ p ∈ e.parameterElements, p.IsParameter := by
  simp only [brokenByParameters, List.flatMap_eq_nil_iff, faultUnless_eq_nil_iff]

theorem brokenByMethod_eq_nil_iff {owner : Text} {e : Element} :
    brokenByMethod owner e = []
      ↔ e.Gives "name".toList ∧ ∀ p ∈ e.parameterElements, p.IsParameter := by
  rw [brokenByMethod, List.append_eq_nil_iff, faultUnless_eq_nil_iff,
    brokenByParameters_eq_nil_iff]

theorem brokenByMembers_eq_nil_iff {e : Element} :
    brokenByMembers e = []
      ↔ (e.declaresDelegate = true → ∀ p ∈ e.parameterElements, p.IsParameter)
        ∧ ∀ m ∈ e.methodElements,
          m.Gives "name".toList ∧ ∀ p ∈ m.parameterElements, p.IsParameter := by
  rw [brokenByMembers, List.append_eq_nil_iff, List.flatMap_eq_nil_iff]
  refine and_congr ?_ (forall₂_congr fun m _ => brokenByMethod_eq_nil_iff)
  by_cases hdelegate : e.declaresDelegate = true
  · rw [if_pos hdelegate, brokenByParameters_eq_nil_iff, imp_iff_right hdelegate]
  · rw [if_neg hdelegate]
    exact iff_of_true rfl fun h => absurd h hdelegate

/-- **A document keeps all rules** exactly if it breaks none. -/
theorem brokenRules_eq_nil_iff {root : Element} : brokenRules root = [] ↔ CatalogRules root := by
  rw [brokenRules, brokenByTypes, List.append_eq_nil_iff, List.append_eq_nil_iff,
    faultUnless_eq_nil_iff, List.flatMap_eq_nil_iff, List.flatMap_eq_nil_iff]
  simp only [brokenByDeclaration_eq_nil_iff, brokenByMembers_eq_nil_iff]
  constructor
  · rintro ⟨htag, htypes, hmembers⟩
    exact ⟨htag, htypes, fun t ht => (hmembers t ht).2, fun t ht => (hmembers t ht).1⟩
  · intro h
    exact ⟨h.tag, h.types, fun t ht => ⟨h.delegates t ht, h.methods t ht⟩⟩

theorem isBreach_of_mem_brokenByParameters {owner : Text} {e : Element} {fault : CatalogFault}
    (h : fault ∈ brokenByParameters owner e) : fault.IsBreach := by
  obtain ⟨p, -, hfault⟩ := List.mem_flatMap.mp h
  rw [eq_of_mem_faultUnless hfault]
  trivial

theorem isBreach_of_mem_brokenByMembers {e : Element} {fault : CatalogFault}
    (h : fault ∈ brokenByMembers e) : fault.IsBreach := by
  rcases List.mem_append.mp h with hown | hmethods
  · split at hown
    · exact isBreach_of_mem_brokenByParameters hown
    · exact nomatch hown
  · obtain ⟨m, -, hmethod⟩ := List.mem_flatMap.mp hmethods
    rcases List.mem_append.mp hmethod with hname | hparameters
    · rw [eq_of_mem_faultUnless hname]
      trivial
    · exact isBreach_of_mem_brokenByParameters hparameters

/-- Every broken rule is one. -/
theorem isBreach_of_mem_brokenRules {root : Element} {fault : CatalogFault}
    (h : fault ∈ brokenRules root) : fault.IsBreach := by
  rcases List.mem_append.mp h with htag | htypes
  · rw [eq_of_mem_faultUnless htag]
    trivial
  rcases List.mem_append.mp htypes with hdeclarations | hmembers
  · obtain ⟨t, -, ht⟩ := List.mem_flatMap.mp hdeclarations
    rcases List.mem_append.mp ht with hname | hkind
    · rw [eq_of_mem_faultUnless hname]
      trivial
    · rw [eq_of_mem_faultUnless hkind]
      trivial
  · obtain ⟨t, -, ht⟩ := List.mem_flatMap.mp hmembers
    exact isBreach_of_mem_brokenByMembers ht

/-! ## Readings that report -/

/-- A reading reports the first of the broken rules, and succeeds if there are none. -/
inductive Reports {β : Type} : Except CatalogFault β → List CatalogFault → Prop where
  | reads (b : β) : Reports (.ok b) []
  | stops (fault : CatalogFault) (later : List CatalogFault) :
      Reports (.error fault) (fault :: later)

namespace Reports

variable {α β : Type} {result : Except CatalogFault β} {broken later : List CatalogFault}

theorem exists_eq_ok_iff (h : Reports result broken) : (∃ b, result = .ok b) ↔ broken = [] := by
  cases h with
  | reads b => exact iff_of_true ⟨b, rfl⟩ rfl
  | stops fault later => exact ⟨nofun, nofun⟩

theorem eq_error_iff (h : Reports result broken) {fault : CatalogFault} :
    result = .error fault ↔ broken.head? = some fault := by
  cases h with
  | reads b => exact ⟨nofun, nofun⟩
  | stops first later =>
      rw [List.head?_cons, Option.some.injEq, Except.error.injEq]

/-- One reading behind the other. -/
theorem bind {first : Except CatalogFault α} {next : α → Except CatalogFault β}
    (hfirst : Reports first broken) (hnext : ∀ a, first = .ok a → Reports (next a) later) :
    Reports (first >>= next) (broken ++ later) := by
  cases hfirst with
  | reads a => exact hnext a rfl
  | stops fault rest => exact .stops fault (rest ++ later)

/-- What is made of a reading does not change what it reports. -/
theorem map (f : α → β) {first : Except CatalogFault α} (h : Reports first broken) :
    Reports (f <$> first) broken := by
  cases h with
  | reads a => exact .reads (f a)
  | stops fault rest => exact .stops fault rest

/-- Readings of all members of a list, in their order. -/
theorem mapM {f : α → Except CatalogFault β} {brokenBy : α → List CatalogFault} {as : List α}
    (h : ∀ a ∈ as, Reports (f a) (brokenBy a)) : Reports (as.mapM f) (as.flatMap brokenBy) := by
  induction as with
  | nil => exact .reads []
  | cons a as ih =>
      have hrest := ih fun a' ha' => h a' (List.mem_cons_of_mem a ha')
      rw [List.mapM_cons, List.flatMap_cons]
      refine (h a List.mem_cons_self).bind fun b _ => ?_
      exact hrest.map (b :: ·)

end Reports

/-! ## Attributes -/

namespace Xml.Element

variable {e : Element} {key : Text}

theorem OnOneLine.attribute? (h : e.OnOneLine) {value : Text}
    (hvalue : e.attribute? key = some value) : '\n' ∉ value := by
  cases h with
  | node values inside => exact values _ (mem_of_lookup hvalue)

theorem OnOneLine.childrenNamed (h : e.OnOneLine) {tag : Text} {child : Element}
    (hchild : child ∈ e.childrenNamed tag) : child.OnOneLine := by
  cases h with
  | node values inside => exact inside child (List.mem_of_mem_filter hchild)

theorem OnOneLine.trimmedOr (h : e.OnOneLine) {default : Text} (hdefault : '\n' ∉ default) :
    '\n' ∉ e.trimmedOr key default := by
  intro hmem
  have hmem := mem_of_mem_trim hmem
  cases hvalue : e.attribute? key with
  | none =>
      rw [hvalue] at hmem
      exact hdefault hmem
  | some value =>
      rw [hvalue] at hmem
      exact h.attribute? hvalue hmem

/-- An attribute that is there and not empty is present, with its trimmed value. -/
theorem Gives.trimmed? (h : e.Gives key) : trimmed? e key = some (e.trimmedOr key []) := by
  refine trimmed?_eq_some_iff.mpr ?_
  rw [Gives] at h
  rw [Element.trimmedOr]
  cases hvalue : e.attribute? key with
  | none =>
      rw [hvalue] at h
      exact absurd rfl h
  | some value =>
      rw [hvalue] at h
      exact ⟨value, rfl, h, rfl⟩

theorem trimmed?_of_not_gives (h : ¬ e.Gives key) : trimmed? e key = none := by
  rw [PointerBindings.trimmed?, required?]
  cases hvalue : e.attribute? key with
  | none => rfl
  | some value =>
      rw [Gives, hvalue, not_not] at h
      rw [show value = [] from h]
      rfl

/-- The kind of a type is known exactly if it is one of the four. -/
theorem hasKind_iff : e.HasKind ↔ ∃ kind, TypeKind.ofSpelling? e.kindName = some kind := by
  rw [HasKind, List.mem_map]
  constructor
  · rintro ⟨kind, -, hkind⟩
    exact ⟨kind, TypeKind.ofSpelling?_eq_some_iff.mpr hkind.symm⟩
  · rintro ⟨kind, hkind⟩
    exact ⟨kind, List.mem_of_find?_eq_some hkind, (TypeKind.ofSpelling?_eq_some_iff.mp hkind).symm⟩

end Xml.Element

/-! ## Declarations -/

/-- A namespace is found for every name on one line. -/
theorem Reports.declaredNamespace (e : Element) {fullName : Text} (hline : '\n' ∉ fullName) :
    Reports (declaredNamespace e fullName) [] := by
  rw [PointerBindings.declaredNamespace, namespaceOf?, divideName?_of_oneLine hline]
  cases e.attribute? "namespace".toList with
  | none => exact .reads _
  | some value => exact .reads _

/-- **A declaration** reports its name before its kind. -/
theorem Reports.declaration {e : Element} (h : e.OnOneLine) :
    Reports (Declaration.ofElement e) (brokenByDeclaration e) := by
  rw [Declaration.ofElement, brokenByDeclaration]
  by_cases hname : e.Gives "fullName".toList
  · have hkindName : lower (trim ((e.attribute? "kind".toList).getD "class".toList)) = e.kindName :=
      rfl
    rw [hname.trimmed?, faultUnless_of_kept hname, List.nil_append]
    -- behind the name the kind decides
    dsimp only
    rw [hkindName]
    by_cases hkind : e.HasKind
    · obtain ⟨kind, hspelled⟩ := Element.hasKind_iff.mp hkind
      rw [hspelled, faultUnless_of_kept hkind]
      exact (Reports.declaredNamespace e (h.trimmedOr List.not_mem_nil)).map _
    · have hunknown : TypeKind.ofSpelling? e.kindName = none :=
        Option.eq_none_iff_forall_ne_some.mpr fun kind hspelled =>
          hkind (Element.hasKind_iff.mpr ⟨kind, hspelled⟩)
      rw [hunknown, faultUnless_of_broken hkind]
      exact .stops _ []
  · rw [Element.trimmed?_of_not_gives hname, faultUnless_of_broken hname]
    exact .stops _ _

/-! ## Members -/

/-- Every name on one line can be referred to. -/
theorem Reports.referenceTo (declared : List Declaration) {name : Text} (hline : '\n' ∉ name) :
    Reports (referenceTo declared name) [] := by
  rw [PointerBindings.referenceTo, resolveAmong, divideName?_of_oneLine hline]
  dsimp only
  cases findDeclaration? declared (divideLine name).1 with
  | none => exact .reads _
  | some d => exact .reads _

theorem Reports.returnReference (declared : List Declaration) {e : Element} (h : e.OnOneLine) :
    Reports (returnReference declared e) [] :=
  .referenceTo declared (h.trimmedOr (by decide))

theorem Reports.parameter (declared : List Declaration) (owner : Text) {e : Element}
    (h : e.OnOneLine) :
    Reports (ReflectedParameter.ofElement declared owner e)
      (faultUnless e.IsParameter (.incompleteParameter owner)) := by
  rw [ReflectedParameter.ofElement]
  by_cases hname : e.Gives "name".toList
  · by_cases htype : e.Gives "type".toList
    · rw [hname.trimmed?, htype.trimmed?, faultUnless_of_kept ⟨hname, htype⟩]
      exact (Reports.referenceTo declared (h.trimmedOr List.not_mem_nil)).map _
    · rw [hname.trimmed?, Element.trimmed?_of_not_gives htype,
        faultUnless_of_broken fun hboth => htype hboth.2]
      exact .stops _ []
  · rw [Element.trimmed?_of_not_gives hname, faultUnless_of_broken fun hboth => hname hboth.1]
    exact .stops _ []

theorem Reports.parameters (declared : List Declaration) (owner : Text) {e : Element}
    (h : e.OnOneLine) :
    Reports (parametersInside declared owner e) (brokenByParameters owner e) :=
  .mapM fun _ hp => .parameter declared owner (h.childrenNamed hp)

/-- **A method** reports its name before its parameters. -/
theorem Reports.method (declared : List Declaration) (owner : Text) {e : Element}
    (h : e.OnOneLine) :
    Reports (Method.ofElement declared owner e) (brokenByMethod owner e) := by
  rw [Method.ofElement, brokenByMethod]
  by_cases hname : e.Gives "name".toList
  · rw [hname.trimmed?, faultUnless_of_kept hname, List.nil_append]
    exact (Reports.returnReference declared h).bind fun _ _ =>
      (Reports.parameters declared _ h).map _
  · rw [Element.trimmed?_of_not_gives hname, faultUnless_of_broken hname]
    exact .stops _ _

theorem Reports.invocation (declared : List Declaration) (owner : Text) {e : Element}
    (h : e.OnOneLine) :
    Reports (Method.invocation declared owner e) (brokenByParameters owner e) :=
  (Reports.returnReference declared h).bind fun _ _ => (Reports.parameters declared owner h).map _

/-- **The members of a type** report the parameters of a delegate before the methods. -/
theorem Reports.members (declared : List Declaration) {d : Declaration} {e : Element}
    (hd : d.ReadFrom e) (h : e.OnOneLine) :
    Reports (DeclaredType.ofElement declared d e) (brokenByMembers e) := by
  have hmethods : Reports
      ((e.childrenNamed "method".toList).mapM (Method.ofElement declared e.declaredName))
      (e.methodElements.flatMap (brokenByMethod e.declaredName)) :=
    .mapM fun _ hm => .method declared e.declaredName (h.childrenNamed hm)
  rw [DeclaredType.ofElement, brokenByMembers, hd.isDelegate_eq, hd.fullName_eq]
  by_cases hdelegate : e.declaresDelegate = true
  · rw [if_pos hdelegate, if_pos hdelegate]
    exact ((Reports.invocation declared e.declaredName h).map some).bind fun _ _ => hmethods.map _
  · rw [if_neg hdelegate, if_neg hdelegate]
    exact hmethods.map _

/-! ## Documents -/

/-- **The types of a document** report all declarations before all members. -/
theorem Reports.definitions {es : List Element} (h : ∀ e ∈ es, e.OnOneLine) :
    Reports (definitionsOf es) (es.flatMap brokenByDeclaration ++ es.flatMap brokenByMembers) := by
  refine (Reports.mapM fun e he => .declaration (h e he)).bind fun declared hdeclared => ?_
  have hread : List.Forall₂ Declaration.ReadFrom declared es :=
    (mapM_eq_ok_iff fun _ _ => Declaration.ofElement_eq_ok_iff).mp hdeclared
  -- every declaration stands beside the element that it was read from
  obtain ⟨hlength, hzip⟩ := List.forall₂_iff_zip.mp hread
  have hmembers : Reports
      ((declared.zip es).mapM fun entry => DeclaredType.ofElement declared entry.1 entry.2)
      ((declared.zip es).flatMap fun entry => brokenByMembers entry.2) :=
    .mapM fun entry hentry =>
      .members declared (hzip hentry) (h entry.2 (List.of_mem_zip hentry).2)
  rwa [← List.flatMap_map Prod.snd, List.map_snd_zip hlength.ge] at hmembers

/-- **A document** reports its root before its types. -/
theorem Reports.document {root : Element} (h : root.OnOneLine) :
    Reports (Catalog.ofElement root) (brokenRules root) := by
  rw [Catalog.ofElement, brokenRules]
  by_cases htag : root.tag = "assembly".toList
  · rw [if_neg (not_not.mpr htag), faultUnless_of_kept htag, List.nil_append]
    exact (Reports.definitions fun _ ht => h.childrenNamed ht).map _
  · rw [if_pos htag, faultUnless_of_broken htag]
    exact .stops _ _

namespace Catalog

/-- **A document on single lines is read exactly if it keeps the rules of a catalog**, and what is
    reported of any other one is the first rule that it breaks. -/
theorem ofElement_first_broken {root : Element} (hline : root.OnOneLine) :
    ((∃ c, ofElement root = .ok c) ↔ CatalogRules root)
      ∧ ∀ fault, ofElement root = .error fault
        ↔ (brokenRules root).head? = some fault ∧ fault.IsBreach := by
  have hreports := Reports.document hline
  refine ⟨hreports.exists_eq_ok_iff.trans brokenRules_eq_nil_iff, fun fault => ?_⟩
  rw [hreports.eq_error_iff]
  refine ⟨fun hfirst => ⟨hfirst, ?_⟩, And.left⟩
  exact isBreach_of_mem_brokenRules (List.mem_of_mem_head? hfirst)

/-- A method without a name in the first type, and a kind that nobody knows for the second. -/
def lateKind : Element :=
  .node "assembly".toList []
    [.node "type".toList [("fullName".toList, "N.A".toList)] [.node "method".toList [] []],
      .node "type".toList
        [("fullName".toList, " N.B".toList), ("kind".toList, "Interface ".toList)] []]

/-- The declaration of the second type is looked at before the method of the first one. -/
theorem ofElement_first_broken_lateKind :
    lateKind.OnOneLine
      ∧ brokenRules lateKind
        = [.unknownKind "interface".toList "N.B".toList, .methodWithoutName "N.A".toList]
      ∧ (¬ ∃ c, ofElement lateKind = .ok c)
      ∧ ofElement lateKind = .error (.unknownKind "interface".toList "N.B".toList) := by
  have hline : lateKind.OnOneLine := by
    refine .node nofun fun t ht => ?_
    rcases List.mem_pair.mp ht with rfl | rfl
    · refine .node (by decide) fun m hm => ?_
      rw [List.mem_singleton.mp hm]
      exact .node nofun nofun
    · exact .node (by decide) nofun
  have hbroken : brokenRules lateKind
      = [.unknownKind "interface".toList "N.B".toList, .methodWithoutName "N.A".toList] := rfl
  obtain ⟨hread, hreported⟩ := ofElement_first_broken hline
  refine ⟨hline, hbroken, fun hcatalog => ?_, (hreported _).mpr ⟨by rw [hbroken]; rfl, trivial⟩⟩
  have hnone := brokenRules_eq_nil_iff.mpr (hread.mp hcatalog)
  exact nomatch hbroken.symm.trans hnone

/-- Another document, with a type that has no name. -/
def otherDocument : Element :=
  .node "bindings".toList [] [.node "type".toList [] []]

/-- What is reported of a document need not belong to the first broken declaration of a type, even
    if there is one: the root is looked at before. -/
theorem root_reported_before_types :
    otherDocument.OnOneLine
      ∧ brokenRules otherDocument = [.wrongRoot "bindings".toList, .typeWithoutName]
      ∧ ofElement otherDocument = .error (.wrongRoot "bindings".toList)
      ∧ ¬ ∀ fault, ofElement otherDocument = .error fault →
        (brokenByTypes otherDocument).head? = some fault := by
  refine ⟨.node nofun fun t ht => ?_, rfl, rfl, fun hfirst => ?_⟩
  · rw [List.mem_singleton.mp ht]
    exact .node nofun nofun
  · have htypes : (brokenByTypes otherDocument).head? = some .typeWithoutName := rfl
    exact nomatch htypes.symm.trans (hfirst _ rfl)

end Catalog

end PointerBindings
