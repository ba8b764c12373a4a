import Mathlib.Data.List.Flatten
import PointerBindings.Proofs.Catalog.Division

/-! # Search paths — which members of a catalog are spelled

    A search path selects types by what their full names begin with.  Of the path itself only the
    text counts that is left without the blanks and then the stars at its ends: a name falls under
    the path exactly if it begins with that text, so a wider path has a shorter one
    (`fallsUnder_iff`).  Nothing else depends on the path.  A source over a catalog spells every
    member that is selected, in the order of the catalog and in the same way under all paths
    (`MemberKind.drain_selected`). -/

namespace PointerBindings

open Text Xml

/-! ## Stars -/

namespace Text

/-- The text without the stars at its ends. -/
def stripStars (t : Text) : Text :=
  (t.dropWhile (· == '*')).rdropWhile (· == '*')

/-- A star behind a text is taken off. -/
theorem stripStars_concat (t : Text) : stripStars (t ++ ['*']) = stripStars t := by
  rw [stripStars, stripStars, List.dropWhile_append]
  cases hstart : t.dropWhile (· == '*') with
  | nil => rfl
  | cons c rest => exact List.rdropWhile_concat_pos _ _ _ rfl

/-- A star behind a trimmed text is no blank. -/
theorem IsTrimmed.concat_star {t : Text} (h : IsTrimmed t) : IsTrimmed (t ++ ['*']) := by
  have hstar : isBlank '*' = false := by decide
  constructor
  · intro c hc
    cases t with
    | nil =>
        cases hc
        exact hstar
    | cons d rest => exact h.1 c hc
  · intro c hc
    rw [List.getLast?_concat] at hc
    cases hc
    exact hstar

/-- Stars behind a trimmed text are no blanks, and they are taken off. -/
theorem IsTrimmed.append_stars {t : Text} (h : IsTrimmed t) (n : Nat) :
    IsTrimmed (t ++ List.replicate n '*')
      ∧ stripStars (t ++ List.replicate n '*') = stripStars t := by
  induction n with
  | zero =>
      rw [List.replicate_zero, List.append_nil]
      exact ⟨h, rfl⟩
  | succ n ih =>
      rw [List.replicate_succ', ← List.append_assoc, stripStars_concat]
      exact ⟨ih.1.concat_star, ih.2⟩

end Text

/-! ## Paths -/

/-- A name falls under a path: any does under none and under a blank one, and else those that
    begin with what is left of the path without the blanks and then the stars at its ends. -/
def FallsUnder (path : Option Text) (name : Text) : Prop :=
  match path with
  | none => True
  | some p => allBlank p = true ∨ stripStars (trim p) <+: name

instance (path : Option Text) (name : Text) : Decidable (FallsUnder path name) :=
  match path with
  | none => .isTrue trivial
  | some _ => inferInstanceAs (Decidable (_ ∨ _))

/-- What counts of a path. -/
def barePath : Option Text → Text
  | none => []
  | some p => stripStars (trim p)

/-- A name falls under a path exactly if it begins with what counts of the path. -/
theorem fallsUnder_iff {path : Option Text} {name : Text} :
    FallsUnder path name ↔ barePath path <+: name := by
  cases path with
  | none => exact iff_of_true trivial List.nil_prefix
  | some p =>
      refine ⟨?_, Or.inr⟩
      rintro (hblank | hbegins)
      · rw [barePath, trim_eq_nil_iff.mpr hblank]
        exact List.nil_prefix
      · exact hbegins

/-- Names are held against paths in just this way. -/
theorem fallsUnder_eq (path : Option Text) (name : Text) :
    fallsUnder name path = decide (FallsUnder path name) := by
  rw [Bool.eq_iff_iff, decide_eq_true_eq, fallsUnder_iff]
  cases path with
  | none => exact iff_of_true rfl List.nil_prefix
  | some p =>
      rw [fallsUnder, barePath]
      split
      · rename_i hall
        rw [Bool.or_eq_true, decide_eq_true_eq, decide_eq_true_eq] at hall
        refine iff_of_true rfl ?_
        rcases hall with hblank | hstar
        · rw [hblank]
          exact List.nil_prefix
        · rw [hstar]
          exact List.nil_prefix
      · exact List.isPrefixOf_iff_prefix

/-- Blanks around a trimmed path and stars behind it do not count. -/
theorem barePath_starred {p before behind : Text} (hp : IsTrimmed p)
    (hbefore : allBlank before = true) (hbehind : allBlank behind = true) (n : Nat) :
    barePath (some (before ++ (p ++ List.replicate n '*') ++ behind)) = barePath (some p) := by
  obtain ⟨htrimmed, hstrip⟩ := hp.append_stars n
  rw [barePath, trim_of_blanks_around hbefore hbehind htrimmed, hstrip, barePath,
    trim_eq_self_iff.mpr hp]

/-! ## Members -/

namespace MemberKind

/-- What the members of either kind are. -/
def Member : MemberKind → Type
  | .delegates => DeclaredType
  | .imports => Method

/-- The members that a path selects, in the order of the catalog: the delegates that are not
    generic, or the static methods with a native library. -/
def selected : (k : MemberKind) → Catalog → Option Text → List k.Member
  | .delegates, c, path =>
      c.types.filter fun t => FallsUnder path t.fullName ∧ t.isDelegate = true ∧ t.isGeneric = false
  | .imports, c, path =>
      (c.types.filter fun t => FallsUnder path t.fullName).flatMap fun t =>
        t.methods.filter fun m => m.isStatic && m.library.isSome

/-- The signature spells the member: a delegate by the simple name of its type and the way it is
    called, and a method by itself. -/
def Spells (o : TypePolicy) : (k : MemberKind) → k.Member → Signature → Prop
  | .delegates, t, s => ∃ invoke name, t.invoke = some invoke ∧ simpleName? t.fullName = some name
      ∧ invoke.signature? o name t.convention = some s
  | .imports, m, s => m.signature? o m.name m.convention = some s

variable {k : MemberKind} {c : Catalog} {root : Element} {o : TypePolicy}
  {path path' : Option Text}

/-- Under a path that is no longer than another no fewer members are selected. -/
theorem selected_sublist (h : barePath path <+: barePath path') :
    (k.selected c path').Sublist (k.selected c path) := by
  have hunder : ∀ name, FallsUnder path' name → FallsUnder path name := fun name hname =>
    fallsUnder_iff.mpr (h.trans (fallsUnder_iff.mp hname))
  cases k with
  | delegates =>
      refine List.monotone_filter_right _ fun t ht => ?_
      rw [decide_eq_true_eq] at ht ⊢
      exact ⟨hunder _ ht.1, ht.2⟩
  | imports =>
      refine List.Sublist.flatMap (List.monotone_filter_right _ fun t ht => ?_) _
      rw [decide_eq_true_eq] at ht ⊢
      exact hunder _ ht

/-- What is selected depends on what counts of the path only. -/
theorem selected_congr (h : barePath path = barePath path') :
    k.selected c path = k.selected c path' :=
  (selected_sublist (h ▸ List.prefix_rfl)).antisymm (selected_sublist (h ▸ List.prefix_rfl))

/-- Whatever is selected is selected without a path. -/
theorem selected_sublist_none : (k.selected c path).Sublist (k.selected c none) :=
  selected_sublist List.nil_prefix

/-- The delegates of a catalog under a path are those that it selects. -/
theorem selected_delegates (c : Catalog) (path : Option Text) :
    selected .delegates c path = c.delegates path := by
  rw [Catalog.delegates, List.filter_filter, selected]
  refine List.filter_congr fun (t : DeclaredType) _ => ?_
  rw [fallsUnder_eq, Bool.decide_and, Bool.and_comm]
  have hplain : decide (t.isDelegate = true ∧ t.isGeneric = false) = t.isPlainDelegate := by
    rw [DeclaredType.isPlainDelegate, Bool.decide_and, Bool.decide_eq_true, Bool.decide_eq_false]
  rw [hplain]

/-- **Every member can be spelled** in a catalog whose types have names on one line. -/
theorem exists_spells (h : c.ReadFrom root) (hline : ∀ t ∈ c.types, '\n' ∉ t.fullName)
    (o : TypePolicy) : ∀ member ∈ k.selected c none, ∃ s, k.Spells o member s := by
  intro member hmember
  cases k with
  | delegates =>
      obtain ⟨ht, hselected⟩ := List.mem_filter.mp hmember
      obtain ⟨-, hdelegate, -⟩ := of_decide_eq_true hselected
      have htrimmed : IsTrimmed member.fullName :=
        forall_of_forall₂ h.types (fun t _ ht => ht.declaration.isTrimmed_fullName) member ht
      -- what a delegate was read from says how it is called
      obtain ⟨m, e, hm, hread⟩ := h.exists_invocation member ht hdelegate
      have hname : simpleName? member.fullName ≠ none := fun hnone =>
        hline member ht ((simpleName?_eq_none_iff htrimmed).mp hnone)
      obtain ⟨name, hname⟩ := Option.ne_none_iff_exists'.mp hname
      obtain ⟨s, hs⟩ := hread.toCallReadFrom.exists_signature o name member.convention
      exact ⟨s, m, name, hm, hname, hs⟩
  | imports =>
      obtain ⟨t, ht, hm⟩ := List.mem_flatMap.mp hmember
      have hread : member ∈ c.imports none :=
        List.mem_flatMap.mpr ⟨t, List.mem_filter.mpr ⟨List.mem_of_mem_filter ht, rfl⟩, hm⟩
      obtain ⟨s, hs⟩ := h.importSignature o hread
      exact ⟨s, orUndivided_eq_ok_iff.mp hs⟩

/-- **The outcomes of a source** over a catalog are the signatures of the selected members. -/
theorem outcomes_selected {spelled : k.Member → Signature}
    (h : ∀ member ∈ k.selected c none, k.Spells o member (spelled member))
    (path : Option Text) :
    (k.source c path o).outcomes = ((k.selected c path).map spelled).map .ok := by
  have hselected : ∀ member ∈ k.selected c path, k.Spells o member (spelled member) :=
    fun member hmember => h member (selected_sublist_none.subset hmember)
  have hpaths : (fun t : DeclaredType => fallsUnder t.fullName path)
      = fun t => decide (FallsUnder path t.fullName) :=
    funext fun t => fallsUnder_eq path t.fullName
  rw [List.map_map]
  cases k with
  | delegates =>
      show (c.delegates path).map _ = _
      rw [selected_delegates]
      refine List.map_congr_left fun t ht => ?_
      exact DeclaredType.delegateSignature_eq_ok_iff.mpr (hselected t (selected_delegates c path ▸ ht))
  | imports =>
      show ((c.types.filter fun t => fallsUnder t.fullName path).flatMap _).map _ = _
      rw [hpaths]
      refine List.map_congr_left fun m hm => ?_
      have hs : m.signature? o m.name m.convention = some (spelled m) := hselected m hm
      rw [Method.importSignature, hs]
      rfl

/-- **What is drained** from a source over a catalog are the signatures of the members that the
    search path selects. -/
theorem drain_selected (hread : Catalog.ofElement root = .ok c)
    (hline : ∀ t ∈ c.types, '\n' ∉ t.fullName) (k : MemberKind) (o : TypePolicy) :
    ∃ spelled : k.Member → Signature,
      (∀ member ∈ k.selected c none, k.Spells o member (spelled member))
      ∧ (∀ path, (CountedSource.mk (k.source c path o) []).drain.1
          = .ok ((k.selected c path).map spelled))
      ∧ (∀ path, ((k.selected c path).map spelled).Sublist ((k.selected c none).map spelled))
      ∧ (∀ p before behind n, IsTrimmed p → allBlank before = true → allBlank behind = true →
          (k.selected c (some (before ++ (p ++ List.replicate n '*') ++ behind))).map spelled
            = (k.selected c (some p)).map spelled)
      ∧ ∀ path path', barePath path <+: barePath path' →
          ((k.selected c path').map spelled).Sublist ((k.selected c path).map spelled) := by
  have hc := Catalog.ofElement_eq_ok_iff.mp hread
  choose! spelled hspelled using exists_spells (k := k) hc hline o
  refine ⟨spelled, hspelled, fun path => ?_, fun path => selected_sublist_none.map spelled, ?_,
    fun path path' hwider => (selected_sublist hwider).map spelled⟩
  · have hcoming : (k.source c path o).coming = ((k.selected c path).map spelled).map .ok := by
      rw [← outcomes_selected hspelled path]
      cases k with
      | _ => rfl
    rw [(CountedSource.drain_spec _).1, gathered_eq_ok_iff]
    exact hcoming
  · intro p before behind n hp hbefore hbehind
    rw [selected_congr (barePath_starred hp hbefore hbehind n)]

/-- Two delegates, another one that is generic, and a class with an imported method between two
    that are not. -/
def vendorAssembly : Element :=
  .node "assembly".toList []
    [.node "type".toList [("fullName".toList, "Vendor.Log".toList),
        ("kind".toList, "delegate".toList)] [],
      .node "type".toList [("fullName".toList, "Vendor.Map`1".toList),
        ("kind".toList, "delegate".toList), ("generic".toList, "true".toList)] [],
      .node "type".toList [("fullName".toList, "Vendor.Native".toList)]
        [.node "method".toList [("name".toList, "Help".toList)] [],
          .node "method".toList [("name".toList, "Init".toList),
            ("dllImport".toList, "vendor".toList)] [],
          .node "method".toList [("name".toList, "Close".toList), ("static".toList, "false".toList),
            ("dllImport".toList, "vendor".toList)] []],
      .node "type".toList [("fullName".toList, "Other.Log".toList),
        ("kind".toList, "delegate".toList)] []]

/-- A method without parameters that returns nothing. -/
def plainMethod (name : Text) : Method :=
  { name, returnType := ⟨"System.Void".toList, "System".toList, false⟩ }

/-- A delegate without parameters that returns nothing. -/
def plainDelegate (fullName namespaceName : Text) : DeclaredType :=
  { fullName, namespaceName, kind := .delegateKind,
    invoke := some { plainMethod "Invoke".toList with isStatic := false } }

/-- The catalog of the vendor. -/
def vendorCatalog : Catalog :=
  { types := [
      plainDelegate "Vendor.Log".toList "Vendor".toList,
      { plainDelegate "Vendor.Map`1".toList "Vendor".toList with isGeneric := true },
      { fullName := "Vendor.Native".toList, namespaceName := "Vendor".toList,
        methods := [plainMethod "Help".toList,
          { plainMethod "Init".toList with library := some "vendor".toList },
          { plainMethod "Close".toList with isStatic := false, library := some "vendor".toList }] },
      plainDelegate "Other.Log".toList "Other".toList] }

/-- The vendor's delegate is the first of two, and it is the only one below a path with blanks and
    stars around the vendor's name. -/
theorem drain_selected_vendor :
    Catalog.ofElement vendorAssembly = .ok vendorCatalog
      ∧ (∀ t ∈ vendorCatalog.types, '\n' ∉ t.fullName)
      ∧ ∃ log otherLog,
        (CountedSource.mk (delegates.source vendorCatalog none {}) []).drain.1 = .ok [log, otherLog]
        ∧ (CountedSource.mk (delegates.source vendorCatalog (some " Vendor.** ".toList) {})
            []).drain.1 = .ok [log] := by
  have hread : Catalog.ofElement vendorAssembly = .ok vendorCatalog := rfl
  have hline : ∀ t ∈ vendorCatalog.types, '\n' ∉ t.fullName := by decide
  obtain ⟨spelled, -, hdrain, -, hstarred, -⟩ := drain_selected hread hline .delegates {}
  refine ⟨hread, hline, _, _, hdrain none, ?_⟩
  rw [hdrain]
  have hplain := hstarred "Vendor.".toList [' '] [' '] 2 (by decide) rfl rfl
  exact congrArg Except.ok hplain

end MemberKind

end PointerBindings
