import PointerBindings.Proofs.Catalog.Lookup
import PointerBindings.Proofs.Unmanaged.Bases

/-! # Nested names — where a nested type passes for a framework type

    A nested type loses its namespace and has points for its plus signs before the framework
    types are looked up, and by then `System+Int32` reads like a type in a namespace.  So a nested
    type keeps its name unless it can be told from a framework type by its plus signs only
    (`Catalog.nested_base_kept_iff`): where it has no namespace, or where it is a
    `Text+StringBuilder` inside the namespace `System`. -/

namespace PointerBindings

open Text

/-! ## Points for plus signs -/

/-- A text with one point is made of one plus sign, if of any. -/
theorem eq_of_exchange_plus {t front back : Text} (h : exchange '+' '.' t = front ++ '.' :: back)
    (hplus : '+' ∈ t) (hfront : '.' ∉ front) (hback : '.' ∉ back) : t = front ++ '+' :: back := by
  obtain ⟨before, after, rfl⟩ := List.append_of_mem hplus
  have hparts : front ++ '.' :: back = exchange '+' '.' before ++ '.' :: exchange '+' '.' after := by
    rw [← h, exchange_append]
    rfl
  obtain ⟨hbefore, -, hafter⟩ := (List.append_cons_inj_of_notMem hfront hback).mp hparts
  rw [eq_of_exchange_eq hbefore.symm hfront, eq_of_exchange_eq hafter.symm hback]

theorem point_mem_exchange_plus {t : Text} (hplus : '+' ∈ t) : '.' ∈ exchange '+' '.' t :=
  List.mem_map.mpr ⟨'+', hplus, rfl⟩

/-! ## Framework names -/

/-- The full name of a framework type has one point, but for that of one type. -/
theorem points_of_primitive {word : WordSize} {fullName native : Text}
    (h : primitiveSpelling? word fullName = some native) :
    fullName.count '.' ≤ 1 ∨ fullName = "System.Text.StringBuilder".toList := by
  have hall : ∀ entry ∈ primitiveSpellings ++ wordSpellings,
      entry.1.count '.' ≤ 1 ∨ entry.1 = "System.Text.StringBuilder".toList := by decide
  exact hall _ (mem_of_primitiveSpelling? h)

theorem plus_notMem_of_primitive {word : WordSize} {fullName native : Text}
    (h : primitiveSpelling? word fullName = some native) : '+' ∉ fullName := by
  have hall : ∀ entry ∈ primitiveSpellings ++ wordSpellings, '+' ∉ entry.1 := by decide
  exact hall _ (mem_of_primitiveSpelling? h)

/-- No framework type ends in the base of its native spelling. -/
theorem native_base_not_suffix {word : WordSize} {fullName native : Text}
    (h : primitiveSpelling? word fullName = some native) : ¬ (divideLine native).1 <:+ fullName := by
  have hall : ∀ entry ∈ primitiveSpellings ++ wordSpellings,
      ¬ (divideLine entry.2).1 <:+ entry.1 := by decide
  exact hall _ (mem_of_primitiveSpelling? h)

/-- Only one framework type has a name with a point inside a namespace. -/
theorem eq_of_primitive_inside {word : WordSize} {namespaceName plain native : Text}
    (h : primitiveSpelling? word (namespaceName ++ '.' :: plain) = some native)
    (hpoint : '.' ∈ plain) :
    namespaceName = "System".toList ∧ plain = "Text.StringBuilder".toList := by
  have hcount : (namespaceName ++ '.' :: plain).count '.'
      = namespaceName.count '.' + (plain.count '.' + 1) := by
    rw [List.count_append, List.count_cons_self]
  have hplain : 0 < plain.count '.' := List.count_pos_iff.mpr hpoint
  rcases points_of_primitive h with hone | hname
  · omega
  · -- both of its points are used up, so that none is left for the namespace
    have htwo : (namespaceName ++ '.' :: plain).count '.' = 2 := by
      rw [hname]
      decide
    have hclear : '.' ∉ namespaceName := List.count_eq_zero.mp (by omega)
    have hcut := cutFirst_append plain hclear
    rw [hname] at hcut
    cases hcut
    exact ⟨rfl, rfl⟩

/-! ## Nested names -/

/-- The base of a nested type as it is without its namespace and with points for plus signs. -/
def nestedBase (namespaceName base : Text) : Text :=
  exchange '+' '.' (shedNamespace namespaceName base)

/-- With points for its plus signs, the base is the name of a framework type that has a native
    spelling under the policy. -/
def PassesForFramework (o : TypePolicy) (namespaceName base : Text) : Prop :=
  o.keepsTypeNames = false
    ∧ (namespaceName = [] ∧ (primitiveSpelling? o.word (exchange '+' '.' base)).isSome = true
      ∨ namespaceName = "System".toList
        ∧ (base = "System.Text+StringBuilder".toList ∨ base = "Text+StringBuilder".toList))

instance (o : TypePolicy) (namespaceName base : Text) :
    Decidable (PassesForFramework o namespaceName base) :=
  inferInstanceAs (Decidable (_ ∧ _))

/-- Inside a namespace only one nested base reads like a framework type, whether or not it has
    the namespace in front. -/
theorem eq_of_nestedBase_inside {word : WordSize} {namespaceName base native : Text}
    (h : primitiveSpelling? word (namespaceName ++ '.' :: nestedBase namespaceName base)
      = some native) (hplus : '+' ∈ base) :
    namespaceName = "System".toList
      ∧ (base = "System.Text+StringBuilder".toList ∨ base = "Text+StringBuilder".toList) := by
  have hshedPlus : '+' ∈ shedNamespace namespaceName base := by
    rcases shedNamespace_cases namespaceName base with ⟨rest, -, hbase, hshed⟩ | ⟨-, hshed⟩
    · rw [hbase] at hplus
      rw [hshed]
      rcases List.mem_append.mp hplus with hnamespace | hrest
      · exact absurd (List.mem_append_left _ hnamespace) (plus_notMem_of_primitive h)
      · exact List.mem_of_ne_of_mem (by decide) hrest
    · rw [hshed]
      exact hplus
  obtain ⟨rfl, hpointed⟩ := eq_of_primitive_inside h (point_mem_exchange_plus hshedPlus)
  have hshed : shedNamespace "System".toList base = "Text".toList ++ '+' :: "StringBuilder".toList :=
    eq_of_exchange_plus hpointed hshedPlus (by decide) (by decide)
  refine ⟨rfl, ?_⟩
  rcases shedNamespace_cases "System".toList base with ⟨rest, -, hbase, hrest⟩ | ⟨-, hsame⟩
  · rw [hrest] at hshed
    rw [hbase, hshed]
    exact Or.inl rfl
  · rw [hsame] at hshed
    exact Or.inr hshed

/-- A nested base is looked up with success exactly if it passes for a framework type. -/
theorem passesForFramework_iff {o : TypePolicy} {namespaceName base : Text} (hplus : '+' ∈ base) :
    PassesForFramework o namespaceName base
      ↔ o.keepsTypeNames = false ∧ ∃ native, primitiveSpelling? o.word
        (qualifiedName namespaceName (nestedBase namespaceName base)) = some native := by
  rw [PassesForFramework]
  refine and_congr_right fun _ => ?_
  by_cases hnone : namespaceName = []
  · rw [hnone, nestedBase, shedNamespace_nil, qualifiedName, if_pos rfl, Option.isSome_iff_exists]
    constructor
    · rintro (⟨-, h⟩ | ⟨h, -⟩)
      · exact h
      · exact nomatch h
    · exact fun h => Or.inl ⟨rfl, h⟩
  · rw [qualifiedName, if_neg hnone]
    constructor
    · rintro (⟨h, -⟩ | ⟨rfl, hbase⟩)
      · exact absurd h hnone
      · refine ⟨"byte*".toList, ?_⟩
        have hnested : nestedBase "System".toList base = "Text.StringBuilder".toList := by
          rcases hbase with rfl | rfl
          · decide
          · decide
        rw [hnested]
        cases o.word with
        | _ => decide
    · rintro ⟨native, hnative⟩
      exact Or.inr (eq_of_nestedBase_inside hnative hplus)

/-- The native base is the plain one, but for stars, exactly if no native spelling has the place
    of it. -/
theorem divideLine_nativeBase_eq_iff {o : TypePolicy} {namespaceName plain : Text}
    (hclear : EndsClear plain) :
    (divideLine (nativeBase o namespaceName plain)).1 = plain
      ↔ ¬ (o.keepsTypeNames = false ∧ ∃ native,
        primitiveSpelling? o.word (qualifiedName namespaceName plain) = some native) := by
  constructor
  · rintro hsame ⟨hkeeps, native, hnative⟩
    rw [nativeBase, hkeeps, if_neg Bool.false_ne_true, hnative, Option.getD_some] at hsame
    have hsuffix : plain <:+ qualifiedName namespaceName plain := by
      rw [qualifiedName]
      split
      · exact List.suffix_rfl
      · exact (List.suffix_cons '.' plain).trans (List.suffix_append _ _)
    exact native_base_not_suffix hnative (hsame ▸ hsuffix)
  · intro hnone
    rcases nativeBase_cases o namespaceName plain with heq | ⟨hkeeps, hnative⟩
    · rw [heq, divideLine_of_endsClear hclear]
    · exact absurd ⟨hkeeps, _, hnative⟩ hnone

/-- A nested type keeps its base exactly if that does not pass for a framework type. -/
theorem TypeReference.nested_base_iff {t : TypeReference} (hline : '\n' ∉ t.fullName)
    (hnested : '+' ∈ t.fullName) (hvalue : t.isDelegate = false) (o : TypePolicy) :
    ∃ text, t.unmanaged? o = some text
      ∧ ((divideLine text).1 = nestedBase t.namespaceName (divideLine t.fullName).1
        ↔ ¬ PassesForFramework o t.namespaceName (divideLine t.fullName).1) := by
  have hplain : t.plainBase = nestedBase t.namespaceName (divideLine t.fullName).1 := if_pos hnested
  refine ⟨_, unmanaged?_eq hline hvalue o, ?_⟩
  rw [divideLine_append, passesForFramework_iff (plus_mem_base hnested), ← hplain]
  exact divideLine_nativeBase_eq_iff t.plainBase_endsClear

namespace Catalog

/-- **Which nested types keep their names.**  A reference on one line with a plus sign in it that
    is no delegate has a text in every catalog and under every policy, and the base of that text
    is the nested base of the reference exactly if this does not pass for a framework type. -/
theorem nested_base_kept_iff (c : Catalog) (o : TypePolicy) {name : Text} (hline : '\n' ∉ name)
    (hnested : '+' ∈ name) (hvalue : ∀ r ∈ c.resolve name, r.isDelegate = false) :
    ∃ base markers text stem kept, DividesInto name base markers ∧ DividesInto text stem kept
      ∧ (c.resolve name).bind (TypeReference.unmanaged? o) = some text
      ∧ (stem = nestedBase (c.namespaceOf base) base
        ↔ ¬ PassesForFramework o (c.namespaceOf base) base) := by
  have hresolve := c.resolve_of_oneLine hline
  obtain ⟨text, htext, hkept⟩ :=
    TypeReference.nested_base_iff hline hnested (hvalue _ hresolve) o
  refine ⟨(divideLine name).1, (divideLine name).2, text, (divideLine text).1, (divideLine text).2,
    dividesInto_iff.mpr rfl, dividesInto_iff.mpr rfl, ?_, hkept⟩
  rw [hresolve]
  exact htext

/-- An array of a nested type keeps the name of the enclosing type. -/
theorem nested_base_kept_iff_array :
    ('\n' ∉ "N.Outer+Int32[]".toList ∧ '+' ∈ "N.Outer+Int32[]".toList
        ∧ ∀ r ∈ resolve {} "N.Outer+Int32[]".toList, r.isDelegate = false)
      ∧ (resolve {} "N.Outer+Int32[]".toList).bind (TypeReference.unmanaged? {})
        = some "Outer.Int32*".toList
      ∧ "Outer.Int32".toList = nestedBase "N".toList "N.Outer+Int32".toList := by
  have hline : '\n' ∉ "N.Outer+Int32[]".toList := by decide
  have hnested : '+' ∈ "N.Outer+Int32[]".toList := by decide
  have hvalue : ∀ r ∈ resolve {} "N.Outer+Int32[]".toList, r.isDelegate = false := by
    intro r hr
    cases hr
    rfl
  have hspelled : (resolve {} "N.Outer+Int32[]".toList).bind (TypeReference.unmanaged? {})
      = some "Outer.Int32*".toList := rfl
  refine ⟨⟨hline, hnested, hvalue⟩, hspelled, ?_⟩
  obtain ⟨base, markers, text, stem, kept, hname, hparts, htext, hkept⟩ :=
    nested_base_kept_iff {} {} hline hnested hvalue
  cases hspelled.symm.trans htext
  cases dividesInto_iff.mp hname
  cases dividesInto_iff.mp hparts
  exact hkept.mpr (by decide)

/-- Not every nested type keeps its name: one nested in a type that is called `System` is taken for
    the framework type of that name. -/
theorem nested_base_lost :
    (resolve {} "System+Int32".toList).bind (TypeReference.unmanaged? {}) = some "int".toList
      ∧ ¬ ∀ name, '\n' ∉ name → '+' ∈ name → (∀ r ∈ resolve {} name, r.isDelegate = false) →
        ∀ text ∈ (resolve {} name).bind (TypeReference.unmanaged? {}),
          (divideLine text).1
            = nestedBase (namespaceOf {} (divideLine name).1) (divideLine name).1 := by
  refine ⟨rfl, fun hall => ?_⟩
  have hvalue : ∀ r ∈ resolve {} "System+Int32".toList, r.isDelegate = false := by
    intro r hr
    cases hr
    rfl
  have hkept := hall "System+Int32".toList (by decide) (by decide) hvalue "int".toList rfl
  exact absurd hkept (by decide)

end Catalog

end PointerBindings
