import PointerBindings.Catalog
import PointerBindings.Proofs.TypeName.Markers

/-! # Lookup — what a catalog knows of a name

    A name on one line can always be looked up.  The reference keeps the name as it is, gets the
    namespace of the first type that is declared by its base, or else the one that the base itself
    shows, and is a delegate if that type is one and no marker stands behind the base
    (`Catalog.resolve_of_oneLine`). -/

namespace PointerBindings

open Text

namespace Catalog

/-- The namespace of the first type declared by the base, or the one that the base shows. -/
def namespaceOf (c : Catalog) (base : Text) : Text :=
  match c.find? base with
  | some t => t.namespaceName
  | none => namespaceOfBase base

/-- The first type declared by the name is a delegate. -/
def declaresDelegate (c : Catalog) (name : Text) : Bool :=
  (c.find? name).any fun t => t.isDelegate

theorem findDeclaration?_declared (c : Catalog) (fullName : Text) :
    findDeclaration? c.declared fullName = (c.find? fullName).map DeclaredType.toDeclaration := by
  rw [findDeclaration?, declared, List.find?_map]
  rfl

/-- **A name on one line is resolved.** -/
theorem resolve_of_oneLine (c : Catalog) {name : Text} (hline : '\n' ∉ name) :
    c.resolve name = some
      { fullName := name
        namespaceName := c.namespaceOf (divideLine name).1
        isDelegate := c.declaresDelegate (divideLine name).1 && (divideLine name).2.isEmpty } := by
  rw [resolve, resolveAmong, divideName?_of_oneLine hline]
  dsimp only
  rw [findDeclaration?_declared, namespaceOf, declaresDelegate]
  cases c.find? (divideLine name).1 with
  | none => rfl
  | some t => rfl

/-- A name without markers is looked up as it stands. -/
theorem declaresDelegate_and_isEmpty (c : Catalog) (name : Text) :
    (c.declaresDelegate (divideLine name).1 && (divideLine name).2.isEmpty) = true
      ↔ (divideLine name).2 = [] ∧ c.declaresDelegate name = true := by
  rw [Bool.and_eq_true, List.isEmpty_iff, and_comm]
  refine and_congr_right fun hmarkers => ?_
  rw [divideLine_of_markers_nil hmarkers]

end Catalog

end PointerBindings
