import Mathlib.Logic.Relation
import PointerBindings.Proofs.CType.Layers

/-! # Stars — where the walk ends and how many layers it crosses

    A type either goes on to one other type or is an end with a text of its own
    (`CType.goesOn_or_ends`), and of the types that go on only pointers and arrays leave a
    star.  So a type has a text exactly if its walk comes to an end, and the text is that of
    the end with one star for each layer behind it (`CType.unmanaged?_eq_some_iff`).  The walk
    comes to an end where no typedef leads to another name (`CType.walk_counts_layers`); a
    typedef that is its own canonical type goes on to itself for ever. -/

namespace PointerBindings

open Text

namespace CType

variable {word : WordSize} {t next last : CType} {stars layers : Nat} {leaf : Text}

/-! ## Parts -/

/-- The first type carries the second. -/
inductive HasPart : CType → CType → Prop where
  | pointee {kind spelling target element named canonical result arguments variadic} :
      HasPart (.mk kind spelling (some target) element named canonical result arguments variadic)
        target
  | element {kind spelling pointee item named canonical result arguments variadic} :
      HasPart (.mk kind spelling pointee (some item) named canonical result arguments variadic) item
  | named {kind spelling pointee element target canonical result arguments variadic} :
      HasPart (.mk kind spelling pointee element (some target) canonical result arguments variadic)
        target
  | canonical {kind spelling pointee element named target result arguments variadic} :
      HasPart (.mk kind spelling pointee element named (some target) result arguments variadic)
        target
  | result {kind spelling pointee element named canonical returned arguments variadic} :
      HasPart (.mk kind spelling pointee element named canonical (some returned) arguments variadic)
        returned
  | argument {kind spelling pointee element named canonical result arguments variadic argument}
      (hmem : argument ∈ arguments) :
      HasPart (.mk kind spelling pointee element named canonical result arguments variadic) argument

/-- Nothing is carried without end. -/
theorem HasPart.sizeOf_lt {u : CType} (h : HasPart t u) : sizeOf u < sizeOf t := by
  cases h with
  | argument hmem =>
      have hargument := List.sizeOf_lt_of_mem hmem
      simp only [mk.sizeOf_spec]
      omega
  | _ =>
      simp only [mk.sizeOf_spec, Option.some.sizeOf_spec]
      omega

/-- The second type is the first one or lies somewhere inside it. -/
def HasNode (t u : CType) : Prop :=
  Relation.ReflTransGen HasPart t u

/-- What is asked for below a pointer is part of it, or missing. -/
theorem pointee_part (t : CType) : HasPart t t.pointee ∨ t.pointee = absent := by
  obtain ⟨kind, spelling, pointee, element, named, canonical, result, arguments, variadic⟩ := t
  cases pointee with
  | none => exact .inr rfl
  | some target => exact .inl .pointee

theorem element_part (t : CType) : HasPart t t.element ∨ t.element = absent := by
  obtain ⟨kind, spelling, pointee, element, named, canonical, result, arguments, variadic⟩ := t
  cases element with
  | none => exact .inr rfl
  | some item => exact .inl .element

theorem named_part (t : CType) : HasPart t t.named ∨ t.named = absent := by
  obtain ⟨kind, spelling, pointee, element, named, canonical, result, arguments, variadic⟩ := t
  cases named with
  | none => exact .inr rfl
  | some target => exact .inl .named

/-- A type without a canonical type is its own. -/
theorem canonical_part (t : CType) : HasPart t t.canonical ∨ t.canonical = t := by
  obtain ⟨kind, spelling, pointee, element, named, canonical, result, arguments, variadic⟩ := t
  cases canonical with
  | none => exact .inr rfl
  | some target => exact .inl .canonical

/-! ## Steps and ends -/

/-- The text of the first type is made of that of the second with this many stars behind it. -/
inductive GoesOn (word : WordSize) : CType → Nat → CType → Prop where
  | pointer {t : CType} (hkind : t.kind = .pointer) (hfunction : t.pointee.isFunction = false)
      (hchar : t.pointee.kind.isPlainChar = false) : GoesOn word t 1 t.pointee
  | array {t : CType} {length : ArrayLength} (hkind : t.kind = .array length) :
      GoesOn word t 1 t.element
  | elaborated {t : CType} (hkind : t.kind = .elaborated) (hname : t.known? word = none)
      (hnamed : t.named.kind ≠ .invalid) : GoesOn word t 0 t.named
  | typeAlias {t : CType} (hkind : t.kind = .typeAlias) (hname : t.known? word = none)
      (hrecord : t.canonical.kind ≠ .record) (henum : t.canonical.kind ≠ .enum)
      (hfunction : t.canonical.kind.isFunction = false) : GoesOn word t 0 t.canonical

/-- The type is an end, and this is its text. -/
inductive EndsAs (word : WordSize) : CType → Text → Prop where
  | builtin {t : CType} {b : BuiltinKind} (hkind : t.kind = .builtin b) : EndsAs word t b.unmanaged
  | tagged {t : CType} (hkind : t.kind = .record ∨ t.kind = .enum) :
      EndsAs word t (stripTag (cleanSpelling t.spelling))
  | known {t : CType} {known : Text} (hkind : t.kind = .elaborated ∨ t.kind = .typeAlias)
      (hname : t.known? word = some known) : EndsAs word t known
  | keptName {t : CType} (hkind : t.kind = .typeAlias) (hname : t.known? word = none)
      (hkept : t.canonical.kind = .record ∨ t.canonical.kind = .enum) :
      EndsAs word t (cleanSpelling t.spelling)
  | unnamed {t : CType} (hkind : t.kind = .elaborated) (hname : t.known? word = none)
      (hnamed : t.named.kind = .invalid) : EndsAs word t (stripTag (cleanSpelling t.spelling))
  /-- What has no other rule, a function that is written as such among it. -/
  | spelled {t : CType} (hkind : t.kind.isSpelled = true) : EndsAs word t t.spelledText
  /-- A pointer to plain `char`. -/
  | string {t : CType} (hkind : t.kind = .pointer) (hfunction : t.pointee.isFunction = false)
      (hchar : t.pointee.kind.isPlainChar = true) : EndsAs word t "byte*".toList
  /-- A pointer to a function. -/
  | callback {t : CType} (hkind : t.kind = .pointer) (hfunction : t.pointee.isFunction = true) :
      EndsAs word t "void*".toList
  /-- A typedef for a function. -/
  | namedCallback {t : CType} (hkind : t.kind = .typeAlias) (hname : t.known? word = none)
      (hfunction : t.canonical.kind.isFunction = true) : EndsAs word t "void*".toList

/-- From the first type the walk comes to the second over this many layers. -/
inductive WalksTo (word : WordSize) : CType → Nat → CType → Prop where
  | here {t : CType} : WalksTo word t 0 t
  | step {t next last : CType} {stars layers : Nat} (hstep : GoesOn word t stars next)
      (rest : WalksTo word next layers last) : WalksTo word t (layers + stars) last

/-- Every type goes on or is an end. -/
theorem goesOn_or_ends (word : WordSize) (t : CType) :
    (∃ stars next, GoesOn word t stars next) ∨ ∃ leaf, EndsAs word t leaf := by
  cases hkind : t.kind with
  | builtin b => exact .inr ⟨_, .builtin hkind⟩
  | pointer =>
      cases hfunction : t.pointee.isFunction with
      | true => exact .inr ⟨_, .callback hkind hfunction⟩
      | false =>
          cases hchar : t.pointee.kind.isPlainChar with
          | true => exact .inr ⟨_, .string hkind hfunction hchar⟩
          | false => exact .inl ⟨_, _, .pointer hkind hfunction hchar⟩
  | array length => exact .inl ⟨_, _, .array hkind⟩
  | elaborated =>
      cases hname : t.known? word with
      | some known => exact .inr ⟨_, .known (.inl hkind) hname⟩
      | none =>
          by_cases hnamed : t.named.kind = .invalid
          · exact .inr ⟨_, .unnamed hkind hname hnamed⟩
          · exact .inl ⟨_, _, .elaborated hkind hname hnamed⟩
  | typeAlias =>
      cases hname : t.known? word with
      | some known => exact .inr ⟨_, .known (.inr hkind) hname⟩
      | none =>
          by_cases hkept : t.canonical.kind = .record ∨ t.canonical.kind = .enum
          · exact .inr ⟨_, .keptName hkind hname hkept⟩
          · obtain ⟨hrecord, henum⟩ := not_or.mp hkept
            cases hfunction : t.canonical.kind.isFunction with
            | true => exact .inr ⟨_, .namedCallback hkind hname hfunction⟩
            | false => exact .inl ⟨_, _, .typeAlias hkind hname hrecord henum hfunction⟩
  | record => exact .inr ⟨_, .tagged (.inl hkind)⟩
  | enum => exact .inr ⟨_, .tagged (.inr hkind)⟩
  | prototype | unprototyped | invalid | other =>
      exact .inr ⟨_, .spelled (by rw [hkind]; rfl)⟩

/-- The walk goes on to a part, to a missing type, or from a typedef to itself. -/
theorem GoesOn.part (h : GoesOn word t stars next) :
    HasPart t next ∨ next = absent
      ∨ t.kind = .typeAlias ∧ t.known? word = none ∧ t.canonical = t := by
  cases h with
  | pointer => exact (pointee_part t).imp_right .inl
  | array => exact (element_part t).imp_right .inl
  | elaborated => exact (named_part t).imp_right .inl
  | typeAlias hkind hname => exact (canonical_part t).imp_right fun hself => .inr ⟨hkind, hname, hself⟩

theorem not_goesOn_absent : ¬ GoesOn word absent stars next := by
  intro h
  generalize habsent : absent = t at h
  cases h with
  | pointer hkind => rw [← habsent] at hkind; cases hkind
  | array hkind => rw [← habsent] at hkind; cases hkind
  | elaborated hkind => rw [← habsent] at hkind; cases hkind
  | typeAlias hkind => rw [← habsent] at hkind; cases hkind

/-! ## Texts -/

/-- The text with this many stars behind it. -/
def withStars (text : Text) (stars : Nat) : Text :=
  text ++ List.replicate stars '*'

theorem withStars_zero (text : Text) : withStars text 0 = text :=
  List.append_nil text

theorem withStars_succ (text : Text) (stars : Nat) :
    withStars text (stars + 1) = withStars text stars ++ ['*'] := by
  rw [withStars, withStars, List.replicate_succ', List.append_assoc]

theorem withStars_withStars (text : Text) (stars more : Nat) :
    withStars (withStars text stars) more = withStars text (stars + more) := by
  rw [withStars, withStars, withStars, List.append_assoc, List.replicate_append_replicate]

theorem GoesOn.unmanaged?_eq (h : GoesOn word t stars next) :
    t.unmanaged? word = (next.unmanaged? word).map (withStars · stars) := by
  have hnone (text : Option Text) : text = text.map (withStars · 0) := by
    cases text with
    | none => rfl
    | some text => rw [Option.map_some, withStars_zero]
  cases h with
  | pointer hkind hfunction hchar =>
      rw [unmanaged?_of_pointer hkind, hfunction, hchar]
      rfl
  | array hkind =>
      rw [unmanaged?_of_array hkind]
      rfl
  | elaborated hkind hname hnamed =>
      rw [unmanaged?_of_elaborated hkind hname hnamed]
      exact hnone _
  | typeAlias hkind hname hrecord henum hfunction =>
      rw [unmanaged?_of_typeAlias hkind hname, if_neg (not_or.mpr ⟨hrecord, henum⟩), hfunction]
      exact hnone _

theorem EndsAs.unmanaged?_eq (h : EndsAs word t leaf) : t.unmanaged? word = some leaf := by
  cases h with
  | builtin hkind => exact unmanaged?_of_builtin hkind
  | tagged hkind => exact unmanaged?_of_tagged hkind
  | known hkind hname => exact unmanaged?_of_known hkind hname
  | keptName hkind hname hkept => rw [unmanaged?_of_typeAlias hkind hname, if_pos hkept]
  | unnamed hkind hname hnamed => exact unmanaged?_of_unnamed hkind hname hnamed
  | spelled hkind => exact unmanaged?_of_spelled hkind
  | string hkind hfunction hchar =>
      rw [unmanaged?_of_pointer hkind, hfunction, hchar]
      rfl
  | callback hkind hfunction =>
      rw [unmanaged?_of_pointer hkind, hfunction]
      rfl
  | namedCallback hkind hname hfunction =>
      have hkept : ¬ (t.canonical.kind = .record ∨ t.canonical.kind = .enum) := by
        rintro (hrecord | henum)
        · rw [hrecord] at hfunction; cases hfunction
        · rw [henum] at hfunction; cases hfunction
      rw [unmanaged?_of_typeAlias hkind hname, if_neg hkept, hfunction]
      rfl

/-- One star is left behind for each layer on the way. -/
theorem WalksTo.unmanaged?_eq (h : WalksTo word t layers last) (hend : EndsAs word last leaf) :
    t.unmanaged? word = some (withStars leaf layers) := by
  induction h with
  | here => rw [hend.unmanaged?_eq, withStars_zero]
  | step hstep rest ih =>
      rw [hstep.unmanaged?_eq, ih hend, Option.map_some, withStars_withStars]

/-- The walk from a type with a text comes to an end. -/
theorem exists_end_of_text {t : CType} {text : Text} (h : t.unmanaged? word = some text) :
    ∃ layers last leaf, WalksTo word t layers last ∧ EndsAs word last leaf := by
  rcases goesOn_or_ends word t with ⟨stars, next, hstep⟩ | ⟨leaf, hend⟩
  · rcases hstep.part with hpart | rfl | ⟨hkind, hname, hself⟩
    · rw [hstep.unmanaged?_eq] at h
      obtain ⟨below, hbelow, -⟩ := Option.map_eq_some_iff.mp h
      have hsmaller := hpart.sizeOf_lt
      obtain ⟨layers, last, leaf, hwalk, hend⟩ := exists_end_of_text hbelow
      exact ⟨_, last, leaf, .step hstep hwalk, hend⟩
    · exact ⟨_, absent, _, .step hstep .here, .spelled rfl⟩
    · rw [unmanaged?_of_endless hkind hname hself] at h
      cases h
  · exact ⟨0, t, leaf, .here, hend⟩
termination_by sizeOf t

/-- **What a text is made of.**  A type has a text exactly if its walk comes to an end, and the text
    is that of the end with one star for each layer behind it. -/
theorem unmanaged?_eq_some_iff {text : Text} :
    t.unmanaged? word = some text
      ↔ ∃ layers last leaf, WalksTo word t layers last ∧ EndsAs word last leaf
        ∧ text = withStars leaf layers := by
  constructor
  · intro h
    obtain ⟨layers, last, leaf, hwalk, hend⟩ := exists_end_of_text h
    rw [hwalk.unmanaged?_eq hend] at h
    exact ⟨layers, last, leaf, hwalk, hend, (Option.some.inj h).symm⟩
  · rintro ⟨layers, last, leaf, hwalk, hend, rfl⟩
    exact hwalk.unmanaged?_eq hend

/-! ## Walks that end -/

/-- The text of the second type is asked of the first. -/
def GoesOnTo (word : WordSize) (next t : CType) : Prop :=
  ∃ stars, GoesOn word t stars next

/-- No typedef in the type leads to another name: unless it is known, its canonical type is neither
    a typedef nor an elaborated type. -/
def AliasesResolve (word : WordSize) (t : CType) : Prop :=
  ∀ u, HasNode t u → u.kind = .typeAlias → u.known? word = none →
    u.canonical.kind ≠ .typeAlias ∧ u.canonical.kind ≠ .elaborated

theorem AliasesResolve.of_part {u : CType} (h : t.AliasesResolve word) (hpart : HasPart t u) :
    u.AliasesResolve word :=
  fun v hnode => h v (.head hpart hnode)

/-- Typedefs resolve in a type if they do in all of its parts and it is no typedef itself, or one
    that leads to no name. -/
theorem AliasesResolve.of_parts
    (h : t.kind = .typeAlias → t.known? word = none →
      t.canonical.kind ≠ .typeAlias ∧ t.canonical.kind ≠ .elaborated)
    (hparts : ∀ u, HasPart t u → u.AliasesResolve word) : t.AliasesResolve word := by
  intro u hnode
  rcases hnode.cases_head with rfl | ⟨part, hpart, hrest⟩
  · exact h
  · exact hparts part hpart u hrest

theorem AliasesResolve.pointerTo (spelling : Text) (h : t.AliasesResolve word) :
    (CType.pointerTo spelling t).AliasesResolve word := by
  refine .of_parts nofun fun u hpart => ?_
  cases hpart with
  | pointee => exact h
  | argument hmem => cases hmem

theorem AliasesResolve.arrayOf (length : ArrayLength) (spelling : Text)
    (h : t.AliasesResolve word) : (CType.arrayOf length spelling t).AliasesResolve word := by
  refine .of_parts nofun fun u hpart => ?_
  cases hpart with
  | element => exact h
  | argument hmem => cases hmem

/-- The walk from a type in which typedefs resolve comes to an end. -/
theorem AliasesResolve.acc {t : CType} (h : t.AliasesResolve word) : Acc (GoesOnTo word) t := by
  refine .intro t ?_
  rintro next ⟨stars, hstep⟩
  rcases hstep.part with hpart | rfl | ⟨hkind, hname, hself⟩
  · have hsmaller := hpart.sizeOf_lt
    exact (h.of_part hpart).acc
  · exact .intro absent fun _ ⟨_, hmissing⟩ => absurd hmissing not_goesOn_absent
  · have hresolves := (h t .refl hkind hname).1
    rw [hself] at hresolves
    exact absurd hkind hresolves
termination_by sizeOf t

theorem exists_end_of_acc (h : Acc (GoesOnTo word) t) :
    ∃ layers last leaf, WalksTo word t layers last ∧ EndsAs word last leaf := by
  induction h with
  | intro t _ ih =>
      rcases goesOn_or_ends word t with ⟨stars, next, hstep⟩ | ⟨leaf, hend⟩
      · obtain ⟨layers, last, leaf, hwalk, hend⟩ := ih next ⟨stars, hstep⟩
        exact ⟨_, last, leaf, .step hstep hwalk, hend⟩
      · exact ⟨0, t, leaf, .here, hend⟩

/-- What goes on to itself never comes to an end. -/
theorem GoesOn.not_acc (h : GoesOn word t stars t) : ¬ Acc (GoesOnTo word) t := by
  intro hacc
  induction hacc with
  | intro t _ ih => exact ih t ⟨stars, h⟩ h

/-- A typedef that is its own canonical type goes on to itself. -/
theorem goesOn_self (hkind : t.kind = .typeAlias) (hname : t.known? word = none)
    (hself : t.canonical = t) : GoesOn word t 0 t := by
  have hstep : GoesOn word t 0 t.canonical := by
    refine .typeAlias hkind hname ?_ ?_ ?_
    · rw [hself, hkind]; exact nofun
    · rw [hself, hkind]; exact nofun
    · rw [hself, hkind]; rfl
  rwa [hself] at hstep

/-- **Layers are counted.**  Where no typedef leads to another name the walk comes to an end, and
    over whatever layers an end is reached, the type has the text of that end with one star for
    each of them.  A typedef that is not known and is its own canonical type has no text, and the
    walk from it does not come to an end. -/
theorem walk_counts_layers (word : WordSize) (t : CType) :
    (t.AliasesResolve word → Acc (GoesOnTo word) t
        ∧ (∃ layers last leaf, WalksTo word t layers last ∧ EndsAs word last leaf)
        ∧ ∀ layers last leaf, WalksTo word t layers last → EndsAs word last leaf →
          t.unmanaged? word = some (leaf ++ List.replicate layers '*'))
      ∧ (t.kind = .typeAlias → t.known? word = none → t.canonical = t →
          ¬ Acc (GoesOnTo word) t ∧ t.unmanaged? word = none) := by
  constructor
  · intro hresolve
    have hacc := hresolve.acc
    exact ⟨hacc, exists_end_of_acc hacc, fun _ _ _ hwalk hend => hwalk.unmanaged?_eq hend⟩
  · intro hkind hname hself
    exact ⟨(goesOn_self hkind hname hself).not_acc, unmanaged?_of_endless hkind hname hself⟩

/-- A typedef of which nothing else is known. -/
def endlessAlias : CType :=
  .mk .typeAlias "loop_t".toList none none none none none [] false

/-- A table of names is two layers over a string; a typedef for itself leads nowhere. -/
theorem walk_counts_layers_names :
    (nameTable.AliasesResolve .nint ∧ Acc (GoesOnTo .nint) nameTable
        ∧ nameTable.unmanaged? .nint = some ("byte*".toList ++ List.replicate 2 '*'))
      ∧ (endlessAlias.kind = .typeAlias ∧ endlessAlias.known? .nint = none
        ∧ endlessAlias.canonical = endlessAlias ∧ endlessAlias.unmanaged? .nint = none) := by
  have hchar : signedPlainChar.AliasesResolve .nint := by
    refine .of_parts nofun fun u hpart => ?_
    cases hpart with
    | argument hmem => cases hmem
  have hname : nameAlias.AliasesResolve .nint := by
    refine .of_parts (fun _ _ => ⟨nofun, nofun⟩) fun u hpart => ?_
    cases hpart with
    | canonical => exact hchar.pointerTo _
    | argument hmem => cases hmem
  have hresolve : nameTable.AliasesResolve .nint := (hname.pointerTo _).arrayOf _ _
  have hseen : GoesOn .nint nameAlias 0 charPointer :=
    .typeAlias rfl rfl (by decide) (by decide) rfl
  have hwalk : WalksTo .nint nameTable 2 charPointer :=
    .step (.array rfl) (.step (.pointer rfl rfl rfl) (.step hseen .here))
  obtain ⟨hacc, -, htext⟩ := (walk_counts_layers .nint nameTable).1 hresolve
  refine ⟨⟨hresolve, hacc, htext 2 charPointer _ hwalk (.string rfl rfl rfl)⟩, rfl, rfl, rfl, ?_⟩
  exact ((walk_counts_layers .nint endlessAlias).2 rfl rfl rfl).2

end CType

end PointerBindings
