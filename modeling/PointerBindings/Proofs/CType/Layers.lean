import PointerBindings.Proofs.CType.Walk

/-! # Layers — pointers and arrays over a C type

    An array asks for the text of its items and nothing else.  A pointer looks at what it
    points to first: a function makes it a callback, and plain `char` makes it a string,
    which is spelled with bytes even where plain `char` is signed.  A string is seen only
    where `char` is written directly below a pointer.  Therefore an array and a pointer
    agree over all other types (`CType.array_agrees_with_pointer`), and a typedef agrees
    with its canonical type below all layers but those with a pointer at the bottom and
    signed plain `char` behind the typedef (`CType.alias_agrees_iff`). -/

namespace PointerBindings

open Text

namespace CType

variable {word : WordSize} {t : CType}

/-! ## One layer -/

theorem starred_injective : Function.Injective starred :=
  fun _ _ h => List.append_cancel_right h

/-- A pointer asks for the text below it as an array does, unless that is a function or signed
    plain `char`. -/
theorem unmanaged?_of_pointer_to_data (h : t.kind = .pointer)
    (hfunction : t.pointee.isFunction = false) (hchar : t.pointee.kind ≠ .builtin .charSigned) :
    t.unmanaged? word = (t.pointee.unmanaged? word).map starred := by
  rw [unmanaged?_of_pointer h, hfunction]
  cases hplain : t.pointee.kind.isPlainChar with
  | false => rfl
  | true =>
      -- unsigned plain `char` is spelled as a byte in any place
      have hunsigned : t.pointee.kind = .builtin .charUnsigned := by
        cases hkind : t.pointee.kind with
        | builtin b =>
            rw [hkind] at hplain hchar
            cases b with
            | charUnsigned => rfl
            | charSigned => exact absurd rfl hchar
            | _ => exact nomatch hplain
        | _ => rw [hkind] at hplain; exact nomatch hplain
      rw [unmanaged?_of_builtin hunsigned]
      rfl

/-- A pointer to signed plain `char` is a string. -/
theorem unmanaged?_of_pointer_to_char (h : t.kind = .pointer)
    (hfunction : t.pointee.isFunction = false) (hchar : t.pointee.kind = .builtin .charSigned) :
    t.unmanaged? word = some "byte*".toList := by
  rw [unmanaged?_of_pointer h, hfunction, hchar]
  rfl

/-- **Arrays and pointers.**  An array and a pointer over the same type, which is no function,
    have the same text, unless the type is signed plain `char`: the pointer is a string then,
    and the array is one of its numbers. -/
theorem array_agrees_with_pointer {a p : CType} {length : ArrayLength}
    (ha : a.kind = .array length) (hp : p.kind = .pointer) (hitem : a.element = p.pointee)
    (hfunction : p.pointee.isFunction = false) (word : WordSize) :
    (p.pointee.kind ≠ .builtin .charSigned → a.unmanaged? word = p.unmanaged? word)
      ∧ (p.pointee.kind = .builtin .charSigned →
          a.unmanaged? word = some "sbyte*".toList ∧ p.unmanaged? word = some "byte*".toList) := by
  have harray : a.unmanaged? word = (p.pointee.unmanaged? word).map starred := by
    rw [unmanaged?_of_array ha, hitem]
  constructor
  · intro hchar
    rw [harray, unmanaged?_of_pointer_to_data hp hfunction hchar]
  · intro hchar
    refine ⟨?_, unmanaged?_of_pointer_to_char hp hfunction hchar⟩
    rw [harray, unmanaged?_of_builtin hchar]
    rfl

/-- A pointer, written in the given way. -/
def pointerTo (spelling : Text) (target : CType) : CType :=
  .mk .pointer spelling (some target) none none none none [] false

/-- An array, written in the given way. -/
def arrayOf (length : ArrayLength) (spelling : Text) (item : CType) : CType :=
  .mk (.array length) spelling none (some item) none none none [] false

/-- The type `char` where it is signed. -/
def signedPlainChar : CType :=
  .mk (.builtin .charSigned) "char".toList none none none none none [] false

/-- The type `char *`. -/
def charPointer : CType :=
  pointerTo "char *".toList signedPlainChar

/-- The type `char *[]`. -/
def argumentArray : CType :=
  arrayOf .incomplete "char *[]".toList charPointer

/-- The type `char **`. -/
def argumentPointer : CType :=
  pointerTo "char **".toList charPointer

/-- The arguments of a program have the same text as an array and as a pointer. -/
theorem array_agrees_with_pointer_arguments :
    argumentArray.kind = .array .incomplete ∧ argumentPointer.kind = .pointer
      ∧ argumentArray.element = argumentPointer.pointee
      ∧ argumentPointer.pointee.isFunction = false
      ∧ argumentPointer.pointee.kind ≠ .builtin .charSigned
      ∧ argumentArray.unmanaged? .nint = argumentPointer.unmanaged? .nint := by
  have hchar : argumentPointer.pointee.kind ≠ .builtin .charSigned := nofun
  exact ⟨rfl, rfl, rfl, rfl, hchar, (array_agrees_with_pointer rfl rfl rfl rfl .nint).1 hchar⟩

/-- The type `char[16]`. -/
def charArray : CType :=
  arrayOf .constant "char[16]".toList signedPlainChar

/-- An array of characters has not the text of a pointer to one. -/
theorem char_array_parts_from_pointer :
    charArray.kind = .array .constant ∧ charPointer.kind = .pointer
      ∧ charArray.element = charPointer.pointee ∧ charPointer.pointee.isFunction = false
      ∧ charArray.unmanaged? .intPtr ≠ charPointer.unmanaged? .intPtr :=
  ⟨rfl, rfl, rfl, rfl, by decide⟩

/-! ## Layers over layers -/

/-- What may lie over a type. -/
inductive LayerKind where
  | pointer
  | array (length : ArrayLength)
deriving DecidableEq

/-- A layer, and whether the front end takes the type that ends with it for a function. -/
structure Layer where
  kind : LayerKind
  isFunction : Bool
deriving DecidableEq

/-- The type is the base below the layers, the outermost of which comes first. -/
inductive LayeredOver (base : CType) : List Layer → CType → Prop where
  | base : LayeredOver base [] base
  | pointer {layers : List Layer} {t : CType} (hkind : t.kind = .pointer)
      (inner : LayeredOver base layers t.pointee) :
      LayeredOver base (⟨.pointer, t.isFunction⟩ :: layers) t
  | array {layers : List Layer} {t : CType} {length : ArrayLength}
      (hkind : t.kind = .array length) (inner : LayeredOver base layers t.element) :
      LayeredOver base (⟨.array length, t.isFunction⟩ :: layers) t

/-- At the bottom lies a pointer whose text shows: no pointer above takes what it points to for a
    function. -/
def BottomPointerShows : List Layer → Prop
  | [] => False
  | [layer] => layer.kind = .pointer
  | layer :: below :: rest =>
      ¬ (layer.kind = .pointer ∧ below.isFunction = true) ∧ BottomPointerShows (below :: rest)

section

variable {base : CType} {layer below : Layer} {layers : List Layer}

/-- What a layered type says of itself is what its outermost layer says. -/
theorem LayeredOver.isFunction_eq (h : LayeredOver base (layer :: layers) t) :
    t.isFunction = layer.isFunction := by
  cases h with
  | pointer hkind inner => rfl
  | array hkind inner => rfl

theorem LayeredOver.kind_ne_builtin (h : LayeredOver base (layer :: layers) t)
    (b : BuiltinKind) : t.kind ≠ .builtin b := by
  cases h with
  | pointer hkind inner => rw [hkind]; exact nofun
  | array hkind inner => rw [hkind]; exact nofun

/-- A pointer that is its own canonical type is a layer. -/
theorem LayeredOver.pointerTo (spelling : Text) (h : LayeredOver base layers t) :
    LayeredOver base (⟨.pointer, false⟩ :: layers) (CType.pointerTo spelling t) :=
  .pointer (t := CType.pointerTo spelling t) rfl h

/-- An array that is its own canonical type is a layer. -/
theorem LayeredOver.arrayOf (length : ArrayLength) (spelling : Text)
    (h : LayeredOver base layers t) :
    LayeredOver base (⟨.array length, false⟩ :: layers) (CType.arrayOf length spelling t) :=
  .array (t := CType.arrayOf length spelling t) rfl h

/-- The only layer over a type lies directly over it. -/
theorem LayeredOver.of_singleton (h : LayeredOver base [layer] t) :
    layer.kind = .pointer ∧ t.kind = .pointer ∧ t.pointee = base
      ∨ ∃ length, layer.kind = .array length ∧ t.kind = .array length ∧ t.element = base := by
  have hbase {inner : CType} (h : LayeredOver base [] inner) : inner = base := by
    cases h
    rfl
  cases h with
  | pointer hkind inner => exact .inl ⟨rfl, hkind, hbase inner⟩
  | array hkind inner => exact .inr ⟨_, rfl, hkind, hbase inner⟩

/-- A layer over another layer puts a star behind the text, unless it is a pointer that takes
    what it points to for a function. -/
theorem LayeredOver.unmanaged?_over_layer (h : LayeredOver base (layer :: below :: layers) t)
    (word : WordSize) : ∃ inner, LayeredOver base (below :: layers) inner
      ∧ t.unmanaged? word
          = if layer.kind = .pointer ∧ below.isFunction = true then some opaquePointer
            else (inner.unmanaged? word).map starred := by
  cases h with
  | pointer hkind inner =>
      refine ⟨t.pointee, inner, ?_⟩
      cases hfunction : below.isFunction with
      | true =>
          rw [unmanaged?_of_pointer hkind, inner.isFunction_eq, hfunction, if_pos rfl,
            if_pos ⟨rfl, rfl⟩]
      | false =>
          rw [unmanaged?_of_pointer_to_data hkind (inner.isFunction_eq.trans hfunction)
            (inner.kind_ne_builtin .charSigned), if_neg (fun h => nomatch h.2)]
  | array hkind inner =>
      refine ⟨t.element, inner, ?_⟩
      rw [unmanaged?_of_array hkind, if_neg (fun h => nomatch h.1)]

end

/-! ## Typedefs below layers -/

/-- The type is a typedef that is seen through: its name is not known, and behind it lies neither
    a record nor an enumeration nor a function, but a type that is its own canonical one. -/
structure IsOrdinaryAlias (word : WordSize) (t : CType) : Prop where
  kind_eq : t.kind = .typeAlias
  known?_eq : t.known? word = none
  kind_ne_record : t.canonical.kind ≠ .record
  kind_ne_enum : t.canonical.kind ≠ .enum
  kind_isFunction : t.canonical.kind.isFunction = false
  canonical_canonical : t.canonical.canonical = t.canonical

theorem IsOrdinaryAlias.unmanaged?_eq (h : t.IsOrdinaryAlias word) :
    t.unmanaged? word = t.canonical.unmanaged? word := by
  rw [unmanaged?_of_typeAlias h.kind_eq h.known?_eq, h.kind_isFunction,
    if_neg (fun hkept => hkept.elim h.kind_ne_record h.kind_ne_enum)]
  rfl

theorem IsOrdinaryAlias.canonical_isFunction (h : t.IsOrdinaryAlias word) :
    t.canonical.isFunction = false := by
  rw [isFunction, h.canonical_canonical]
  exact h.kind_isFunction

/-- Below one layer, a typedef and its canonical type part only at a pointer to signed plain
    `char`. -/
theorem IsOrdinaryAlias.agrees_below_layer_iff (h : t.IsOrdinaryAlias word) {layer : Layer}
    {a b : CType} (ha : LayeredOver t [layer] a) (hb : LayeredOver t.canonical [layer] b) :
    a.unmanaged? word = b.unmanaged? word
      ↔ ¬ (t.canonical.kind = .builtin .charSigned ∧ layer.kind = .pointer) := by
  rcases ha.of_singleton with ⟨hlayer, ha, hat⟩ | ⟨length, hlayer, ha, hat⟩
  · rcases hb.of_singleton with ⟨-, hb, hbt⟩ | ⟨length, hother, -, -⟩
    · have halias : a.pointee.kind ≠ .builtin .charSigned := by
        rw [hat, h.kind_eq]
        exact nofun
      have hleft : a.unmanaged? word = (t.canonical.unmanaged? word).map starred := by
        have hfunction : a.pointee.isFunction = false := by rw [hat]; exact h.kind_isFunction
        rw [unmanaged?_of_pointer_to_data ha hfunction halias, hat, h.unmanaged?_eq]
      have hfunction : b.pointee.isFunction = false := by rw [hbt]; exact h.canonical_isFunction
      by_cases hchar : t.canonical.kind = .builtin .charSigned
      · -- the typedef hides from the pointer that it points to a string
        rw [hleft, unmanaged?_of_builtin hchar,
          unmanaged?_of_pointer_to_char hb hfunction (hbt ▸ hchar)]
        exact ⟨fun heq => absurd heq (by decide), fun hnot => absurd ⟨hchar, hlayer⟩ hnot⟩
      · rw [hleft, unmanaged?_of_pointer_to_data hb hfunction (hbt ▸ hchar), hbt]
        exact iff_of_true rfl (fun hboth => hchar hboth.1)
    · exact nomatch hlayer.symm.trans hother
  · rcases hb.of_singleton with ⟨hother, -, -⟩ | ⟨length, -, hb, hbt⟩
    · exact nomatch hlayer.symm.trans hother
    · rw [unmanaged?_of_array ha, unmanaged?_of_array hb, hat, hbt, h.unmanaged?_eq]
      exact iff_of_true rfl (fun hboth => nomatch hlayer.symm.trans hboth.2)

/-- **Typedefs are seen through.**  Below any pointers and arrays, a typedef that is seen through
    stands for its canonical type, unless that is signed plain `char` and the lowest layer is a
    pointer whose text shows: such a pointer sees a string in the canonical type only. -/
theorem alias_agrees_iff (h : t.IsOrdinaryAlias word) {layers : List Layer} {a b : CType}
    (ha : LayeredOver t layers a) (hb : LayeredOver t.canonical layers b) :
    a.unmanaged? word = b.unmanaged? word
      ↔ ¬ (t.canonical.kind = .builtin .charSigned ∧ BottomPointerShows layers) := by
  induction layers generalizing a b with
  | nil =>
      cases ha
      cases hb
      exact iff_of_true h.unmanaged?_eq (fun hboth => hboth.2)
  | cons layer rest ih =>
      cases rest with
      | nil => exact h.agrees_below_layer_iff ha hb
      | cons below rest =>
          obtain ⟨a', ha', hatext⟩ := ha.unmanaged?_over_layer word
          obtain ⟨b', hb', hbtext⟩ := hb.unmanaged?_over_layer word
          rw [hatext, hbtext, BottomPointerShows]
          by_cases hcut : layer.kind = .pointer ∧ below.isFunction = true
          · -- a callback on either side
            rw [if_pos hcut, if_pos hcut]
            exact iff_of_true rfl (fun hboth => hboth.2.1 hcut)
          · rw [if_neg hcut, if_neg hcut, (Option.map_injective starred_injective).eq_iff,
              ih ha' hb', and_iff_right hcut]

/-- The type `name_t` of `typedef char *name_t;`. -/
def nameAlias : CType :=
  .mk .typeAlias "name_t".toList none none none (some charPointer) none [] false

/-- The type `name_t *[4]`. -/
def nameTable : CType :=
  arrayOf .constant "name_t *[4]".toList (pointerTo "name_t *".toList nameAlias)

/-- The type `char **[4]`. -/
def charTable : CType :=
  arrayOf .constant "char **[4]".toList (pointerTo "char **".toList charPointer)

/-- An array of pointers. -/
def tableLayers : List Layer :=
  [⟨.array .constant, false⟩, ⟨.pointer, false⟩]

/-- A table of names has the same text with and without the typedef. -/
theorem alias_agrees_iff_names :
    nameAlias.IsOrdinaryAlias .nint ∧ LayeredOver nameAlias tableLayers nameTable
      ∧ LayeredOver nameAlias.canonical tableLayers charTable
      ∧ (nameTable.unmanaged? .nint = charTable.unmanaged? .nint
        ↔ ¬ (nameAlias.canonical.kind = .builtin .charSigned ∧ BottomPointerShows tableLayers)) := by
  have halias : nameAlias.IsOrdinaryAlias .nint := ⟨rfl, rfl, nofun, nofun, rfl, rfl⟩
  have hnames : LayeredOver nameAlias tableLayers nameTable :=
    (LayeredOver.base.pointerTo _).arrayOf _ _
  have hchars : LayeredOver nameAlias.canonical tableLayers charTable :=
    (LayeredOver.base.pointerTo _).arrayOf _ _
  exact ⟨halias, hnames, hchars, alias_agrees_iff halias hnames hchars⟩

/-- The type `letter_t` of `typedef char letter_t;`. -/
def letterAlias : CType :=
  .mk .typeAlias "letter_t".toList none none none (some signedPlainChar) none [] false

/-- The type `letter_t *`. -/
def letterPointer : CType :=
  pointerTo "letter_t *".toList letterAlias

/-- A pointer to a typedef for `char` is no string. -/
theorem char_alias_hides_string :
    letterAlias.IsOrdinaryAlias .intPtr
      ∧ LayeredOver letterAlias [⟨.pointer, false⟩] letterPointer
      ∧ LayeredOver letterAlias.canonical [⟨.pointer, false⟩] charPointer
      ∧ letterPointer.unmanaged? .intPtr ≠ charPointer.unmanaged? .intPtr :=
  ⟨⟨rfl, rfl, nofun, nofun, rfl, rfl⟩, .pointerTo _ .base, .pointerTo _ .base, by decide⟩

end CType

end PointerBindings
