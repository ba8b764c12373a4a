import PointerBindings.Proofs.ClassWriter.Lines

/-! # Blocks — one class in two layouts

    What a class says does not depend on the unit that it is indented by: two writers that
    differ in their units only write the same blocks, line beside line, each line as many units
    in as there are blocks around it.  This is one relation between two rows of lines
    (`SameBlocks`), and the class is shown to be in it part by part
    (`ClassWriter.classLines_sameBlocks`), for whatever is to be said of the contents of its
    lines.  What follows of indentation and nesting follows from the relation alone. -/

namespace PointerBindings

open Text

/-! ## Contents -/

/-- The text as it stands at a depth. -/
def indented (unit : Text) (depth : Nat) (content : Text) : Text :=
  (List.replicate depth unit).flatten ++ content

/-- Nothing but blanks stands in front of an indented text. -/
theorem trimStart_indented {unit : Text} (hunit : ∀ c ∈ unit, isBlank c = true) (depth : Nat)
    (content : Text) : trimStart (indented unit depth content) = trimStart content := by
  refine List.dropWhile_append_of_pos fun c hc => ?_
  obtain ⟨copy, hcopy, hmem⟩ := List.mem_flatten.mp hc
  exact hunit c (List.eq_of_mem_replicate hcopy ▸ hmem)

theorem IsFlush.trimStart_eq {t : Text} (h : IsFlush t) : trimStart t = t := by
  obtain ⟨c, rest, rfl⟩ := List.exists_cons_of_ne_nil h.ne_nil
  exact List.dropWhile_cons_of_neg (by rw [h.head c rfl]; exact Bool.false_ne_true)

/-- The text begins without a blank and is longer than a brace. -/
structure IsPlain (t : Text) : Prop extends IsFlush t where
  long : 2 ≤ t.length

instance (t : Text) : Decidable (IsPlain t) :=
  decidable_of_iff (IsFlush t ∧ 2 ≤ t.length) ⟨fun h => ⟨h.1, h.2⟩, fun h => ⟨h.1, h.2⟩⟩

theorem IsPlain.append {front : Text} (h : IsPlain front) (back : Text) :
    IsPlain (front ++ back) where
  toIsFlush := h.toIsFlush.append back
  long := by
    rw [List.length_append]
    exact Nat.le_add_right_of_le h.long

/-- Something behind a flush text makes it longer than a brace. -/
theorem IsFlush.isPlain_append {front : Text} (h : IsFlush front) (c : Char) (back : Text) :
    IsPlain (front ++ c :: back) where
  toIsFlush := h.append (c :: back)
  long := by
    have hfront := List.length_pos_iff.mpr h.ne_nil
    rw [List.length_append, List.length_cons]
    omega

/-- A text that is longer than a brace is none. -/
theorem IsPlain.ne_brace {t : Text} (h : IsPlain t) (c : Char) : t ≠ [c] := by
  intro heq
  have hlong := h.long
  rw [heq, List.length_singleton] at hlong
  omega

/-! ## Lines beside lines -/

/-- At a depth both rows of lines are the same blocks, as many as are counted and no more than so
    many levels deep, with lines of contents of one kind between and around them.  They differ in
    nothing but the unit that stands in front of a line once for each level. -/
inductive SameBlocks (P : Text → Prop) (unit other : Text) :
    Nat → Nat → Nat → List Text → List Text → Prop where
  | nil {depth levels : Nat} : SameBlocks P unit other depth levels 0 [] []
  | empty {depth levels : Nat} : SameBlocks P unit other depth levels 0 [[]] [[]]
  | line {depth levels : Nat} {content : Text} : P content →
      SameBlocks P unit other depth levels 0 [indented unit depth content]
        [indented other depth content]
  | block {depth levels blocks : Nat} {inner inner' : List Text} :
      SameBlocks P unit other (depth + 1) levels blocks inner inner' →
      SameBlocks P unit other depth (levels + 1) (blocks + 1)
        ([indented unit depth ['\x7b']] ++ (inner ++ [indented unit depth ['\x7d']]))
        ([indented other depth ['\x7b']] ++ (inner' ++ [indented other depth ['\x7d']]))
  | append {depth levels m n : Nat} {front front' back back' : List Text} :
      SameBlocks P unit other depth levels m front front' →
      SameBlocks P unit other depth levels n back back' →
      SameBlocks P unit other depth levels (m + n) (front ++ back) (front' ++ back')

namespace SameBlocks

variable {P : Text → Prop} {unit other : Text} {depth levels blocks : Nat}
  {lines lines' : List Text}

/-- A line of some content stands in front of other lines. -/
theorem cons_line {content : Text} (h : P content)
    (hlines : SameBlocks P unit other depth levels blocks lines lines') :
    SameBlocks P unit other depth levels blocks (indented unit depth content :: lines)
      (indented other depth content :: lines') := by
  have hline := append (.line h) hlines
  rwa [Nat.zero_add] at hline

/-- An empty line stands in front of other lines. -/
theorem cons_empty (hlines : SameBlocks P unit other depth levels blocks lines lines') :
    SameBlocks P unit other depth levels blocks ([] :: lines) ([] :: lines') := by
  have hline := append .empty hlines
  rwa [Nat.zero_add] at hline

/-- A block stands in front of other lines. -/
theorem cons_block {inside : Nat} {inner inner' : List Text}
    (h : SameBlocks P unit other (depth + 1) levels inside inner inner')
    (hlines : SameBlocks P unit other depth (levels + 1) blocks lines lines') :
    SameBlocks P unit other depth (levels + 1) (inside + 1 + blocks)
      (indented unit depth ['\x7b'] :: (inner ++ indented unit depth ['\x7d'] :: lines))
      (indented other depth ['\x7b'] :: (inner' ++ indented other depth ['\x7d'] :: lines')) := by
  have hblock := append (.block h) hlines
  rwa [List.append_assoc, List.append_assoc, List.append_assoc, List.append_assoc] at hblock

/-- Parts of the same blocks, one for each of some things. -/
theorem flatMap {α : Type} {write write' : α → List Text}
    (h : ∀ a, SameBlocks P unit other depth levels blocks (write a) (write' a)) (l : List α) :
    SameBlocks P unit other depth levels (l.length * blocks) (l.flatMap write)
      (l.flatMap write') := by
  induction l with
  | nil =>
      rw [List.length_nil, Nat.zero_mul]
      exact .nil
  | cons a l ih =>
      rw [List.length_cons, Nat.succ_mul, Nat.add_comm, List.flatMap_cons, List.flatMap_cons]
      exact .append (h a) ih

/-- Lines of the same contents, one for each of some things. -/
theorem map {α : Type} {write : α → Text} (h : ∀ a, P (write a)) (l : List α) :
    SameBlocks P unit other depth levels 0 (l.map fun a => indented unit depth (write a))
      (l.map fun a => indented other depth (write a)) := by
  rw [List.map_eq_flatMap, List.map_eq_flatMap]
  exact flatMap (fun a => cons_line (h a) .nil) l

end SameBlocks

/-! ## The class -/

namespace ClassWriter

/-- The writer with another unit. -/
def withUnit (w : ClassWriter) (unit : Text) : ClassWriter :=
  { w with unit }

/-- What stands between the braces of the class. -/
def members (w : ClassWriter) (functions : List Signature) : List Text :=
  w.fieldSection functions ++ ((if w.hasLoader then w.loaderSection functions else [])
    ++ w.wrapperSection functions)

/-- The class stands in the namespace, with its members inside. -/
theorem classLines_eq (w : ClassWriter) (functions : List Signature) :
    w.classLines functions
      = w.usings ++ [] :: w.namespaceLine :: w.opening 0
        :: (w.classLine :: w.opening 1 :: (w.members functions ++ [w.closing 1])
          ++ [w.closing 0]) := by
  rw [classLines, preamble_eq, epilogue, members]
  simp only [List.append_assoc, List.cons_append, List.nil_append]

section Sections

-- the lines of a class begin with words of its own, or else with what it calls itself by
variable {w : ClassWriter} {P : Text → Prop} (unit : Text) (hplain : ∀ t, IsPlain t → P t)
  (hqualifier : ∀ back, P (w.qualifier ++ '.' :: back))
include hplain hqualifier

/-- A wrapper is a block under its head, with an empty line behind it. -/
theorem wrapper_sameBlocks (f : Signature) :
    SameBlocks P w.unit unit 2 1 1 (w.wrapper f) ((w.withUnit unit).wrapper f) := by
  have hmark : P inliningMark := hplain _ (by decide)
  have hhead : P ("public ".toList ++ w.header f) := hplain _ (IsPlain.append (by decide) _)
  have hbody : P ((if f.returnType = Signature.voidType then [] else "return ".toList)
      ++ w.call f) := by
    split
    · rw [call, List.append_assoc, List.append_assoc]
      exact hqualifier _
    · exact hplain _ (IsPlain.append (by decide) _)
  have hmethod : SameBlocks P w.unit unit 2 1 1 _ _ :=
    .cons_line hhead (.cons_block (.cons_line hbody .nil) (.cons_empty .nil))
  have hsettings : (w.withUnit unit).settings = w.settings := rfl
  rw [wrapper, wrapper, hsettings]
  split
  · exact .cons_line hmark hmethod
  · exact hmethod

omit hplain hqualifier in
/-- The loader begins with a line and the opening of its block. -/
theorem exists_loaderHead (w : ClassWriter) (unit : Text) :
    ∃ head, IsPlain head ∧ w.loaderHeader = [w.line 2 head, w.opening 2]
      ∧ (w.withUnit unit).loaderHeader
        = [(w.withUnit unit).line 2 head, (w.withUnit unit).opening 2] := by
  refine ⟨_, ?_, rfl, rfl⟩
  split
  · rw [List.append_assoc]
    exact IsPlain.append (by decide) _
  · split
    · rw [List.append_assoc]
      exact IsPlain.append (by decide) _
    · rw [List.append_assoc]
      exact IsPlain.append (by decide) _

/-- The loader and the method that it asks are a block each. -/
theorem loaderSection_sameBlocks (functions : List Signature) :
    SameBlocks P w.unit unit 2 1 2 (w.loaderSection functions)
      ((w.withUnit unit).loaderSection functions) := by
  have hassignments : SameBlocks P w.unit unit 3 0 0 (functions.map w.loaderAssignment)
      (functions.map (w.withUnit unit).loaderAssignment) := by
    refine .map (fun f => ?_) functions
    simp only [List.append_assoc]
    exact hqualifier _
  have hfinder : SameBlocks P w.unit unit 2 1 1 (w.finder ++ [[]])
      ((w.withUnit unit).finder ++ [[]]) := by
    refine .cons_line (hplain _ ?_) (.cons_block (.cons_line (hplain _ (by decide))
      (.cons_line (hplain _ (by decide)) .nil)) (.cons_empty .nil))
    simp only [List.append_assoc]
    exact IsPlain.append (by decide) _
  obtain ⟨head, hhead, hheader, hheader'⟩ := w.exists_loaderHead unit
  rw [loaderSection_eq, loaderSection_eq, hheader, hheader']
  simp only [List.cons_append, List.append_assoc, List.nil_append]
  exact .cons_empty (.cons_line (hplain _ hhead) (.cons_block hassignments (.cons_empty hfinder)))

/-- The members of the class are blocks side by side: the loader and its finder if there is a
    loader at all, and one wrapper for each function. -/
theorem members_sameBlocks (functions : List Signature) :
    SameBlocks P w.unit unit 2 1 ((if w.hasLoader then 2 else 0) + functions.length)
      (w.members functions) ((w.withUnit unit).members functions) := by
  have hfields : SameBlocks P w.unit unit 2 1 0 (w.fieldSection functions)
      ((w.withUnit unit).fieldSection functions) := by
    refine .map (fun f => hplain _ ?_) functions
    simp only [List.append_assoc]
    exact IsPlain.append (by decide) _
  have hloader : SameBlocks P w.unit unit 2 1 (if w.hasLoader then 2 else 0)
      (if w.hasLoader then w.loaderSection functions else [])
      (if w.hasLoader then (w.withUnit unit).loaderSection functions else []) := by
    split
    · exact loaderSection_sameBlocks unit hplain hqualifier functions
    · exact .nil
  have hwrappers : SameBlocks P w.unit unit 2 1 functions.length (w.wrapperSection functions)
      ((w.withUnit unit).wrapperSection functions) := by
    have heach := SameBlocks.flatMap (wrapper_sameBlocks unit hplain hqualifier) functions
    rw [Nat.mul_one] at heach
    exact .cons_empty heach
  have hmembers := SameBlocks.append hfields (.append hloader hwrappers)
  rwa [Nat.zero_add] at hmembers

/-- **The class is the same blocks in every layout**: its members in the class and the class in
    the namespace, three levels in all. -/
theorem classLines_sameBlocks (functions : List Signature) :
    SameBlocks P w.unit unit 0 3 ((if w.hasLoader then 2 else 0) + functions.length + 2)
      (w.classLines functions) ((w.withUnit unit).classLines functions) := by
  have hname : P w.namespaceLine := hplain _ (IsPlain.append (by decide) _)
  have hclass : P (w.staticWord ++ "unsafe class ".toList ++ writtenName w.settings.className) := by
    rw [staticWord, List.append_assoc]
    split
    · exact hplain _ (IsPlain.append (by decide) _)
    · rw [List.nil_append]
      exact hplain _ (IsPlain.append (by decide) _)
  have husing : P "using System;".toList ∧ P inliningUsing :=
    ⟨hplain _ (by decide), hplain _ (by decide)⟩
  have husings : SameBlocks P w.unit unit 0 3 0 w.usings w.usings := by
    rw [usings]
    split
    · exact .cons_line husing.1 (.cons_line husing.2 .nil)
    · exact .cons_line husing.1 .nil
  have hmembers := members_sameBlocks unit hplain hqualifier functions
  have hwhole := SameBlocks.append husings (.cons_empty (.cons_line hname
    (.cons_block (.cons_line hclass (.cons_block hmembers .nil)) .nil)))
  rw [Nat.zero_add] at hwhole
  rw [classLines_eq, classLines_eq]
  exact hwhole

end Sections

end ClassWriter

end PointerBindings
