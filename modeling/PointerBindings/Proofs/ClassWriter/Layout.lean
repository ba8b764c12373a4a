import Mathlib.Data.List.Forall2
import PointerBindings.Proofs.ClassWriter.Nesting

/-! # Layout — what layout options leave as it is

    The layout of a class can be read off its lines: each line stands as many units in as
    braces are open before it, and two kinds of lines only mark wrappers for inlining.  What
    the lines say is what is left without either (`saidBy`).  A class is the same blocks with
    every unit, and its depths are those of the blocks (`SameBlocks.exists_rows`), so that its
    lines say what the same class says without any layout
    (`ClassWriter.saidBy_classLines`), and two settings that choose different layouts of one
    class say the same (`Generator.layout_changes_layout_only`). -/

namespace PointerBindings

open Text

/-! ## Reading the layout off -/

/-- The depths of all lines, as their braces count them. -/
def depths (lines : List Text) : List Int :=
  (List.range lines.length).map (depthAt lines)

/-- The line without so many units in front of it, where they stand there. -/
def unindented (unit : Text) (depth : Nat) (line : Text) : Text :=
  (after? (List.replicate depth unit).flatten line).getD line

/-- What the lines hold without their indentation. -/
def contentsOf (unit : Text) (lines : List Text) : List Text :=
  List.zipWith (fun depth line => unindented unit depth.toNat line) (depths lines) lines

/-- The line is there for the inlining of wrappers only. -/
def isInliningLine (line : Text) : Bool :=
  line = ClassWriter.inliningUsing || line = ClassWriter.inliningMark

/-- What the lines say in any layout. -/
def saidBy (unit : Text) (lines : List Text) : List Text :=
  (contentsOf unit lines).filter fun line => !isInliningLine line

/-- The lines that stand directly behind one that reads as given. -/
def linesBehind (line : Text) : List Text → List Text
  | [] => []
  | first :: rest => (if first = line then rest.take 1 else []) ++ linesBehind line rest

/-! ## Depths -/

theorem depths_append (front back : List Text) :
    depths (front ++ back) = depths front ++ (depths back).map (opened front + ·) := by
  rw [depths, List.length_append, List.range_add, List.map_append, List.map_map, depths, depths,
    List.map_map]
  congr 1
  · exact List.map_congr_left fun place hplace => depthAt_append_left back (List.mem_range.mp hplace)
  · exact List.map_congr_left fun place _ => depthAt_append_right front back place

theorem opened_append (front back : List Text) :
    opened (front ++ back) = opened front + opened back := by
  rw [opened, opened, opened, List.countP_append, List.countP_append]
  omega

/-- Behind lines that close all that they open nothing has changed. -/
theorem depths_append_of_closed {front : List Text} (h : opened front = 0) (back : List Text) :
    depths (front ++ back) = depths front ++ depths back := by
  have hsame : (opened front + ·) = id := by
    funext depth
    rw [h, Int.zero_add]
    rfl
  rw [depths_append, hsame, List.map_id]

/-- A line by itself is as deep as what is around it, or less so if it closes a block. -/
theorem depths_singleton (line : Text) :
    depths [line] = [if closesBlock line then -1 else 0] := by
  rw [depths, List.length_singleton, List.range_one, List.map_singleton, depthAt, List.take_zero,
    List.take_succ_cons, List.take_zero, List.countP_nil, List.countP_singleton]
  split
  · rfl
  · rfl

theorem opened_singleton (line : Text) :
    opened [line]
      = (if opensBlock line then 1 else 0) - (if closesBlock line then 1 else 0) := by
  rw [opened, List.countP_singleton, List.countP_singleton]
  split
  · split
    · rfl
    · rfl
  · split
    · rfl
    · rfl

/-- The braces of a block are as deep as what is around them, what they hold is one deeper, and
    behind them nothing has changed. -/
theorem depths_block {unit : Text} (hunit : ∀ c ∈ unit, isBlank c = true) (depth : Nat)
    {inner : List Text} (h : opened inner = 0) :
    depths ([indented unit depth ['\x7b']] ++ (inner ++ [indented unit depth ['\x7d']]))
        = [0] ++ ((depths inner).map (1 + ·) ++ [0])
      ∧ opened ([indented unit depth ['\x7b']] ++ (inner ++ [indented unit depth ['\x7d']])) = 0 := by
  have hopening := trimStart_indented hunit depth ['\x7b']
  have hclosing := trimStart_indented hunit depth ['\x7d']
  have hfront : depths [indented unit depth ['\x7b']] = [0]
      ∧ opened [indented unit depth ['\x7b']] = 1 := by
    rw [depths_singleton, opened_singleton, opensBlock, closesBlock, hopening]
    decide
  have hback : depths [indented unit depth ['\x7d']] = [-1]
      ∧ opened [indented unit depth ['\x7d']] = -1 := by
    rw [depths_singleton, opened_singleton, opensBlock, closesBlock, hclosing]
    decide
  constructor
  · rw [depths_append, depths_append_of_closed h, hfront.1, hfront.2, hback.1, List.map_append,
      List.map_singleton]
    rfl
  · rw [opened_append, opened_append, hfront.2, h, hback.2]
    rfl

/-- Something is left of the text behind the blanks that it begins with, and that is no brace. -/
structure IsContent (t : Text) : Prop where
  ne_nil : t ≠ []
  ne_opening : trimStart t ≠ ['\x7b']
  ne_closing : trimStart t ≠ ['\x7d']

theorem IsPlain.isContent {t : Text} (h : IsPlain t) : IsContent t where
  ne_nil := h.ne_nil
  ne_opening := by
    rw [h.trimStart_eq]
    exact h.ne_brace _
  ne_closing := by
    rw [h.trimStart_eq]
    exact h.ne_brace _

/-- A text with a point in it is no brace, whatever it begins with. -/
theorem isContent_of_point (front back : Text) : IsContent (front ++ '.' :: back) := by
  have hpoint : '.' ∈ trimStart (front ++ '.' :: back) := by
    have hmem : '.' ∈ front ++ '.' :: back := List.mem_append_right _ List.mem_cons_self
    rw [← List.takeWhile_append_dropWhile (p := isBlank) (l := front ++ '.' :: back)] at hmem
    rcases List.mem_append.mp hmem with hblank | hrest
    · exact absurd (List.mem_takeWhile_imp hblank) (by decide)
    · exact hrest
  refine ⟨by simp, fun heq => ?_, fun heq => ?_⟩
  · exact absurd (heq ▸ hpoint) (by decide)
  · exact absurd (heq ▸ hpoint) (by decide)

/-! ## Rows -/

theorem indented_nil (depth : Nat) (content : Text) : indented [] depth content = content := by
  rw [indented, List.flatten_replicate_nil, List.nil_append]

/-- A row as it is laid out: so many units in, unless there is nothing to stand there. -/
def laidOut (unit : Text) (row : Nat × Text) : Text :=
  if row.2 = [] then [] else indented unit row.1 row.2

theorem laidOut_of_ne_nil (unit : Text) (depth : Nat) {content : Text} (h : content ≠ []) :
    laidOut unit (depth, content) = indented unit depth content :=
  if_neg h

/-- Without a unit nothing stands in front. -/
theorem laidOut_nil (row : Nat × Text) : laidOut [] row = row.2 := by
  rw [laidOut, indented_nil]
  split
  · rename_i hempty
    exact hempty.symm
  · rfl

/-- What was laid out is found again. -/
theorem unindented_laidOut (unit : Text) (row : Nat × Text) :
    unindented unit row.1 (laidOut unit row) = row.2 := by
  rw [laidOut, unindented]
  split
  · rename_i hempty
    cases hafter : after? (List.replicate row.1 unit).flatten [] with
    | none => exact hempty.symm
    | some rest =>
        have hrest := (List.append_eq_nil_iff.mp (after?_eq_some_iff.mp hafter).symm).2
        rw [Option.getD_some, hrest, hempty]
  · rw [indented, after?_eq_some_iff.mpr rfl, Option.getD_some]

namespace SameBlocks

variable {unit other : Text} {depth levels blocks : Nat} {lines lines' : List Text}

/-- **The same rows are laid out** in both layouts, and the depth of a row is the one that the
    braces count. -/
theorem exists_rows (hunit : ∀ c ∈ unit, isBlank c = true)
    (h : SameBlocks IsContent unit other depth levels blocks lines lines') :
    ∃ rows : List (Nat × Text), (∀ row ∈ rows, row.1 ≤ depth + levels)
      ∧ lines = rows.map (laidOut unit) ∧ lines' = rows.map (laidOut other)
      ∧ depths lines = rows.map (fun row => (row.1 : Int) - depth) ∧ opened lines = 0 := by
  induction h with
  | nil => exact ⟨[], nofun, rfl, rfl, rfl, rfl⟩
  | @empty depth levels =>
      refine ⟨[(depth, [])], by simp, rfl, rfl, ?_, rfl⟩
      rw [depths_singleton, List.map_singleton, Int.sub_self]
      rfl
  | @line depth levels content hcontent =>
      have htrim := trimStart_indented hunit depth content
      have hopens : opensBlock (indented unit depth content) = false := by
        rw [opensBlock, htrim, decide_eq_false hcontent.ne_opening]
      have hcloses : closesBlock (indented unit depth content) = false := by
        rw [closesBlock, htrim, decide_eq_false hcontent.ne_closing]
      refine ⟨[(depth, content)], by simp, ?_, ?_, ?_, ?_⟩
      · rw [List.map_singleton, laidOut_of_ne_nil _ _ hcontent.ne_nil]
      · rw [List.map_singleton, laidOut_of_ne_nil _ _ hcontent.ne_nil]
      · rw [depths_singleton, hcloses, List.map_singleton, Int.sub_self]
        rfl
      · rw [opened_singleton, hopens, hcloses]
        rfl
  | @block depth levels blocks inner inner' _ ih =>
      obtain ⟨rows, hlevels, rfl, rfl, hdepths, hopened⟩ := ih
      obtain ⟨hblock, hclosed⟩ := depths_block hunit depth hopened
      have hinside : (1 + ·) ∘ (fun row : Nat × Text => (row.1 : Int) - ↑(depth + 1))
          = fun row => (row.1 : Int) - depth := by
        funext row
        simp only [Function.comp_apply]
        omega
      refine ⟨[(depth, ['\x7b'])] ++ (rows ++ [(depth, ['\x7d'])]), ?_, ?_, ?_, ?_, hclosed⟩
      · have hbrace (brace : Text) : ∀ row ∈ [(depth, brace)], row.1 ≤ depth + (levels + 1) := by
          simp
        refine List.forall_mem_append.mpr ⟨hbrace _, List.forall_mem_append.mpr ⟨?_, hbrace _⟩⟩
        exact fun row hrow => (hlevels row hrow).trans (by omega)
      · rw [List.map_append, List.map_append]
        rfl
      · rw [List.map_append, List.map_append]
        rfl
      · rw [hblock, hdepths, List.map_map, hinside, List.map_append, List.map_append,
          List.map_singleton, List.map_singleton, Int.sub_self]
  | append _ _ ihFront ihBack =>
      obtain ⟨front, hfront, rfl, rfl, hdepths, hopened⟩ := ihFront
      obtain ⟨back, hback, rfl, rfl, hdepths', hopened'⟩ := ihBack
      refine ⟨front ++ back, ?_, List.map_append.symm, List.map_append.symm, ?_, ?_⟩
      · exact List.forall_mem_append.mpr ⟨hfront, hback⟩
      · rw [depths_append_of_closed hopened, hdepths, hdepths', List.map_append]
      · rw [opened_append, hopened, hopened', Int.add_zero]

/-- What is left of the lines without their indentation are the lines of the layout that has
    none. -/
theorem contentsOf_eq (hunit : ∀ c ∈ unit, isBlank c = true)
    (h : SameBlocks IsContent unit [] 0 levels blocks lines lines') :
    contentsOf unit lines = lines' := by
  obtain ⟨rows, -, rfl, rfl, hdepths, -⟩ := exists_rows hunit h
  rw [contentsOf, hdepths, List.zipWith_map, List.zipWith_self]
  refine List.map_congr_left fun row _ => ?_
  rw [laidOut_nil]
  exact unindented_laidOut unit row

/-- Every line is empty or stands as many units in as are counted of it, and these are no more
    than there are levels. -/
theorem forall₂_depths (hunit : ∀ c ∈ unit, isBlank c = true)
    (h : SameBlocks IsContent unit other 0 levels blocks lines lines') :
    List.Forall₂ (fun (depth : Int) line => ∃ units : Nat, depth = units ∧ units ≤ levels
      ∧ (line = [] ∨ ∃ content, line = indented unit units content)) (depths lines) lines := by
  obtain ⟨rows, hlevels, rfl, -, hdepths, -⟩ := exists_rows hunit h
  rw [hdepths, List.forall₂_map_left_iff, List.forall₂_map_right_iff, List.forall₂_same]
  intro row hrow
  refine ⟨row.1, Int.sub_zero _, (hlevels row hrow).trans (Nat.zero_add levels).le, ?_⟩
  rw [laidOut]
  split
  · exact Or.inl rfl
  · exact Or.inr ⟨row.2, rfl⟩

end SameBlocks

/-! ## Lines for inlining -/

/-- No line is there for inlining. -/
def Unmarked (lines : List Text) : Prop :=
  ∀ line ∈ lines, isInliningLine line = false

theorem Unmarked.nil : Unmarked [] :=
  List.forall_mem_nil _

theorem Unmarked.append {front back : List Text} (hfront : Unmarked front)
    (hback : Unmarked back) : Unmarked (front ++ back) :=
  List.forall_mem_append.mpr ⟨hfront, hback⟩

theorem Unmarked.cons {line : Text} {lines : List Text} (hline : isInliningLine line = false)
    (hlines : Unmarked lines) : Unmarked (line :: lines) :=
  List.forall_mem_cons.mpr ⟨hline, hlines⟩

theorem Unmarked.map {α : Type} {write : α → Text} (h : ∀ a, isInliningLine (write a) = false)
    (l : List α) : Unmarked (l.map write) :=
  List.forall_mem_map.mpr fun a _ => h a

theorem Unmarked.filter_eq {lines : List Text} (h : Unmarked lines) :
    lines.filter isInliningLine = [] ∧ lines.filter (fun line => !isInliningLine line) = lines := by
  constructor
  · refine List.filter_eq_nil_iff.mpr fun line hline => ?_
    rw [h line hline]
    exact Bool.false_ne_true
  · refine List.filter_eq_self.mpr fun line hline => ?_
    rw [h line hline]
    rfl

theorem Unmarked.mark_notMem {lines : List Text} (h : Unmarked lines) :
    ClassWriter.inliningMark ∉ lines :=
  fun hmem => absurd (h _ hmem) (by decide)

/-- Nothing stands behind a line among others that it is not one of. -/
theorem linesBehind_append {line : Text} {front : List Text} (h : line ∉ front)
    (back : List Text) : linesBehind line (front ++ back) = linesBehind line back := by
  induction front with
  | nil => rfl
  | cons first front ih =>
      have hfirst : line ≠ first := List.ne_of_not_mem_cons h
      rw [List.cons_append, linesBehind, if_neg hfirst.symm, List.nil_append,
        ih (List.not_mem_of_not_mem_cons h)]

/-- A line is none of them if it begins otherwise. -/
theorem isInliningLine_of_take {line : Text} (start : Text) (hstart : line.take 2 = start)
    (h : start ≠ ['u', 's'] ∧ start ≠ ['[', 'M']) : isInliningLine line = false := by
  rw [isInliningLine, Bool.or_eq_false_iff, decide_eq_false_iff_not, decide_eq_false_iff_not]
  constructor
  · rintro rfl
    exact h.1 hstart.symm
  · rintro rfl
    exact h.2 hstart.symm

/-- A line is none of them if it ends as a call does. -/
theorem isInliningLine_of_call {line : Text} (h : line.reverse.take 2 = [';', ')']) :
    isInliningLine line = false := by
  rw [isInliningLine, Bool.or_eq_false_iff, decide_eq_false_iff_not, decide_eq_false_iff_not]
  constructor
  · rintro rfl
    exact absurd h (by decide)
  · rintro rfl
    exact absurd h (by decide)

/-- The settings with the layout taken out. -/
def Settings.withoutLayout (s : Settings) : Settings :=
  { s with inlined := false, lineEnd := none, indentation := .whole 0 }

namespace ClassWriter

/-- The writer without any layout. -/
def plain (w : ClassWriter) : ClassWriter :=
  { settings := w.settings.withoutLayout, unit := [], qualifier := w.qualifier }

/-- The lines of a class from its namespace to the empty one in front of its wrappers. -/
def beforeWrappers (w : ClassWriter) (functions : List Signature) : List Text :=
  [] :: w.namespaceLine :: w.opening 0 :: w.classLine :: w.opening 1
    :: (w.fieldSection functions ++ (if w.hasLoader then w.loaderSection functions else [])
      ++ [[]])

theorem classLines_parts (w : ClassWriter) (functions : List Signature) :
    w.classLines functions
      = w.usings ++ (w.beforeWrappers functions
        ++ (functions.flatMap w.wrapper ++ w.epilogue)) := by
  rw [classLines, preamble_eq, wrapperSection, beforeWrappers]
  simp only [List.append_assoc, List.cons_append, List.nil_append]

section Plain

variable (w : ClassWriter)

theorem plain_line (depth : Nat) (content : Text) : w.plain.line depth content = content :=
  indented_nil depth content

/-- The loader assigns by calls, and all else of it begins with words of its own. -/
theorem unmarked_loaderSection (functions : List Signature) :
    Unmarked (w.plain.loaderSection functions) := by
  have hheader : Unmarked w.plain.loaderHeader := by
    refine .cons ?_ (.cons rfl .nil)
    rw [plain_line]
    split
    · exact isInliningLine_of_take ['p', 'u'] rfl (by decide)
    · split
      · exact isInliningLine_of_take ['s', 't'] rfl (by decide)
      · exact isInliningLine_of_take ['p', 'u'] rfl (by decide)
  have hassignments : Unmarked (functions.map w.plain.loaderAssignment) := by
    refine .map (fun f => isInliningLine_of_call ?_) functions
    rw [loaderAssignment, plain_line, List.reverse_append]
    rfl
  have hfinder : Unmarked w.plain.finder :=
    .cons (isInliningLine_of_take ['p', 'r'] rfl (by decide)) (.cons rfl (.cons rfl (.cons rfl
      (.cons rfl .nil))))
  rw [loaderSection_eq]
  exact .append (.cons rfl ((hheader.append hassignments).append (.cons rfl .nil)))
    (.cons rfl (hfinder.append (.cons rfl .nil)))

theorem unmarked_beforeWrappers (functions : List Signature) :
    Unmarked (w.plain.beforeWrappers functions) := by
  have hclass : isInliningLine w.plain.classLine = false := by
    rw [classLine, plain_line, staticWord]
    split
    · exact isInliningLine_of_take ['s', 't'] rfl (by decide)
    · exact isInliningLine_of_take ['u', 'n'] rfl (by decide)
  have hfields : Unmarked (w.plain.fieldSection functions) :=
    .map (fun _ => isInliningLine_of_take ['p', 'r'] rfl (by decide)) functions
  have hloader : Unmarked (if w.plain.hasLoader then w.plain.loaderSection functions else []) := by
    split
    · exact w.unmarked_loaderSection functions
    · exact .nil
  exact .cons rfl (.cons (isInliningLine_of_take ['n', 'a'] rfl (by decide)) (.cons rfl
    (.cons hclass (.cons rfl ((hfields.append hloader).append (.cons rfl .nil))))))

/-- A wrapper without its mark is a method, whose body is a call. -/
theorem unmarked_wrapper (f : Signature) : Unmarked (w.plain.wrapper f) := by
  have hhead : isInliningLine (w.plain.line 2 ("public ".toList ++ w.plain.header f)) = false :=
    isInliningLine_of_take ['p', 'u'] rfl (by decide)
  have hbody : isInliningLine (w.plain.line 3
      ((if f.returnType = Signature.voidType then [] else "return ".toList) ++ w.plain.call f))
        = false := by
    refine isInliningLine_of_call ?_
    rw [plain_line, call, ← List.append_assoc, List.reverse_append]
    rfl
  exact .cons hhead (.cons rfl (.cons hbody (.cons rfl (.cons rfl .nil))))

theorem unmarked_epilogue : Unmarked w.plain.epilogue :=
  .cons rfl (.cons rfl .nil)

theorem classLines_withUnit_nil (functions : List Signature) :
    (w.withUnit []).classLines functions
      = w.plain.usings ++ (if w.settings.inlined then [inliningUsing] else [])
        ++ (w.plain.beforeWrappers functions
          ++ (functions.flatMap (fun f => (if w.settings.inlined then [inliningMark] else [])
              ++ w.plain.wrapper f)
            ++ w.plain.epilogue)) :=
  (w.withUnit []).classLines_parts functions

theorem unmarked_usings : Unmarked w.plain.usings :=
  .cons rfl .nil

/-- What a writer without units says is what the plain one writes. -/
theorem said_classLines (functions : List Signature) :
    ((w.withUnit []).classLines functions).filter (fun line => !isInliningLine line)
      = w.plain.classLines functions := by
  have husing : (if w.settings.inlined then [inliningUsing] else []).filter
      (fun line => !isInliningLine line) = [] := by
    split
    · rfl
    · rfl
  have hwrapper (f : Signature) : ((if w.settings.inlined then [inliningMark] else [])
      ++ w.plain.wrapper f).filter (fun line => !isInliningLine line) = w.plain.wrapper f := by
    rw [List.filter_append, (w.unmarked_wrapper f).filter_eq.2]
    split
    · rfl
    · rfl
  rw [classLines_withUnit_nil, classLines_parts, List.filter_append, List.filter_append,
    List.filter_append, List.filter_append, List.filter_flatMap, husing,
    w.unmarked_usings.filter_eq.2, (w.unmarked_beforeWrappers functions).filter_eq.2,
    w.unmarked_epilogue.filter_eq.2, List.append_nil, funext hwrapper]

/-- For inlining there are the line that makes the mark known and a mark for each wrapper. -/
theorem inlining_classLines (functions : List Signature) :
    ((w.withUnit []).classLines functions).filter isInliningLine
      = if w.settings.inlined then
          inliningUsing :: List.replicate functions.length inliningMark
        else [] := by
  have hwrapper (f : Signature) : ((if w.settings.inlined then [inliningMark] else [])
      ++ w.plain.wrapper f).filter isInliningLine
        = if w.settings.inlined then [inliningMark] else [] := by
    rw [List.filter_append, (w.unmarked_wrapper f).filter_eq.1, List.append_nil]
    split
    · rfl
    · rfl
  rw [classLines_withUnit_nil, List.filter_append, List.filter_append, List.filter_append,
    List.filter_append, List.filter_flatMap, funext hwrapper, w.unmarked_usings.filter_eq.1,
    (w.unmarked_beforeWrappers functions).filter_eq.1, w.unmarked_epilogue.filter_eq.1]
  split
  · rw [← List.map_eq_flatMap, List.map_const', List.append_nil]
    rfl
  · rw [List.flatMap_eq_nil_iff.mpr fun _ _ => rfl]
    rfl

/-- Behind each mark stands the head of the wrapper that it is for. -/
theorem linesBehind_wrappers (functions : List Signature) (back : List Text) :
    linesBehind inliningMark (functions.flatMap (fun f => [inliningMark] ++ w.plain.wrapper f)
        ++ back)
      = functions.map (fun f => "public ".toList ++ w.header f)
        ++ linesBehind inliningMark back := by
  induction functions with
  | nil => rfl
  | cons f functions ih =>
      have hfirst : (w.plain.wrapper f ++ (functions.flatMap
          (fun f => [inliningMark] ++ w.plain.wrapper f) ++ back)).take 1
            = ["public ".toList ++ w.header f] := rfl
      rw [List.flatMap_cons, List.append_assoc, List.append_assoc, List.singleton_append,
        linesBehind, if_pos rfl, hfirst, linesBehind_append (w.unmarked_wrapper f).mark_notMem, ih]
      rfl

/-- Directly behind the marks stand the heads of the wrappers. -/
theorem linesBehind_classLines (functions : List Signature) :
    linesBehind inliningMark ((w.withUnit []).classLines functions)
      = if w.settings.inlined then functions.map fun f => "public ".toList ++ w.header f else [] := by
  by_cases hinlined : w.settings.inlined = true
  · have husings : inliningMark ∉ w.plain.usings ++ [inliningUsing] :=
      List.not_mem_append w.unmarked_usings.mark_notMem (by decide)
    have hepilogue : linesBehind inliningMark w.plain.epilogue = [] := rfl
    rw [classLines_withUnit_nil]
    simp only [if_pos hinlined]
    rw [linesBehind_append husings,
      linesBehind_append (w.unmarked_beforeWrappers functions).mark_notMem, linesBehind_wrappers,
      hepilogue, List.append_nil]
  · have hnone := w.inlining_classLines functions
    rw [if_neg hinlined] at hnone ⊢
    have hmark : inliningMark ∉ (w.withUnit []).classLines functions :=
      fun hmem => List.filter_eq_nil_iff.mp hnone _ hmem (by decide)
    have hbehind := linesBehind_append hmark []
    rwa [List.append_nil] at hbehind

section Blank

variable {w} (hunit : ∀ c ∈ w.unit, isBlank c = true)
include hunit

/-- Without their indentation the lines of a class are those of a writer without units. -/
theorem contentsOf_classLines (functions : List Signature) :
    contentsOf w.unit (w.classLines functions) = (w.withUnit []).classLines functions :=
  (classLines_sameBlocks [] (fun _ h => h.isContent) (isContent_of_point w.qualifier)
    functions).contentsOf_eq hunit

/-- **What the lines of a class say** is the same class without any layout. -/
theorem saidBy_classLines (functions : List Signature) :
    saidBy w.unit (w.classLines functions) = w.plain.classLines functions := by
  rw [saidBy, contentsOf_classLines hunit, said_classLines]

end Blank

end Plain

/-- Whatever a writer settles apart from its unit is settled without the layout. -/
theorem ofSettings_withoutLayout {s : Settings} {w : ClassWriter} (h : ofSettings s = .ok w) :
    ofSettings s.withoutLayout = .ok (w.plain.withUnit ['\t']) := by
  have hscope : s.withoutLayout.scope = s.scope := rfl
  rw [ofSettings] at h
  rw [ofSettings, hscope]
  cases hchoice : s.scope with
  | known scope =>
      rw [hchoice] at h
      cases scope with
      | _ =>
          cases h
          rfl
  | unknown value =>
      rw [hchoice] at h
      cases h

end ClassWriter

/-! ## The artifact -/

/-- The lines are indented by the settings, three levels deep at most, and marked for inlining by
    them: there is one line that makes the mark known and as many marks as there are heads, each
    mark directly before its head, or none of these lines at all. -/
structure Settings.LaysOut (s : Settings) (heads lines : List Text) : Prop where
  indentation : List.Forall₂ (fun (depth : Int) line => ∃ units : Nat, depth = units ∧ units ≤ 3
    ∧ (line = [] ∨ ∃ content, line = indented s.indentUnit units content)) (depths lines) lines
  inlining : (contentsOf s.indentUnit lines).filter isInliningLine
    = if s.inlined then
        ClassWriter.inliningUsing :: List.replicate heads.length ClassWriter.inliningMark
      else []
  marked : linesBehind ClassWriter.inliningMark (contentsOf s.indentUnit lines)
    = if s.inlined then heads else []

/-- The heads of all wrappers. -/
def ClassWriter.wrapperHeads (w : ClassWriter) (functions : List Signature) : List Text :=
  functions.map fun f => "public ".toList ++ w.header f

section Generators

variable {s t : Settings} {functions : List Signature} {g g' : Generator}

/-- A generator indents by the unit of its settings, which is blank. -/
theorem Generator.unit_blank (h : Generator.ofSettings s (.ofSignatures functions) = .ok g) :
    g.writer.unit = s.indentUnit ∧ ∀ c ∈ g.writer.unit, isBlank c = true := by
  obtain ⟨-, hwriter⟩ := Generator.ofSettings_writer h
  have hunit : g.writer.unit = s.indentUnit := (ClassWriter.ofSettings_settled hwriter).1
  exact ⟨hunit, hunit ▸ s.indentUnit_blank.2⟩

/-- The lines of a generator are laid out by its settings. -/
theorem Generator.laysOut (h : Generator.ofSettings s (.ofSignatures functions) = .ok g) :
    s.LaysOut (g.writer.wrapperHeads functions) (g.writer.classLines functions) := by
  obtain ⟨-, hwriter⟩ := Generator.ofSettings_writer h
  obtain ⟨hunit, hblank⟩ := Generator.unit_blank h
  have hinlined : g.writer.settings.inlined = s.inlined := by
    rw [ClassWriter.ofSettings_settings hwriter]
    rfl
  have hcontents := ClassWriter.contentsOf_classLines hblank functions
  rw [hunit] at hcontents
  constructor
  · rw [← hunit]
    exact (ClassWriter.classLines_sameBlocks [] (fun _ h => h.isContent)
      (isContent_of_point g.writer.qualifier) functions).forall₂_depths hblank
  · rw [hcontents, ClassWriter.inlining_classLines, hinlined, ClassWriter.wrapperHeads,
      List.length_map]
  · rw [hcontents, ClassWriter.linesBehind_classLines, hinlined, ClassWriter.wrapperHeads]

/-- Generators write the same class without a layout if their settings are the same without
    theirs. -/
theorem Generator.plain_eq (hsame : s.withoutLayout = t.withoutLayout)
    (h : Generator.ofSettings s (.ofSignatures functions) = .ok g)
    (h' : Generator.ofSettings t (.ofSignatures functions) = .ok g') :
    g.writer.plain = g'.writer.plain := by
  have hmade := ClassWriter.ofSettings_withoutLayout (Generator.ofSettings_writer h).2
  have hmade' := ClassWriter.ofSettings_withoutLayout (Generator.ofSettings_writer h').2
  have hsettings : s.withLineEnd.withoutLayout = t.withLineEnd.withoutLayout := hsame
  rw [hsettings, hmade'] at hmade
  exact congrArg (·.withUnit []) (Except.ok.inj hmade).symm

end Generators

/-- **Layout options change the layout only.**  If two settings that generators can be made from
    are the same without their layout, their generators write lines for signatures at hand that
    say the same, once each line has lost as many units as braces are open before it and the lines
    for inlining are dropped.  Either row of lines is laid out as its settings have it: indented by
    no more than three units, and with one line and one mark for each wrapper, directly before its
    head, if wrappers are inlined. -/
theorem Generator.layout_changes_layout_only {s t : Settings}
    (hsame : s.withoutLayout = t.withoutLayout) {functions : List Signature} {g g' : Generator}
    (h : Generator.ofSettings s (.ofSignatures functions) = .ok g)
    (h' : Generator.ofSettings t (.ofSignatures functions) = .ok g') :
    ∃ lines lines', g.WritesLines lines ∧ g'.WritesLines lines'
      ∧ saidBy s.indentUnit lines = saidBy t.indentUnit lines'
      ∧ s.LaysOut (g.writer.wrapperHeads functions) lines
      ∧ t.LaysOut (g'.writer.wrapperHeads functions) lines' := by
  obtain ⟨hunit, hblank⟩ := Generator.unit_blank h
  obtain ⟨hunit', hblank'⟩ := Generator.unit_blank h'
  refine ⟨_, _, Generator.writesLines h, Generator.writesLines h', ?_, Generator.laysOut h,
    Generator.laysOut h'⟩
  rw [← hunit, ← hunit', ClassWriter.saidBy_classLines hblank, ClassWriter.saidBy_classLines hblank',
    Generator.plain_eq hsame h h']

/-- Settings for a class whose name begins with a tab, as the lines do that call it. -/
def tabbedSettings : Settings where
  namespaceName := some "N".toList
  className := some "\tNative".toList

/-- Settings for the same class without inlining, in other lines. -/
def wideSettings : Settings where
  namespaceName := some "N".toList
  className := some "\tNative".toList
  inlined := false
  lineEnd := some "\r\n".toList
  indentation := .whole 4

/-- A class for two functions is laid out in two ways, in one of them with three lines for
    inlining. -/
theorem Generator.layout_changes_layout_only_tabbed :
    tabbedSettings.withoutLayout = wideSettings.withoutLayout
      ∧ ∃ g g' lines lines',
        Generator.ofSettings tabbedSettings (.ofSignatures [braceSignature, braceSignature]) = .ok g
        ∧ Generator.ofSettings wideSettings (.ofSignatures [braceSignature, braceSignature]) = .ok g'
        ∧ g.WritesLines lines ∧ g'.WritesLines lines'
        ∧ saidBy ['\t'] lines = saidBy "    ".toList lines'
        ∧ ((contentsOf ['\t'] lines).filter isInliningLine).length = 3
        ∧ (contentsOf "    ".toList lines').filter isInliningLine = [] := by
  have hsame : tabbedSettings.withoutLayout = wideSettings.withoutLayout := rfl
  have htabs : tabbedSettings.indentUnit = ['\t'] := rfl
  obtain ⟨g, hg⟩ : ∃ g, Generator.ofSettings tabbedSettings
      (.ofSignatures [braceSignature, braceSignature]) = .ok g := ⟨_, rfl⟩
  obtain ⟨g', hg'⟩ : ∃ g', Generator.ofSettings wideSettings
      (.ofSignatures [braceSignature, braceSignature]) = .ok g' := ⟨_, rfl⟩
  obtain ⟨lines, lines', hlines, hlines', hsaid, hlaid, hlaid'⟩ :=
    Generator.layout_changes_layout_only hsame hg hg'
  refine ⟨hsame, g, g', lines, lines', hg, hg', hlines, hlines', hsaid, ?_, hlaid'.inlining⟩
  rw [← htabs, hlaid.inlining]
  rfl

end PointerBindings
