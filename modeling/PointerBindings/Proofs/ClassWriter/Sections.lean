import PointerBindings.Proofs.ClassWriter.Lines

/-! # Sections — one function in three places

    A function is written three times, in passes that know nothing of each other: as a
    pointer field, as an assignment of the loader and as a wrapper.  What each of them says
    is a record of texts (`FieldText`, `AssignmentText`, `WrapperText`), and its lines are
    those of the record.  The class falls into paragraphs at its empty lines: one with all
    fields, one with all assignments, and one for each wrapper
    (`ClassWriter.paragraphs_classLines`).  At every place in these rows the three records
    are about the same function and agree with each other (`Generator.sections_agree`). -/

namespace PointerBindings

open Text

/-! ## Paragraphs -/

/-- The rows of lines between the empty ones. -/
def paragraphs (lines : List Text) : List (List Text) :=
  lines.splitOn []

/-- Lines without an empty one are a paragraph. -/
theorem paragraphs_of_notMem {lines : List Text} (h : [] ∉ lines) : paragraphs lines = [lines] :=
  List.splitOn_eq_singleton h

/-- Lines in front of the first empty one are a paragraph. -/
theorem paragraphs_append_cons {front : List Text} (h : [] ∉ front) (back : List Text) :
    paragraphs (front ++ [] :: back) = front :: paragraphs back :=
  List.splitOn_append_cons_self_of_not_mem h back

/-- Rows of lines with an empty one behind each are paragraphs. -/
theorem paragraphs_flatMap {α : Type} {write : α → List Text} (h : ∀ a, [] ∉ write a) (l : List α)
    (back : List Text) :
    paragraphs (l.flatMap (fun a => write a ++ [[]]) ++ back) = l.map write ++ paragraphs back := by
  induction l with
  | nil => rfl
  | cons a l ih =>
      rw [List.flatMap_cons, List.append_assoc, List.append_assoc, List.singleton_append,
        paragraphs_append_cons (h a), ih]
      rfl

/-- A line that holds something stands in front of such lines. -/
theorem nil_notMem_cons {line : Text} {lines : List Text} (hline : line ≠ [])
    (hlines : [] ∉ lines) : [] ∉ line :: lines :=
  List.not_mem_cons_of_ne_of_not_mem hline.symm hlines

/-- Lines that hold something, one for each of some things. -/
theorem nil_notMem_map {α : Type} {write : α → Text} (h : ∀ a, write a ≠ []) (l : List α) :
    [] ∉ l.map write := by
  intro hmem
  obtain ⟨a, -, ha⟩ := List.mem_map.mp hmem
  exact h a ha

/-! ## What the sections say -/

/-- What a pointer field says: its type and its name. -/
structure FieldText where
  type : Text
  name : Text

/-- What an assignment of the loader says: the field that it fills, the type that it casts to, and
    the name that it asks for. -/
structure AssignmentText where
  target : Text
  cast : Text
  sought : Text

/-- What a wrapper says: in its head the return type, the name, and the types and names of the
    parameters, and in its body whether it returns what it calls, what that is and with which
    arguments. -/
structure WrapperText where
  returnType : Text
  name : Text
  parameters : List (Text × Text)
  returns : Bool
  callee : Text
  arguments : List Text

/-- A pointer type with the given convention and types. -/
def pointerText (convention : Option Text) (types : List Text) : Text :=
  "delegate* unmanaged ".toList
    ++ (match convention with
      | some name => '[' :: name ++ "] ".toList
      | none => [])
    ++ '<' :: joined ", ".toList types ++ ['>']

/-- The field and the wrapper belong to the function, and they agree with each other; the
    convention is what the function is called by. -/
structure FieldText.AgreesWith (field : FieldText) (wrapper : WrapperText) (f : Signature)
    (convention : Option Text) : Prop where
  name : field.name = f.name ++ "Ptr".toList
  callee : wrapper.callee = field.name
  header : wrapper.returnType = f.returnType ∧ wrapper.name = f.name
    ∧ wrapper.parameters = f.parameters.map fun p => (p.type, p.name)
  /-- The types in the head of the wrapper make up the type of the field, the return type last. -/
  type : field.type
    = pointerText convention (wrapper.parameters.map Prod.fst ++ [wrapper.returnType])
  arguments : wrapper.arguments = wrapper.parameters.map Prod.snd
  returns : wrapper.returns = true ↔ wrapper.returnType ≠ "void".toList

/-- The assignment fills the field, with what is found under the name of the function. -/
structure AssignmentText.Fills (assignment : AssignmentText) (field : FieldText) (f : Signature) :
    Prop where
  target : assignment.target = field.name
  cast : assignment.cast = field.type
  sought : assignment.sought = f.name

namespace ClassWriter

variable (w : ClassWriter)

/-- The line of a pointer field. -/
def fieldLine (t : FieldText) : Text :=
  w.line 2 ("private ".toList ++ w.staticWord ++ t.type ++ ' ' :: t.name ++ [';'])

/-- The line of an assignment. -/
def assignmentLine (t : AssignmentText) : Text :=
  w.line 3 (w.qualifier ++ '.' :: t.target ++ " = (".toList ++ t.cast
    ++ ')' :: w.qualifier ++ '.' :: "LoadFunction".toList ++ "(\"".toList ++ t.sought
    ++ "\");".toList)

/-- The lines of a wrapper. -/
def wrapperLines (t : WrapperText) : List Text :=
  (if w.settings.inlined then [w.line 2 inliningMark] else [])
    ++ [w.line 2 ("public ".toList ++ (w.staticWord ++ t.returnType ++ ' ' :: t.name
        ++ '(' :: joined ", ".toList (t.parameters.map fun p => p.1 ++ ' ' :: p.2) ++ [')'])),
      w.opening 2,
      w.line 3 ((if t.returns then "return ".toList else []) ++ (w.qualifier ++ '.' :: t.callee
        ++ '(' :: joined ", ".toList t.arguments ++ ");".toList)),
      w.closing 2]

/-- What the class says of a function in its field. -/
def fieldText (f : Signature) : FieldText :=
  ⟨w.pointerType f, fieldName f⟩

/-- What the class says of a function in the loader. -/
def assignmentText (f : Signature) : AssignmentText :=
  ⟨fieldName f, w.pointerType f, f.name⟩

/-- What the class says of a function in its wrapper. -/
def wrapperText (f : Signature) : WrapperText where
  returnType := f.returnType
  name := f.name
  parameters := f.parameters.map fun p => (p.type, p.name)
  returns := f.returnType ≠ Signature.voidType
  callee := fieldName f
  arguments := f.parameters.map Parameter.name

/-- A wrapper is a paragraph with an empty line behind it. -/
theorem wrapper_eq (f : Signature) : w.wrapper f = w.wrapperLines (wrapperText f) ++ [[]] := by
  have hreturns : (if f.returnType = Signature.voidType then [] else "return ".toList)
      = if (wrapperText f).returns then "return ".toList else [] := by
    by_cases hvoid : f.returnType = Signature.voidType
    · rw [if_pos hvoid, if_neg (by simp [wrapperText, hvoid])]
    · rw [if_neg hvoid, if_pos (by simp [wrapperText, hvoid])]
  have hparameters : (f.parameters.map fun p => p.type ++ ' ' :: p.name)
      = (wrapperText f).parameters.map fun p => p.1 ++ ' ' :: p.2 := by
    rw [wrapperText, List.map_map]
    rfl
  rw [wrapper, wrapperLines, header, hreturns, hparameters]
  split
  · rfl
  · rfl

theorem fieldText_agreesWith (f : Signature) :
    (w.fieldText f).AgreesWith (wrapperText f) f (w.conventionOf f) where
  name := rfl
  callee := rfl
  header := ⟨rfl, rfl, rfl⟩
  type := by
    have htypes : pointerTypes f
        = (wrapperText f).parameters.map Prod.fst ++ [(wrapperText f).returnType] := by
      rw [pointerTypes, wrapperText, List.map_map]
      rfl
    rw [← htypes]
    rfl
  arguments := by
    rw [wrapperText, List.map_map]
    rfl
  returns := decide_eq_true_iff

theorem assignmentText_fills (f : Signature) : (w.assignmentText f).Fills (w.fieldText f) f :=
  ⟨rfl, rfl, rfl⟩

/-! ## The head of the finder -/

/-- Another line of a member is the head of the finder only if it begins as that does. -/
theorem take_of_finderHead {content : Text} (h : w.finderHead = w.line 2 content) :
    content.take 2 = ['p', 'r'] := by
  rw [finderHead, line, line] at h
  rw [← List.append_cancel_left h]
  rfl

/-- A loader comes with the finder. -/
theorem finderHead_mem (hloader : w.hasLoader = true) (functions : List Signature) :
    w.finderHead ∈ w.classLines functions := by
  have hfinder : w.finderHead ∈ w.loaderSection functions := by
    rw [loaderSection_eq]
    exact List.mem_append_right _ (List.mem_cons_of_mem _ List.mem_cons_self)
  rw [classLines, if_pos hloader]
  exact List.mem_append_left _ (List.mem_append_left _ (List.mem_append_right _ hfinder))

/-- No pointer field looks like the head of the finder: another type stands in its place. -/
theorem finderHead_ne_pointerField (f : Signature) : w.finderHead ≠ w.pointerField f := by
  intro heq
  rw [finderHead, pointerField, line, line] at heq
  have hcontent := List.append_cancel_left heq
  simp only [List.append_assoc] at hcontent
  have htype := List.append_cancel_left (List.append_cancel_left hcontent)
  exact (show ['v'] ≠ ['d'] by decide) (congrArg (List.take 1) htype)

/-! ## The class as paragraphs -/

/-- The lines from the namespace to the opening of the class. -/
def classHead : List Text :=
  [w.namespaceLine, w.opening 0, w.classLine, w.opening 1]

section Unit

variable {w} (hunit : w.unit ≠ [])
include hunit

/-- Whatever stands in by a unit at least is not empty. -/
theorem line_ne_nil (depth : Nat) (content : Text) : w.line (depth + 1) content ≠ [] := by
  rw [line, List.replicate_succ, List.flatten_cons, List.append_assoc]
  exact List.append_ne_nil_of_left_ne_nil hunit _

theorem nil_notMem_wrapperLines (t : WrapperText) : [] ∉ w.wrapperLines t := by
  have hmethod (head call : Text) :
      [] ∉ [w.line 2 head, w.opening 2, w.line 3 call, w.closing 2] :=
    nil_notMem_cons (line_ne_nil hunit 1 _) (nil_notMem_cons (line_ne_nil hunit 1 _)
      (nil_notMem_cons (line_ne_nil hunit 2 _) (nil_notMem_cons (line_ne_nil hunit 1 _)
        List.not_mem_nil)))
  rw [wrapperLines]
  split
  · exact nil_notMem_cons (line_ne_nil hunit 1 _) (hmethod _ _)
  · exact hmethod _ _

theorem nil_notMem_fields (fields : List FieldText) :
    [] ∉ w.classHead ++ fields.map w.fieldLine := by
  have hnamespace : w.namespaceLine ≠ [] := List.append_ne_nil_of_left_ne_nil (by decide) _
  exact nil_notMem_cons hnamespace (nil_notMem_cons (List.cons_ne_nil _ _)
    (nil_notMem_cons (line_ne_nil hunit 0 _) (nil_notMem_cons (line_ne_nil hunit 0 _)
      (nil_notMem_map (fun _ => line_ne_nil hunit 1 _) fields))))

theorem nil_notMem_assignments (assignments : List AssignmentText) :
    [] ∉ w.loaderHeader ++ assignments.map w.assignmentLine ++ [w.closing 2] := by
  have hassignments : [] ∉ assignments.map w.assignmentLine :=
    nil_notMem_map (fun _ => line_ne_nil hunit 2 _) assignments
  refine List.not_mem_append (nil_notMem_cons (line_ne_nil hunit 1 _)
    (nil_notMem_cons (line_ne_nil hunit 1 _) hassignments)) ?_
  exact nil_notMem_cons (line_ne_nil hunit 1 _) List.not_mem_nil

theorem nil_notMem_finder : [] ∉ w.finder :=
  nil_notMem_cons (line_ne_nil hunit 1 _) (nil_notMem_cons (line_ne_nil hunit 1 _)
    (nil_notMem_cons (line_ne_nil hunit 2 _) (nil_notMem_cons (line_ne_nil hunit 2 _)
      (nil_notMem_cons (line_ne_nil hunit 1 _) List.not_mem_nil))))

/-- Behind the loader, or behind the fields, there is a paragraph for each wrapper, and one that
    closes the class. -/
theorem paragraphs_wrappers (functions : List Signature) :
    paragraphs (functions.flatMap w.wrapper ++ w.epilogue)
      = (functions.map wrapperText).map w.wrapperLines ++ [w.epilogue] := by
  have hepilogue : [] ∉ w.epilogue := nil_notMem_cons (line_ne_nil hunit 0 _)
    (nil_notMem_cons (List.cons_ne_nil _ _) List.not_mem_nil)
  have hwrappers : w.wrapper = fun f => w.wrapperLines (wrapperText f) ++ [[]] :=
    funext w.wrapper_eq
  rw [hwrappers, paragraphs_flatMap (fun f => nil_notMem_wrapperLines hunit (wrapperText f)),
    paragraphs_of_notMem hepilogue, List.map_map]
  rfl

/-- **The class in paragraphs**: what it uses, its head with all fields, the loader with all
    assignments and the method that it asks, and one for each wrapper. -/
theorem paragraphs_classLines (functions : List Signature) :
    paragraphs (w.classLines functions)
      = [w.usings, w.classHead ++ (functions.map w.fieldText).map w.fieldLine]
        ++ (if w.hasLoader then
            [w.loaderHeader ++ (functions.map w.assignmentText).map w.assignmentLine
                ++ [w.closing 2], w.finder, []]
          else [])
        ++ (functions.map wrapperText).map w.wrapperLines ++ [w.epilogue] := by
  have husings : [] ∉ w.usings := by
    rw [usings]
    split
    · decide
    · decide
  have hfields := nil_notMem_fields hunit (functions.map w.fieldText)
  have hassignments := nil_notMem_assignments hunit (functions.map w.assignmentText)
  have hfinder := nil_notMem_finder hunit
  have hsame : functions.map w.loaderAssignment
      = (functions.map w.assignmentText).map w.assignmentLine := by
    rw [List.map_map]
    rfl
  have hsection : w.fieldSection functions = (functions.map w.fieldText).map w.fieldLine := by
    rw [List.map_map]
    rfl
  rw [classLines, preamble_eq, hsection, wrapperSection]
  by_cases hloader : w.hasLoader = true
  · rw [if_pos hloader, if_pos hloader, loaderSection_eq, hsame]
    -- behind the finder there is an empty paragraph: its own empty line and that of the wrappers
    have hcuts : w.usings ++ [[], w.namespaceLine, w.opening 0, w.classLine, w.opening 1]
          ++ (functions.map w.fieldText).map w.fieldLine
          ++ ([] :: (w.loaderHeader ++ (functions.map w.assignmentText).map w.assignmentLine
            ++ [w.closing 2]) ++ [] :: (w.finder ++ [[]]))
          ++ [] :: functions.flatMap w.wrapper ++ w.epilogue
        = w.usings ++ [] :: (w.classHead ++ (functions.map w.fieldText).map w.fieldLine
          ++ [] :: (w.loaderHeader ++ (functions.map w.assignmentText).map w.assignmentLine
            ++ [w.closing 2] ++ [] :: (w.finder ++ [] :: ([] ++ [] :: (functions.flatMap w.wrapper
              ++ w.epilogue))))) := by
      simp only [classHead, List.append_assoc, List.cons_append, List.nil_append]
    rw [hcuts, paragraphs_append_cons husings, paragraphs_append_cons hfields,
      paragraphs_append_cons hassignments, paragraphs_append_cons hfinder,
      paragraphs_append_cons List.not_mem_nil, paragraphs_wrappers hunit]
    rfl
  · rw [if_neg hloader, if_neg hloader]
    have hcuts : w.usings ++ [[], w.namespaceLine, w.opening 0, w.classLine, w.opening 1]
          ++ (functions.map w.fieldText).map w.fieldLine ++ []
          ++ [] :: functions.flatMap w.wrapper ++ w.epilogue
        = w.usings ++ [] :: (w.classHead ++ (functions.map w.fieldText).map w.fieldLine
          ++ [] :: (functions.flatMap w.wrapper ++ w.epilogue)) := by
      simp only [classHead, List.append_assoc, List.cons_append, List.nil_append]
    rw [hcuts, paragraphs_append_cons husings, paragraphs_append_cons hfields,
      paragraphs_wrappers hunit]
    rfl

/-! ## No finder without a loader -/

/-- Where a text begins without a blank, the line is not one that stands further in. -/
theorem line_ne_of_lt (hblank : ∀ c ∈ w.unit, isBlank c = true) {depth deeper : Nat}
    (hdeeper : depth < deeper) {content : Text} (hcontent : IsFlush content) (other : Text) :
    w.line deeper other ≠ w.line depth content := by
  obtain ⟨more, rfl⟩ := Nat.exists_eq_add_of_lt hdeeper
  intro heq
  rw [line, line, Nat.add_assoc, ← List.replicate_append_replicate, List.flatten_append,
    List.append_assoc] at heq
  -- what is left of the indentation begins with a blank
  have hrest := List.append_cancel_left heq
  obtain ⟨c, rest, hunitCons⟩ := List.exists_cons_of_ne_nil hunit
  rw [List.replicate_succ, List.flatten_cons, List.append_assoc, hunitCons] at hrest
  have hhead : content.head? = some c := by
    rw [← hrest]
    rfl
  have hc := hcontent.head c hhead
  rw [hblank c (hunitCons ▸ List.mem_cons_self)] at hc
  exact nomatch hc

section Blank

variable (hblank : ∀ c ∈ w.unit, isBlank c = true)
include hblank

/-- Whatever stands less far in, or further, is not the head of the finder. -/
theorem finderHead_ne_outer {depth : Nat} (hdepth : depth < 2) {content : Text}
    (hcontent : IsFlush content) : w.finderHead ≠ w.line depth content :=
  line_ne_of_lt hunit hblank hdepth hcontent _

theorem finderHead_ne_inner (content : Text) : w.finderHead ≠ w.line 3 content := by
  have hflush : IsFlush ("private ".toList ++ w.staticWord ++ "void* ".toList ++ finderName
      ++ "(string name)".toList) := by
    simp only [List.append_assoc]
    exact IsFlush.append (by decide) _
  exact (line_ne_of_lt hunit hblank (by decide) hflush content).symm

theorem finderHead_notMem_preamble : w.finderHead ∉ w.preamble := by
  have houter (depth : Nat) (hdepth : depth < 2) (content : Text) (hcontent : IsFlush content) :
      w.finderHead ≠ w.line depth content :=
    finderHead_ne_outer hunit hblank hdepth hcontent
  have hhead : w.finderHead ∉ [[], w.namespaceLine, w.opening 0, w.classLine, w.opening 1] := by
    have hclass : IsFlush (w.staticWord ++ "unsafe class ".toList
        ++ writtenName w.settings.className) := by
      rw [staticWord]
      split
      · exact IsFlush.append (by decide) _
      · exact IsFlush.append (by decide) _
    have hnamespace : IsFlush w.namespaceLine := IsFlush.append (by decide) _
    simp only [List.mem_cons, List.not_mem_nil, or_false, not_or]
    exact ⟨line_ne_nil hunit 1 _, houter 0 (by decide) _ hnamespace,
      houter 0 (by decide) _ (by decide), houter 1 (by decide) _ hclass,
      houter 1 (by decide) _ (by decide)⟩
  have husing (line : Text) (hline : IsFlush line) : w.finderHead ≠ line :=
    houter 0 (by decide) line hline
  rw [preamble_eq, usings]
  refine List.not_mem_append (List.not_mem_cons_of_ne_of_not_mem (husing _ (by decide)) ?_) hhead
  split
  · exact List.not_mem_cons_of_ne_of_not_mem (husing _ (by decide)) List.not_mem_nil
  · exact List.not_mem_nil

/-- No wrapper holds the head of the finder: it begins by `public`, with a mark or a brace, or
    stands further in. -/
theorem finderHead_notMem_wrapper (f : Signature) : w.finderHead ∉ w.wrapper f := by
  have hbegin (content : Text) (hcontent : content.take 2 ≠ ['p', 'r']) :
      w.finderHead ≠ w.line 2 content :=
    fun heq => hcontent (w.take_of_finderHead heq)
  have hpublic (head : Text) : w.finderHead ≠ w.line 2 ("public ".toList ++ head) :=
    hbegin _ (show ['p', 'u'] ≠ ['p', 'r'] by decide)
  have hmethod (head call : Text) : w.finderHead ∉
      [w.line 2 ("public ".toList ++ head), w.opening 2, w.line 3 call, w.closing 2, []] := by
    simp only [List.mem_cons, List.not_mem_nil, or_false, not_or]
    exact ⟨hpublic head, hbegin _ (by decide), finderHead_ne_inner hunit hblank call,
      hbegin _ (by decide), line_ne_nil hunit 1 _⟩
  rw [wrapper]
  split
  · exact List.not_mem_cons_of_ne_of_not_mem (hbegin _ (by decide)) (hmethod _ _)
  · exact hmethod _ _

/-- Where no loader is asked for, no line looks like the head of the finder. -/
theorem finderHead_notMem (hloader : w.hasLoader = false) (functions : List Signature) :
    w.finderHead ∉ w.classLines functions := by
  have hfields : w.finderHead ∉ w.fieldSection functions := by
    intro hmem
    obtain ⟨f, -, hf⟩ := List.mem_map.mp hmem
    exact w.finderHead_ne_pointerField f hf.symm
  have hwrappers : w.finderHead ∉ functions.flatMap w.wrapper := by
    intro hmem
    obtain ⟨f, -, hf⟩ := List.mem_flatMap.mp hmem
    exact finderHead_notMem_wrapper hunit hblank f hf
  have hepilogue : w.finderHead ∉ w.epilogue := by
    have hclosing (depth : Nat) (hdepth : depth < 2) : w.finderHead ≠ w.closing depth :=
      finderHead_ne_outer hunit hblank hdepth (by decide)
    exact List.not_mem_cons_of_ne_of_not_mem (hclosing 1 (by decide))
      (List.not_mem_cons_of_ne_of_not_mem (hclosing 0 (by decide)) List.not_mem_nil)
  rw [classLines, if_neg (by rw [hloader]; exact Bool.false_ne_true), List.append_nil]
  exact List.not_mem_append (List.not_mem_append (List.not_mem_append
    (finderHead_notMem_preamble hunit hblank) hfields)
    (List.not_mem_cons_of_ne_of_not_mem (line_ne_nil hunit 1 _) hwrappers)) hepilogue

end Blank

end Unit

end ClassWriter

/-! ## The artifact -/

/-- **The sections agree.**  For signatures at hand a generator writes one field, one assignment
    and one wrapper each, in their order, or no assignment and no finder where no loader is asked
    for.  At every place the field is named for the function, the assignment fills it by a cast to
    its type with what is found under the function's name, and the wrapper passes what its head
    takes to it and returns what comes back, if anything does. -/
theorem Generator.sections_agree {s : Settings} {functions : List Signature} {g : Generator}
    (h : Generator.ofSettings s (.ofSignatures functions) = .ok g) :
    ∃ (lines : List Text) (fields : List FieldText) (assignments : List AssignmentText)
        (wrappers : List WrapperText),
      g.WritesLines lines
      ∧ paragraphs lines
        = [g.writer.usings, g.writer.classHead ++ fields.map g.writer.fieldLine]
          ++ (if s.loader.chooses .none then []
            else
              [g.writer.loaderHeader ++ assignments.map g.writer.assignmentLine
                ++ [g.writer.closing 2], g.writer.finder, []])
          ++ wrappers.map g.writer.wrapperLines ++ [g.writer.epilogue]
      ∧ fields.length = functions.length ∧ wrappers.length = functions.length
      ∧ assignments.length = (if s.loader.chooses .none then 0 else functions.length)
      ∧ (g.writer.finderHead ∈ lines ↔ s.loader.chooses .none = false)
      ∧ ∀ (i : Nat) (f : Signature), functions[i]? = some f → ∃ field wrapper,
          fields[i]? = some field ∧ wrappers[i]? = some wrapper
          ∧ field.AgreesWith wrapper f (g.writer.conventionOf f)
          ∧ (s.loader.chooses .none = false → ∃ assignment, assignments[i]? = some assignment
            ∧ assignment.Fills field f) := by
  obtain ⟨-, hwriter⟩ := Generator.ofSettings_writer h
  obtain ⟨hne, hblank⟩ := s.withLineEnd.indentUnit_blank
  rw [← (ClassWriter.ofSettings_settled hwriter).1] at hne hblank
  have hloader : g.writer.hasLoader = !s.loader.chooses .none := by
    rw [ClassWriter.hasLoader, ClassWriter.ofSettings_settings hwriter]
    rfl
  have hcut := ClassWriter.paragraphs_classLines hne functions
  refine ⟨_, functions.map g.writer.fieldText,
    if s.loader.chooses .none then [] else functions.map g.writer.assignmentText,
    functions.map ClassWriter.wrapperText, Generator.writesLines h, ?_, List.length_map _,
    List.length_map _, ?_, ?_, ?_⟩
  · rw [hcut, hloader]
    cases s.loader.chooses .none with
    | true => rfl
    | false => rfl
  · cases s.loader.chooses .none with
    | true => rfl
    | false => exact List.length_map _
  · rw [← Bool.not_eq_true', ← hloader]
    constructor
    · intro hmem
      by_contra hnone
      exact ClassWriter.finderHead_notMem hne hblank (Bool.eq_false_iff.mpr hnone) functions hmem
    · exact fun hsome => g.writer.finderHead_mem hsome functions
  · intro i f hf
    refine ⟨g.writer.fieldText f, ClassWriter.wrapperText f, by rw [List.getElem?_map, hf]; rfl,
      by rw [List.getElem?_map, hf]; rfl, g.writer.fieldText_agreesWith f, fun hsome => ?_⟩
    refine ⟨g.writer.assignmentText f, ?_, g.writer.assignmentText_fills f⟩
    rw [hsome, if_neg Bool.false_ne_true, List.getElem?_map, hf]
    rfl

/-- Settings for a class whose instances fill in their pointers when they are told to. -/
def instanceSettings : Settings where
  namespaceName := some "N".toList
  className := some "Native".toList
  scope := .known .perInstance
  convention := some " Cdecl ".toList

/-- The generator that is made of `instanceSettings` for some functions. -/
def instanceGenerator (functions : List Signature) : Generator where
  writer := ⟨instanceSettings.withLineEnd, ['\t'], "this".toList⟩
  source := { source := .ofSignatures functions }

/-- A function that takes a number and returns one. -/
def roundSignature : Signature where
  name := "round".toList
  returnType := "int".toList
  parameters := [⟨"double".toList, "x".toList⟩]

/-- A function that is given twice is written twice everywhere, in eight paragraphs. -/
theorem Generator.sections_agree_twice :
    Generator.ofSettings instanceSettings (.ofSignatures [roundSignature, roundSignature])
        = .ok (instanceGenerator [roundSignature, roundSignature])
      ∧ ∃ lines, (instanceGenerator [roundSignature, roundSignature]).WritesLines lines
        ∧ (paragraphs lines).length = 8
        ∧ (instanceGenerator [roundSignature, roundSignature]).writer.finderHead ∈ lines := by
  have hmade :
      Generator.ofSettings instanceSettings (.ofSignatures [roundSignature, roundSignature])
        = .ok (instanceGenerator [roundSignature, roundSignature]) := rfl
  obtain ⟨lines, fields, assignments, wrappers, hwrites, hcut, -, hwrappers, -, hfinder, -⟩ :=
    Generator.sections_agree hmade
  have hloader : instanceSettings.loader.chooses .none = false := rfl
  refine ⟨hmade, lines, hwrites, ?_, hfinder.mpr hloader⟩
  rw [hcut, hloader, List.length_append, List.length_append, List.length_append, List.length_map,
    hwrappers]
  rfl

end PointerBindings
