import PointerBindings.Proofs.ClassWriter.Blocks

/-! # Nesting — a class as blocks in blocks

    A line that holds nothing but a brace opens or closes a block, and the depth of a line
    is counted by the braces before it.  Lines are in blocks if every brace has its partner
    and every line stands as many units in as there are blocks around it (`InBlocks`).  The
    class is built so, part by part, and a row of lines in blocks has the depth that is
    counted of it at every place (`InBlocks.standsNested`), so that the indentation of the
    class can be read off its braces (`Generator.indentation_follows_nesting`). -/

namespace PointerBindings

open Text

/-! ## Depth -/

/-- The line opens a block: an opening brace is all it holds behind its indentation. -/
def opensBlock (line : Text) : Bool :=
  trimStart line = ['\x7b']

/-- The line closes a block: a closing brace is all it holds behind its indentation. -/
def closesBlock (line : Text) : Bool :=
  trimStart line = ['\x7d']

/-- The depth of the line at a place: how many lines before it open a block, less how many
    before it close one, a closing line being counted itself. -/
def depthAt (lines : List Text) (place : Nat) : Int :=
  (lines.take place).countP opensBlock - (lines.take (place + 1)).countP closesBlock

/-- How many more blocks the lines open than they close. -/
def opened (lines : List Text) : Int :=
  lines.countP opensBlock - lines.countP closesBlock

/-- The line is empty, or it stands at the depth and goes on without a blank. -/
def StandsAt (unit : Text) (depth : Nat) (line : Text) : Prop :=
  line = [] ∨ ∃ content, IsFlush content ∧ line = indented unit depth content

/-- Inside some blocks, every line stands at the depth that is counted of it. -/
def StandsNested (unit : Text) (around : Nat) (lines : List Text) : Prop :=
  ∀ (place : Nat) (h : place < lines.length), ∃ depth : Nat,
    around + depthAt lines place = depth ∧ StandsAt unit depth lines[place]

theorem depthAt_append_left {front : List Text} (back : List Text) {place : Nat}
    (h : place < front.length) : depthAt (front ++ back) place = depthAt front place := by
  rw [depthAt, depthAt, List.take_append_of_le_length h.le, List.take_append_of_le_length h]

theorem depthAt_append_right (front back : List Text) (place : Nat) :
    depthAt (front ++ back) (front.length + place) = opened front + depthAt back place := by
  rw [depthAt, depthAt, opened, Nat.add_assoc, List.take_length_add_append,
    List.take_length_add_append, List.countP_append, List.countP_append]
  omega

/-- Behind all lines of a row only its braces count. -/
theorem depthAt_length (lines : List Text) : depthAt lines lines.length = opened lines := by
  rw [depthAt, opened, List.take_length, List.take_of_length_le lines.length.le_succ]

/-- A line by itself has the depth around it, or one less if it closes a block. -/
theorem StandsNested.singleton {unit line : Text} {around depth : Nat}
    (hdepth : around = if closesBlock line then depth + 1 else depth)
    (hstands : StandsAt unit depth line) : StandsNested unit around [line] := by
  intro place hplace
  obtain rfl : place = 0 := by
    rw [List.length_singleton] at hplace
    omega
  refine ⟨depth, ?_, hstands⟩
  rw [depthAt, List.take_zero, List.countP_nil, hdepth, List.take_succ_cons, List.take_zero,
    List.countP_singleton]
  split
  · omega
  · omega

/-- Lines follow others that have opened and closed what is around them. -/
theorem StandsNested.append {unit : Text} {around : Nat} (inside : Nat) {front back : List Text}
    (hinside : (inside : Int) = around + opened front) (hfront : StandsNested unit around front)
    (hback : StandsNested unit inside back) : StandsNested unit around (front ++ back) := by
  intro place hplace
  by_cases hleft : place < front.length
  · rw [depthAt_append_left back hleft, List.getElem_append_left hleft]
    exact hfront place hleft
  · obtain ⟨rest, rfl⟩ := Nat.exists_eq_add_of_le (Nat.le_of_not_lt hleft)
    have hrest : rest < back.length := by
      rw [List.length_append] at hplace
      omega
    obtain ⟨depth, hdepth, hstands⟩ := hback rest hrest
    refine ⟨depth, ?_, ?_⟩
    · rw [depthAt_append_right]
      omega
    · rw [List.getElem_append_right (Nat.le_add_right _ _)]
      simpa using hstands

/-! ## Lines in blocks -/

/-- At a depth the lines are so many blocks, with lines between and around them that hold no
    brace: every block has the same unit in front of its braces as its neighbours, and one
    more in front of what it holds. -/
inductive InBlocks (unit : Text) : Nat → Nat → List Text → Prop where
  | nil {depth : Nat} : InBlocks unit depth 0 []
  | empty {depth : Nat} : InBlocks unit depth 0 [[]]
  | plain {depth : Nat} {content : Text} : IsFlush content → content ≠ ['\x7b'] →
      content ≠ ['\x7d'] → InBlocks unit depth 0 [indented unit depth content]
  | block {depth blocks : Nat} {inner : List Text} : InBlocks unit (depth + 1) blocks inner →
      InBlocks unit depth (blocks + 1)
        ([indented unit depth ['\x7b']] ++ (inner ++ [indented unit depth ['\x7d']]))
  | append {depth m n : Nat} {front back : List Text} : InBlocks unit depth m front →
      InBlocks unit depth n back → InBlocks unit depth (m + n) (front ++ back)

/-- Lines that are in the same blocks as others are in blocks. -/
theorem SameBlocks.inBlocks {unit other : Text} {depth levels blocks : Nat}
    {lines lines' : List Text} (h : SameBlocks IsPlain unit other depth levels blocks lines lines') :
    InBlocks unit depth blocks lines := by
  induction h with
  | nil => exact .nil
  | empty => exact .empty
  | line hplain => exact .plain hplain.toIsFlush (hplain.ne_brace _) (hplain.ne_brace _)
  | block _ ih => exact .block ih
  | append _ _ ihFront ihBack => exact .append ihFront ihBack

namespace InBlocks

variable {unit : Text} {depth blocks : Nat} {lines : List Text}

section Unit

variable (hunit : ∀ c ∈ unit, isBlank c = true)
include hunit

/-- Blanks in front of a flush text are its indentation. -/
theorem trimStart_flush (depth : Nat) {content : Text} (h : IsFlush content) :
    trimStart (indented unit depth content) = content :=
  (trimStart_indented hunit depth content).trans h.trimStart_eq

/-- There are as many braces of either kind as there are blocks. -/
theorem countP_eq (h : InBlocks unit depth blocks lines) :
    lines.countP opensBlock = blocks ∧ lines.countP closesBlock = blocks := by
  induction h with
  | nil => exact ⟨rfl, rfl⟩
  | empty => exact ⟨rfl, rfl⟩
  | @plain depth _ hflush hopening hclosing =>
      have htrim := trimStart_flush hunit depth hflush
      simp [opensBlock, closesBlock, htrim, hopening, hclosing]
  | @block depth _ _ _ ih =>
      have hopening := trimStart_flush hunit depth (show IsFlush ['\x7b'] by decide)
      have hclosing := trimStart_flush hunit depth (show IsFlush ['\x7d'] by decide)
      simp [opensBlock, closesBlock, hopening, hclosing] at ih ⊢
      omega
  | append _ _ ihFront ihBack =>
      rw [List.countP_append, List.countP_append]
      omega

/-- Whatever is opened in blocks is closed in them. -/
theorem opened_eq_zero (h : InBlocks unit depth blocks lines) : opened lines = 0 := by
  obtain ⟨hopening, hclosing⟩ := countP_eq hunit h
  rw [opened, hopening, hclosing, Int.sub_self]

/-- **Lines in blocks are indented by their braces**: at every place the depth that is counted is
    the one that the line stands at. -/
theorem standsNested (h : InBlocks unit depth blocks lines) : StandsNested unit depth lines := by
  induction h with
  | nil => exact fun place hplace => nomatch hplace
  | empty => exact .singleton rfl (Or.inl rfl)
  | @plain depth _ hflush _ hclosing =>
      refine .singleton ?_ (Or.inr ⟨_, hflush, rfl⟩)
      rw [closesBlock, trimStart_flush hunit depth hflush, if_neg (by simpa using hclosing)]
  | @block depth blocks inner hinner ih =>
      have hbrace : IsFlush ['\x7b'] ∧ IsFlush ['\x7d'] := by decide
      have hopening := trimStart_flush hunit depth hbrace.1
      have hclosing := trimStart_flush hunit depth hbrace.2
      -- what is inside stands one deeper, and so would its closing line if it did not count
      have hopened : opened [indented unit depth ['\x7b']] = 1 := by
        simp [opened, opensBlock, closesBlock, hopening]
      refine .append (depth + 1) (by omega) ?_ (.append (depth + 1) ?_ ih ?_)
      · refine .singleton ?_ (Or.inr ⟨_, hbrace.1, rfl⟩)
        rw [closesBlock, hopening]
        rfl
      · rw [opened_eq_zero hunit hinner]
        omega
      · refine .singleton ?_ (Or.inr ⟨_, hbrace.2, rfl⟩)
        rw [closesBlock, hclosing]
        rfl
  | append hfront _ ihFront ihBack =>
      refine .append _ ?_ ihFront ihBack
      rw [opened_eq_zero hunit hfront, Int.add_zero]

end Unit

end InBlocks

/-! ## The class -/

namespace ClassWriter

variable {w : ClassWriter}

/-- **The class is blocks in blocks**: its members in the class and the class in the namespace. -/
theorem classLines_inBlocks (hqualifier : IsFlush w.qualifier) (functions : List Signature) :
    InBlocks w.unit 0 ((if w.hasLoader then 2 else 0) + functions.length + 2)
      (w.classLines functions) :=
  (classLines_sameBlocks w.unit (fun _ h => h) (fun back => hqualifier.isPlain_append '.' back)
    functions).inBlocks

end ClassWriter

/-! ## The artifact -/

/-- How many blocks a class has: the loader and its finder if there is a loader, the wrappers, and
    around them the class and the namespace. -/
def Settings.blocks (s : Settings) (functions : List Signature) : Nat :=
  (if s.loader.chooses .none then 0 else 2) + functions.length + 2

/-- A generator refers to the class by a text that begins without a blank, if the name of the
    class does. -/
theorem Generator.qualifier_isFlush {s : Settings} {source : Source} {g : Generator}
    (h : Generator.ofSettings s source = .ok g)
    (hname : ∀ c ∈ (writtenName s.className).head?, isBlank c = false) :
    IsFlush g.writer.qualifier := by
  obtain ⟨hvalid, hwriter⟩ := Generator.ofSettings_writer h
  obtain ⟨name, hgiven, hnamed⟩ := Settings.exists_className hvalid
  rcases (ClassWriter.ofSettings_settled hwriter).2 with hthis | hclass
  · rw [hthis]
    decide
  · rw [hclass]
    refine ⟨?_, hname⟩
    -- a name that is all blank would not have passed the check
    intro hnil
    have hwritten : writtenName s.className = name := by rw [hgiven]; rfl
    rw [← hwritten, show writtenName s.className = [] from hnil] at hnamed
    exact nomatch hnamed

/-- **Indentation follows nesting.**  If the name of the class does not begin with a blank, every
    line that a generator writes for signatures at hand is empty or stands as many units in as
    braces are open around it, whatever the settings choose.  No brace is closed that was not
    opened and none stays open: the lines are blocks in blocks, and there are no other braces
    than theirs. -/
theorem Generator.indentation_follows_nesting {s : Settings} {functions : List Signature}
    {g : Generator} (h : Generator.ofSettings s (.ofSignatures functions) = .ok g)
    (hname : ∀ c ∈ (writtenName s.className).head?, isBlank c = false) :
    ∃ lines, g.WritesLines lines
      ∧ (∀ (place : Nat) (h : place < lines.length), ∃ depth : Nat, depthAt lines place = depth
          ∧ (lines[place] = []
            ∨ ∃ content, IsFlush content ∧ lines[place] = indented s.indentUnit depth content))
      ∧ depthAt lines lines.length = 0
      ∧ InBlocks s.indentUnit 0 (s.blocks functions) lines
      ∧ lines.countP opensBlock = s.blocks functions
      ∧ lines.countP closesBlock = s.blocks functions := by
  obtain ⟨-, hwriter⟩ := Generator.ofSettings_writer h
  have hunit := s.indentUnit_blank.2
  have hsame : (if g.writer.hasLoader then 2 else 0) + functions.length + 2
      = s.blocks functions := by
    rw [ClassWriter.hasLoader, ClassWriter.ofSettings_settings hwriter, Settings.blocks]
    show (if !s.loader.chooses .none then 2 else 0) + functions.length + 2 = _
    cases s.loader.chooses .none with
    | _ => rfl
  have hblocks : InBlocks s.indentUnit 0 (s.blocks functions) (g.writer.classLines functions) := by
    have hclass := ClassWriter.classLines_inBlocks (Generator.qualifier_isFlush h hname) functions
    rwa [(ClassWriter.ofSettings_settled hwriter).1, hsame] at hclass
  obtain ⟨hopening, hclosing⟩ := hblocks.countP_eq hunit
  refine ⟨_, Generator.writesLines h, ?_, ?_, hblocks, hopening, hclosing⟩
  · intro place hplace
    obtain ⟨depth, hdepth, hstands⟩ := hblocks.standsNested hunit place hplace
    exact ⟨depth, (Int.zero_add _).symm.trans hdepth, hstands⟩
  · rw [depthAt_length, hblocks.opened_eq_zero hunit]

/-- Settings for a class that fills its pointers in when it is first used, indented by spaces. -/
def spacedSettings : Settings where
  namespaceName := some "N".toList
  className := some "Native".toList
  loader := .known .constructor
  inlined := false
  indentation := .whole 2

/-- The generator that is made of `spacedSettings` for some functions. -/
def spacedGenerator (functions : List Signature) : Generator where
  writer := ⟨spacedSettings.withLineEnd, "  ".toList, "Native".toList⟩
  source := { source := .ofSignatures functions }

/-- A function that is called like a brace. -/
def braceSignature : Signature where
  name := ['\x7d']
  returnType := "void".toList

/-- A class for two functions that are called like a brace has six blocks, and all of them are
    closed. -/
theorem Generator.indentation_follows_nesting_spaces :
    Generator.ofSettings spacedSettings (.ofSignatures [braceSignature, braceSignature])
        = .ok (spacedGenerator [braceSignature, braceSignature])
      ∧ (∀ c ∈ (writtenName spacedSettings.className).head?, isBlank c = false)
      ∧ ∃ lines, (spacedGenerator [braceSignature, braceSignature]).WritesLines lines
        ∧ lines.countP opensBlock = 6 ∧ depthAt lines lines.length = 0 := by
  have hmade : Generator.ofSettings spacedSettings (.ofSignatures [braceSignature, braceSignature])
      = .ok (spacedGenerator [braceSignature, braceSignature]) := rfl
  have hname : ∀ c ∈ (writtenName spacedSettings.className).head?, isBlank c = false := by
    intro c hc
    obtain rfl : 'N' = c := Option.some.inj hc
    decide
  obtain ⟨lines, hwrites, -, hend, -, hopening, -⟩ :=
    Generator.indentation_follows_nesting hmade hname
  exact ⟨hmade, hname, lines, hwrites, hopening, hend⟩

end PointerBindings
