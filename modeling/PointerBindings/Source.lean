import PointerBindings.HeaderUnit
import PointerBindings.Signature.Line
import PointerBindings.Text.Stream
import PointerBindings.Unmanaged.Reflected

/-! # Sources — where signatures come from

    A source answers with one signature at a time until it is exhausted, and can be
    reset to its first one at any point.  There are two disciplines.  A cursor walks a
    list of members and spells out the one it is at; a member that has no signature
    keeps the cursor where it is.  A text list reads a line and spells it out; a line that
    is no signature has been read all the same, and behind one that cannot be read the list
    goes on as its stream does.  A blank line ends a text list for good, until the next
    reset.

    What is left to be answered shrinks with every signature, so a source can be
    drained. -/

namespace PointerBindings

open Text

/-- Why a source cannot answer. -/
inductive SourceFault where
  /-- The line is no signature. -/
  | line (fault : LineFault)
  /-- The bytes of the list are no text. -/
  | bytes (fault : Utf8Fault)
  /-- Something that a signature is made of is not there. -/
  | missing
  /-- Members of this kind have no signatures. -/
  | unsupported
  /-- A typedef leads only to itself. -/
  | endlessAlias
deriving DecidableEq

/-- The parts of a type name are missing, for it goes on behind a line feed. -/
@[match_pattern]
abbrev SourceFault.undividedName : SourceFault :=
  .missing

/-- The way that a delegate is called is missing. -/
abbrev SourceFault.uncallable : SourceFault :=
  .missing

/-- The fault in words; some have none. -/
def SourceFault.message : SourceFault → Text
  | .line fault => fault.message
  | .bytes fault => fault.message
  | .missing => []
  | .unsupported => []
  | .endlessAlias => "maximum recursion depth exceeded".toList

/-- What a source answers: a signature, nothing more, or a fault. -/
abbrev Answer :=
  Except SourceFault (Option Signature)

/-! ## Cursors -/

/-- A list of members and those that have not been answered yet. -/
structure Cursor (α : Type) where
  all : List α
  pending : List α
deriving Inhabited

namespace Cursor

variable {α : Type}

/-- A cursor before the first member. -/
def ofList (all : List α) : Cursor α :=
  ⟨all, all⟩

/-- The cursor before the first member again. -/
def reset (c : Cursor α) : Cursor α :=
  ofList c.all

/-- The answer for the next member; the cursor moves on only behind a signature. -/
def next (spell : α → Except SourceFault Signature) (c : Cursor α) : Answer × Cursor α :=
  match c.pending with
  | [] => (.ok none, c)
  | member :: rest =>
      match spell member with
      | .ok signature => (.ok (some signature), { c with pending := rest })
      | .error fault => (.error fault, c)

end Cursor

/-! ## Text lists -/

/-- A list of signature lines, what is left of it, and whether its end was met. -/
structure TextList where
  whole : Stream
  unread : Stream
  ended : Bool
deriving DecidableEq

namespace TextList

/-- A text list before its first line. -/
def ofStream (s : Stream) : TextList :=
  ⟨s, s, false⟩

/-- The list before its first line again. -/
def reset (l : TextList) : TextList :=
  ofStream l.whole

/-- The answer for the next line. -/
def next (l : TextList) : Answer × TextList :=
  if l.ended then (.ok none, l)
  else
    match l.unread.readLine with
    | (.error fault, unread) => (.error (.bytes fault), { l with unread })
    | (.ok line, unread) =>
        if allBlank line then (.ok none, { l with unread, ended := true })
        else
          match Signature.ofLine line with
          | .ok signature => (.ok (some signature), { l with unread })
          | .error fault => (.error (.line fault), { l with unread })

end TextList

/-! ## Catalog members -/

/-- A name falls under a search path: any does under a blank one or a star, else it begins
    with the path, whose blanks and then whose stars are taken off both ends. -/
def fallsUnder (fullName : Text) (searchPath : Option Text) : Bool :=
  match searchPath with
  | none => true
  | some path =>
      let plain := trim path
      if plain = [] || plain = ['*'] then true
      else (((plain.dropWhile (· == '*')).reverse.dropWhile (· == '*')).reverse).isPrefixOf fullName

/-- The type is a delegate, and not a generic one. -/
def DeclaredType.isPlainDelegate (t : DeclaredType) : Bool :=
  t.isDelegate && !t.isGeneric

/-- The delegates of a catalog under a search path. -/
def Catalog.delegates (c : Catalog) (searchPath : Option Text) : List DeclaredType :=
  (c.types.filter fun t => fallsUnder t.fullName searchPath).filter
    DeclaredType.isPlainDelegate

/-- The method is implemented by a native library. -/
def Method.isImported (m : Method) : Bool :=
  m.isStatic && m.library.isSome

/-- The imported methods of a catalog whose types fall under a search path. -/
def Catalog.imports (c : Catalog) (searchPath : Option Text) : List Method :=
  (c.types.filter fun t => fallsUnder t.fullName searchPath).flatMap fun t =>
    t.methods.filter Method.isImported

/-- A signature that is missing only where a name cannot be divided. -/
def orUndivided (signature : Option Signature) : Except SourceFault Signature :=
  match signature with
  | some s => .ok s
  | none => .error .undividedName

/-- The signature of a delegate, under the simple name of its type. -/
def DeclaredType.delegateSignature (o : TypePolicy) (t : DeclaredType) :
    Except SourceFault Signature :=
  match simpleName? t.fullName, t.invoke with
  | none, _ => .error .undividedName
  | some _, none => .error .uncallable
  | some name, some invoke => orUndivided (invoke.signature? o name t.convention)

/-- The signature of an imported method. -/
def Method.importSignature (o : TypePolicy) (m : Method) : Except SourceFault Signature :=
  orUndivided (m.signature? o m.name m.convention)

/-! ## Header members -/

/-- The signature of a declaration of a header. -/
def CDeclaration.signature (word : WordSize) (mode : HeaderMode) (d : CDeclaration) :
    Except SourceFault Signature :=
  match d.signature? word mode with
  | some s => .ok s
  | none => .error .endlessAlias

/-! ## All sources -/

/-- What may be done to a source. -/
inductive SourceStep where
  | next
  | reset
deriving DecidableEq

/-- A source and how far it has been read. -/
inductive Source where
  /-- Signatures that are at hand. -/
  | signatures (c : Cursor Signature)
  | textList (l : TextList)
  | delegates (policy : TypePolicy) (c : Cursor DeclaredType)
  | imports (policy : TypePolicy) (c : Cursor Method)
  /-- Members of a kind that has no signatures. -/
  | unsupported (c : Cursor Unit)
  | header (word : WordSize) (mode : HeaderMode) (c : Cursor CDeclaration)

namespace Source

/-- A source over signatures that are at hand. -/
def ofSignatures (all : List Signature) : Source :=
  .signatures (.ofList all)

/-- A source over a text list. -/
def ofStream (s : Stream) : Source :=
  .textList (.ofStream s)

/-- The delegates of a catalog as a source. -/
def ofDelegates (c : Catalog) (searchPath : Option Text) (o : TypePolicy) : Source :=
  .delegates o (.ofList (c.delegates searchPath))

/-- The imported methods of a catalog as a source. -/
def ofImports (c : Catalog) (searchPath : Option Text) (o : TypePolicy) : Source :=
  .imports o (.ofList (c.imports searchPath))

/-- Members that have no signatures as a source. -/
def ofUnsupported (count : Nat) : Source :=
  .unsupported (.ofList (List.replicate count ()))

/-- The kept declarations of a header as a source. -/
def ofDeclarations (kept : List CDeclaration) (mode : HeaderMode) (o : TypePolicy) :
    Source :=
  .header o.word mode (.ofList kept)

/-- The source before its first signature again. -/
def reset : Source → Source
  | .signatures c => .signatures c.reset
  | .textList l => .textList l.reset
  | .delegates o c => .delegates o c.reset
  | .imports o c => .imports o c.reset
  | .unsupported c => .unsupported c.reset
  | .header w m c => .header w m c.reset

/-- The next answer. -/
def next : Source → Answer × Source
  | .signatures c => let (a, c) := c.next .ok; (a, .signatures c)
  | .textList l => let (a, l) := l.next; (a, .textList l)
  | .delegates o c => let (a, c) := c.next (DeclaredType.delegateSignature o); (a, .delegates o c)
  | .imports o c => let (a, c) := c.next (Method.importSignature o); (a, .imports o c)
  | .unsupported c => let (a, c) := c.next fun _ => .error .unsupported; (a, .unsupported c)
  | .header w m c => let (a, c) := c.next (CDeclaration.signature w m); (a, .header w m c)

/-! ## Draining -/

/-- A bound on the signatures that are still to come. -/
def remaining : Source → Nat
  | .signatures c => c.pending.length
  | .textList l => l.unread.text.length
  | .delegates _ c => c.pending.length
  | .imports _ c => c.pending.length
  | .unsupported c => c.pending.length
  | .header _ _ c => c.pending.length

end Source

/-- A cursor has one member less before it behind a signature. -/
theorem Cursor.pending_next_lt {α : Type} {spell : α → Except SourceFault Signature}
    {c c' : Cursor α} {s : Signature} (h : c.next spell = (.ok (some s), c')) :
    c'.pending.length < c.pending.length := by
  unfold Cursor.next at h
  split at h
  · cases h
  · next member rest hp =>
      split at h
      · cases h
        simp [hp]
      · cases h

/-- A line that is read from a text takes at least one character with it, unless the text
    was empty. -/
theorem Text.Stream.readLine_length {s s' : Stream} {line : Text}
    (h : s.readLine = (.ok line, s')) :
    line = s.text ∧ s'.text = [] ∨ s'.text.length < s.text.length := by
  unfold Stream.readLine at h
  split at h
  · next l rest hcut =>
      cases h
      refine Or.inr ?_
      rw [(eq_of_cutFirst hcut).1]
      simp
      omega
  · cases h
    exact Or.inl ⟨rfl, rfl⟩
  · cases h
  · cases h

/-- A text list has less to read behind a signature. -/
theorem TextList.unread_next_lt {l l' : TextList} {s : Signature}
    (h : l.next = (.ok (some s), l')) : l'.unread.text.length < l.unread.text.length := by
  unfold TextList.next at h
  split at h
  · cases h
  · split at h
    · cases h
    · next line unread hread =>
        split at h
        · cases h
        · next hblank =>
            split at h
            · cases h
              rcases Text.Stream.readLine_length hread with ⟨hline, htext⟩ | hlt
              · -- a line that is not blank has a character
                have hne : l.unread.text ≠ [] := by
                  intro hnil
                  rw [hline, hnil] at hblank
                  exact hblank rfl
                show unread.text.length < l.unread.text.length
                rw [htext]
                exact List.length_pos_iff.mpr hne
              · exact hlt
            · cases h

namespace Source

/-- Every signature leaves less to come. -/
theorem remaining_next_lt {s s' : Source} {f : Signature} (h : s.next = (.ok (some f), s')) :
    s'.remaining < s.remaining := by
  cases s with
  | signatures c =>
      simp only [next, Prod.mk.injEq] at h
      obtain ⟨h1, rfl⟩ := h
      exact Cursor.pending_next_lt (Prod.ext h1 rfl)
  | textList l =>
      simp only [next, Prod.mk.injEq] at h
      obtain ⟨h1, rfl⟩ := h
      exact TextList.unread_next_lt (Prod.ext h1 rfl)
  | delegates o c =>
      simp only [next, Prod.mk.injEq] at h
      obtain ⟨h1, rfl⟩ := h
      exact Cursor.pending_next_lt (Prod.ext h1 rfl)
  | imports o c =>
      simp only [next, Prod.mk.injEq] at h
      obtain ⟨h1, rfl⟩ := h
      exact Cursor.pending_next_lt (Prod.ext h1 rfl)
  | unsupported c =>
      simp only [next, Prod.mk.injEq] at h
      obtain ⟨h1, rfl⟩ := h
      exact Cursor.pending_next_lt (Prod.ext h1 rfl)
  | header w m c =>
      simp only [next, Prod.mk.injEq] at h
      obtain ⟨h1, rfl⟩ := h
      exact Cursor.pending_next_lt (Prod.ext h1 rfl)

end Source

end PointerBindings
