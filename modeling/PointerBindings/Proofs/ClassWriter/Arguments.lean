import PointerBindings.ClassWriter
import PointerBindings.Signature.Line

/-! # Arguments — what a wrapper hands over

    A function has its parameters written three times: as the types of its pointer, in the head
    of its wrapper and as the arguments of the call inside it.  The types and the head hold what
    a parameter says about the way it is passed, the call holds its bare name.  So the arguments
    are as many as the types and in their order, but they fit them exactly if nothing is passed by
    `ref` or `out` (`ClassWriter.wrapper_arguments`). -/

namespace PointerBindings

open Text

/-! ## Texts joined -/

section Joined

variable {α : Type} (separator : Text)

theorem joined_map_singleton (text : α → Text) (a : α) :
    joined separator ([a].map text) = text a :=
  List.intercalate_singleton

theorem joined_map_cons_cons (text : α → Text) (a b : α) (l : List α) :
    joined separator ((a :: b :: l).map text)
      = text a ++ separator ++ joined separator ((b :: l).map text) :=
  List.intercalate_cons_cons

variable (front back : α → Text)

/-- Something in front of each text makes the whole no shorter. -/
theorem length_joined_le (l : List α) :
    (joined separator (l.map back)).length
      ≤ (joined separator (l.map fun a => front a ++ back a)).length := by
  induction l with
  | nil => exact Nat.le_refl _
  | cons a l ih =>
      cases l with
      | nil =>
          rw [joined_map_singleton, joined_map_singleton, List.length_append]
          exact Nat.le_add_left _ _
      | cons b l =>
          rw [joined_map_cons_cons, joined_map_cons_cons]
          simp only [List.length_append]
          omega

/-- Texts joined are the same with something in front of each only if there is nothing. -/
theorem joined_prefixed_eq_iff (l : List α) :
    joined separator (l.map fun a => front a ++ back a) = joined separator (l.map back)
      ↔ ∀ a ∈ l, front a = [] := by
  constructor
  · intro h
    induction l with
    | nil => exact fun a ha => nomatch ha
    | cons a l ih =>
        cases l with
        | nil =>
            rw [joined_map_singleton, joined_map_singleton] at h
            exact List.forall_mem_singleton.mpr (List.append_left_eq_self.mp h)
        | cons b l =>
            rw [joined_map_cons_cons, joined_map_cons_cons] at h
            -- the rest is no shorter, so nothing is in front of the first text
            have hfirst : front a = [] := by
              have hrest := length_joined_le separator front back (b :: l)
              have hlength := congrArg List.length h
              simp only [List.length_append] at hlength
              exact List.length_eq_zero_iff.mp (by omega)
            rw [hfirst, List.nil_append] at h
            exact List.forall_mem_cons.mpr ⟨hfirst, ih (List.append_cancel_left h)⟩
  · intro h
    refine congrArg (joined separator) (List.map_congr_left fun a ha => ?_)
    rw [h a ha, List.nil_append]

end Joined

/-! ## Arguments -/

/-- The word by which a type says that its parameter is handed over as a variable. -/
def passing (type : Text) : Text :=
  if "ref ".toList.isPrefixOf type then "ref ".toList
  else if "out ".toList.isPrefixOf type then "out ".toList
  else []

namespace ClassWriter

/-- The arguments that fit the types of the pointer: one for each parameter, in order, handed over
    as its type says. -/
def fittingArguments (f : Signature) : List Text :=
  List.zipWith (fun type p => passing type ++ p.name) (pointerTypes f) f.parameters

/-- The block of a wrapper that calls through the pointer with the given arguments. -/
def bodyWith (w : ClassWriter) (f : Signature) (arguments : List Text) : List Text :=
  [w.opening 2,
    w.line 3 ((if f.returnType = Signature.voidType then [] else "return ".toList)
      ++ (w.qualifier ++ '.' :: fieldName f
        ++ '(' :: joined ", ".toList arguments ++ ");".toList)),
    w.closing 2,
    []]

/-- The wrapper does nothing but call through the pointer with the given arguments. -/
def Forwards (w : ClassWriter) (f : Signature) (arguments : List Text) : Prop :=
  ∃ head, w.wrapper f = head ++ w.bodyWith f arguments

/-- The arguments that fit go with the parameters one by one. -/
theorem fittingArguments_eq (f : Signature) :
    fittingArguments f = f.parameters.map fun p => passing p.type ++ p.name := by
  rw [fittingArguments, pointerTypes]
  induction f.parameters with
  | nil => rfl
  | cons p parameters ih => exact congrArg (List.cons _) ih

/-- Two blocks are the same only if their arguments are, once they are joined. -/
theorem bodyWith_eq_iff {w : ClassWriter} {f : Signature} {arguments others : List Text} :
    w.bodyWith f arguments = w.bodyWith f others
      ↔ joined ", ".toList arguments = joined ", ".toList others := by
  constructor
  · intro h
    have hline := (List.cons.inj (List.cons.inj h).2).1
    have hcall := List.append_cancel_left (List.append_cancel_left hline)
    exact (List.cons.inj (List.append_cancel_left (List.append_cancel_right hcall))).2
  · intro h
    rw [bodyWith, bodyWith, h]

/-- What a wrapper hands over are the names of the parameters. -/
theorem forwards_iff_joined {w : ClassWriter} {f : Signature} {arguments : List Text} :
    w.Forwards f arguments
      ↔ joined ", ".toList arguments = joined ", ".toList (f.parameters.map Parameter.name) := by
  have hwrapper : ∃ head, w.wrapper f = head ++ w.bodyWith f (f.parameters.map Parameter.name) :=
    ⟨(if w.settings.inlined then [w.line 2 inliningMark] else [])
      ++ [w.line 2 ("public ".toList ++ w.header f)], by rw [List.append_assoc]; rfl⟩
  obtain ⟨own, hown⟩ := hwrapper
  constructor
  · rintro ⟨head, h⟩
    rw [hown] at h
    exact (bodyWith_eq_iff.mp (List.append_inj' h rfl).2).symm
  · intro h
    exact ⟨own, by rw [hown, bodyWith_eq_iff.mpr h]⟩

/-- **What a wrapper hands over.**  It does nothing but call through the pointer, with the bare
    names of the parameters, in order, for arguments.  They are as many as the types of the pointer
    in front of the return type, and they fit these types exactly if nothing is passed by `ref` or
    `out`. -/
theorem wrapper_arguments (w : ClassWriter) (f : Signature) :
    w.Forwards f (f.parameters.map Parameter.name)
      ∧ (f.parameters.map Parameter.name).length + 1 = (pointerTypes f).length
      ∧ (w.Forwards f (fittingArguments f) ↔ ∀ p ∈ f.parameters, passing p.type = []) := by
  refine ⟨forwards_iff_joined.mpr rfl, ?_, ?_⟩
  · rw [pointerTypes, List.length_append, List.length_map, List.length_map]
    rfl
  · rw [forwards_iff_joined, fittingArguments_eq]
    exact joined_prefixed_eq_iff _ (fun p => passing p.type) Parameter.name _

/-- A function that exchanges two numbers in place. -/
def swapSignature : Signature where
  name := "Swap".toList
  returnType := "void".toList
  parameters := [⟨"ref int".toList, "a".toList⟩, ⟨"ref int".toList, "b".toList⟩]

/-- A writer for a class named after native code. -/
def nativeWriter : ClassWriter where
  settings := { namespaceName := some "N".toList, className := some "Native".toList }
  unit := ['\t']
  qualifier := "Native".toList

/-- The wrapper of a function that is read from a line hands its variables over by value. -/
theorem swap_loses_references :
    Signature.ofLine "void Swap(ref int a, ref int b)".toList = .ok swapSignature
      ∧ ClassWriter.ofSettings nativeWriter.settings = .ok nativeWriter
      ∧ fittingArguments swapSignature = ["ref a".toList, "ref b".toList]
      ∧ ¬nativeWriter.Forwards swapSignature (fittingArguments swapSignature) := by
  refine ⟨rfl, rfl, rfl, fun h => ?_⟩
  exact absurd (forwards_iff_joined.mp h) (by decide)

end ClassWriter

end PointerBindings
