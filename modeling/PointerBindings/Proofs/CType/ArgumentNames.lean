import Mathlib.Data.List.Nodup
import PointerBindings.Unmanaged.CTypes

/-! # Argument names — whether the parameters of a C function are told apart

    A written name is kept, an unnamed argument is given a name by its position, and a name
    that is reserved is escaped.  Neither the escapes nor the given names clash among
    themselves, so that two parameters share their name exactly if one of them is written
    with the name that the other one is given (`argumentNames_nodup_iff`). -/

namespace PointerBindings

open Text

/-! ## One name -/

/-- The name that an unnamed argument is given. -/
def givenName (position : Nat) : Text :=
  "param".toList ++ decimal position

/-- The name of an argument before it is escaped. -/
def plainArgumentName (position : Nat) (name : Text) : Text :=
  if name = [] then givenName position else name

/-- No identifier of C begins like a name that is escaped. -/
def LooksUnescaped (name : Text) : Prop :=
  name.head? ≠ some '@'

theorem parameterName_eq (position : Nat) (name : Text) :
    parameterName position name = escapeReserved (plainArgumentName position name) := rfl

theorem givenName_injective : Function.Injective givenName := by
  intro m n h
  have hdigits : decimal m = decimal n := List.append_cancel_left h
  rw [decimal, decimal, Nat.toList_repr, Nat.toList_repr] at hdigits
  calc m = Nat.ofDigitChars 10 (Nat.toDigits 10 m) 0 := Nat.ofDigitChars_ten_toDigits.symm
    _ = Nat.ofDigitChars 10 (Nat.toDigits 10 n) 0 := by rw [hdigits]
    _ = n := Nat.ofDigitChars_ten_toDigits

theorem givenName_ne_nil (position : Nat) : givenName position ≠ [] :=
  List.cons_ne_nil _ _

theorem LooksUnescaped.plainArgumentName {name : Text} (h : LooksUnescaped name)
    (position : Nat) : LooksUnescaped (plainArgumentName position name) := by
  rw [PointerBindings.plainArgumentName]
  split
  · exact fun hhead => absurd (Option.some.inj hhead) (by decide)
  · exact h

/-- An escape tells two names apart that look unescaped. -/
theorem escapeReserved_eq_iff {a b : Text} (ha : LooksUnescaped a) (hb : LooksUnescaped b) :
    escapeReserved a = escapeReserved b ↔ a = b := by
  refine ⟨fun h => ?_, congrArg escapeReserved⟩
  rw [escapeReserved, escapeReserved] at h
  split at h <;> split at h
  · exact (List.cons.inj h).2
  · exact absurd (h ▸ rfl) hb
  · exact absurd (h ▸ rfl) ha
  · exact h

/-! ## All names -/

/-- The names of the parameters are those of the arguments at their positions. -/
theorem unmanagedArgumentsFrom?_names {word : WordSize} {arguments : List (Text × CType)}
    {position : Nat} {parameters : List Parameter}
    (h : unmanagedArgumentsFrom? word position arguments = some parameters) :
    parameters.map Parameter.name
      = (arguments.map Prod.fst).mapIdx fun i name => parameterName (position + i) name := by
  induction arguments generalizing position parameters with
  | nil =>
      cases h
      rfl
  | cons argument rest ih =>
      obtain ⟨name, type⟩ := argument
      rw [unmanagedArgumentsFrom?] at h
      obtain ⟨text, -, h⟩ := Option.bind_eq_some_iff.mp h
      obtain ⟨others, hothers, h⟩ := Option.bind_eq_some_iff.mp h
      cases h
      rw [List.map_cons, List.map_cons, List.mapIdx_cons, ih hothers]
      refine congrArg (List.cons (parameterName position name)) (congrArg (List.mapIdx · _) ?_)
      funext i later
      rw [Nat.add_assoc, Nat.add_comm 1]

/-- The position gives a name where none is written. -/
theorem plainArgumentName_nil (position : Nat) :
    plainArgumentName position [] = givenName position := rfl

theorem plainArgumentName_of_ne_nil {name : Text} (h : name ≠ []) (position : Nat) :
    plainArgumentName position name = name :=
  if_neg h

/-- Names that are pairwise distinct as they are written are so altogether exactly if none of them
    is written that an unnamed argument is given. -/
theorem plainArgumentNames_nodup_iff {names : List Text}
    (hwritten : (names.filter fun name => name ≠ []).Nodup) :
    (names.mapIdx plainArgumentName).Nodup
      ↔ ∀ i, names[i]? = some [] → givenName i ∉ names := by
  constructor
  · intro hnodup i hi hmem
    obtain ⟨j, hj⟩ := List.mem_iff_getElem?.mp hmem
    have hgiven : (names.mapIdx plainArgumentName)[i]? = some (givenName i) := by
      rw [List.getElem?_mapIdx, hi]
      rfl
    have hkept : (names.mapIdx plainArgumentName)[j]? = some (givenName i) := by
      rw [List.getElem?_mapIdx, hj]
      exact congrArg some (plainArgumentName_of_ne_nil (givenName_ne_nil i) j)
    obtain ⟨hlt, -⟩ := List.getElem?_eq_some_iff.mp hgiven
    have hplace : i = j := (List.getElem?_inj hlt hnodup).mp (hgiven.trans hkept.symm)
    rw [← hplace, hi] at hj
    exact givenName_ne_nil i (Option.some.inj hj).symm
  · intro hfree
    rw [List.nodup_iff_pairwise_ne, List.pairwise_filter, List.pairwise_iff_getElem] at hwritten
    rw [List.nodup_iff_pairwise_ne, List.pairwise_iff_getElem]
    intro i j hi hj hij
    rw [List.length_mapIdx] at hi hj
    rw [List.getElem_mapIdx, List.getElem_mapIdx]
    -- a name that is given is written nowhere
    have hclear {k l : Nat} (hk : k < names.length) (hl : l < names.length)
        (hnil : names[k] = []) : givenName k ≠ names[l] := by
      intro heq
      refine hfree k ?_ (heq ▸ List.getElem_mem hl)
      rw [List.getElem?_eq_getElem hk, hnil]
    by_cases hleft : names[i] = [] <;> by_cases hright : names[j] = []
    · rw [hleft, hright, plainArgumentName_nil, plainArgumentName_nil]
      exact fun heq => Nat.ne_of_lt hij (givenName_injective heq)
    · rw [hleft, plainArgumentName_nil, plainArgumentName_of_ne_nil hright]
      exact hclear hi hj hleft
    · rw [hright, plainArgumentName_nil, plainArgumentName_of_ne_nil hleft]
      exact (hclear hj hi hright).symm
    · rw [plainArgumentName_of_ne_nil hleft, plainArgumentName_of_ne_nil hright]
      exact hwritten i j hi hj hij (decide_eq_true hleft) (decide_eq_true hright)

/-- Escapes keep names apart and bring none together. -/
theorem parameterNames_nodup_iff {names : List Text} (hplain : ∀ name ∈ names, LooksUnescaped name) :
    (names.mapIdx parameterName).Nodup ↔ (names.mapIdx plainArgumentName).Nodup := by
  rw [List.nodup_iff_pairwise_ne, List.nodup_iff_pairwise_ne, List.pairwise_iff_getElem,
    List.pairwise_iff_getElem]
  simp only [List.length_mapIdx, List.getElem_mapIdx, parameterName_eq, ne_eq]
  refine forall_congr' fun i => forall_congr' fun j => forall_congr' fun hi =>
    forall_congr' fun hj => imp_congr_right fun _ => not_congr ?_
  exact escapeReserved_eq_iff ((hplain _ (List.getElem_mem hi)).plainArgumentName i)
    ((hplain _ (List.getElem_mem hj)).plainArgumentName j)

/-- **Names of parameters.**  Where the written names of the arguments are pairwise distinct, so are
    the names of the parameters, exactly if no argument is written with the name that an unnamed
    one is given. -/
theorem argumentNames_nodup_iff {word : WordSize} {arguments : List (Text × CType)}
    {parameters : List Parameter} (h : unmanagedArguments? word arguments = some parameters)
    (hwritten : ((arguments.map Prod.fst).filter fun name => name ≠ []).Nodup)
    (hplain : ∀ name ∈ arguments.map Prod.fst, LooksUnescaped name) :
    (parameters.map Parameter.name).Nodup
      ↔ ∀ i, (arguments.map Prod.fst)[i]? = some [] → givenName i ∉ arguments.map Prod.fst := by
  have hnames := unmanagedArgumentsFrom?_names h
  simp only [Nat.zero_add] at hnames
  rw [hnames, parameterNames_nodup_iff hplain, plainArgumentNames_nodup_iff hwritten]

/-- The type `int`. -/
def intType : CType :=
  .mk (.builtin .int) "int".toList none none none none none [] false

/-- The arguments of `void seek(int in, int, int count);`. -/
def seekArguments : List (Text × CType) :=
  [("in".toList, intType), ([], intType), ("count".toList, intType)]

/-- The parameters are `int @in`, `int param1` and `int count`. -/
def seekParameters : List Parameter :=
  [⟨"int".toList, "@in".toList⟩, ⟨"int".toList, "param1".toList⟩, ⟨"int".toList, "count".toList⟩]

/-- A reserved name, an unnamed argument and another one are told apart. -/
theorem argumentNames_nodup_iff_seek :
    unmanagedArguments? .nint seekArguments = some seekParameters
      ∧ ((seekArguments.map Prod.fst).filter fun name => name ≠ []).Nodup
      ∧ (∀ name ∈ seekArguments.map Prod.fst, LooksUnescaped name)
      ∧ ((seekParameters.map Parameter.name).Nodup
        ↔ ∀ i, (seekArguments.map Prod.fst)[i]? = some [] →
            givenName i ∉ seekArguments.map Prod.fst) := by
  have hparameters : unmanagedArguments? .nint seekArguments = some seekParameters := by rfl
  have hwritten : ((seekArguments.map Prod.fst).filter fun name => name ≠ []).Nodup := by decide
  have hplain : ∀ name ∈ seekArguments.map Prod.fst, LooksUnescaped name := by
    unfold LooksUnescaped
    decide
  exact ⟨hparameters, hwritten, hplain, argumentNames_nodup_iff hparameters hwritten hplain⟩

/-- The arguments of `void clip(int param1, int);`. -/
def clipArguments : List (Text × CType) :=
  [("param1".toList, intType), ([], intType)]

/-- A written name is given to an unnamed argument once more. -/
theorem given_name_clashes :
    ((clipArguments.map Prod.fst).filter fun name => name ≠ []).Nodup
      ∧ (∀ name ∈ clipArguments.map Prod.fst, LooksUnescaped name)
      ∧ ∃ parameters, unmanagedArguments? .intPtr clipArguments = some parameters
        ∧ ¬ (parameters.map Parameter.name).Nodup := by
  refine ⟨by decide, by unfold LooksUnescaped; decide, ?_⟩
  exact ⟨[⟨"int".toList, "param1".toList⟩, ⟨"int".toList, "param1".toList⟩], by rfl, by decide⟩

end PointerBindings
