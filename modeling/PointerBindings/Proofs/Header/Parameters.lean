import PointerBindings.Proofs.CType.ArgumentNames
import PointerBindings.Proofs.Header.FirstOfName

/-! # Parameters — what the signatures of a header take

    The types of a callback come from the function type behind its typedef, and the names of its
    parameters from the declarations inside it; the two need not be as many.  Then no name
    counts, and every parameter is numbered.  So a signature has one parameter for each type
    whatever names are written, and each parameter can be named as it is
    (`Source.header_parameters`). -/

namespace PointerBindings

open Text

/-! ## Names -/

/-- The name of the parameter at a position, of as many as are counted: the one that is written
    there, escaped if it is reserved, or a number where none is written or the written ones are
    not as many. -/
def countedName (written : List Text) (count position : Nat) : Text :=
  match if written.length = count then written[position]? else none with
  | none | some [] => givenName position
  | some name => escapeReserved name

/-- No reserved word is a number behind the word for a parameter. -/
theorem givenName_notMem_reservedWords (position : Nat) : givenName position ∉ reservedWords := by
  have hbehind : ∀ word ∈ reservedWords, after? "param".toList word = none
      ∨ after? "param".toList word = some ['s'] := by decide
  intro hmem
  have hafter : after? "param".toList (givenName position) = some (decimal position) :=
    after?_eq_some_iff.mpr rfl
  rcases hbehind _ hmem with hnone | hsome
  · exact nomatch hafter.symm.trans hnone
  · -- the word `params` has no digit behind the others
    have hdigits : Nat.toDigits 10 position = ['s'] := by
      rw [← Nat.toList_repr]
      exact Option.some.inj (hafter.symm.trans hsome)
    have hdigit : 's'.isDigit = true :=
      Nat.isDigit_of_mem_toDigits (by decide) (by decide) (hdigits ▸ List.mem_singleton_self 's')
    exact absurd hdigit (by decide)

/-- An escaped name is not reserved. -/
theorem escapeReserved_notMem_reservedWords (name : Text) :
    escapeReserved name ∉ reservedWords := by
  have hheads : ∀ word ∈ reservedWords, word.head? ≠ some '@' := by decide
  rw [escapeReserved]
  split
  · exact fun hmem => hheads _ hmem rfl
  · rename_i hfree
    rwa [List.contains_iff_mem] at hfree

theorem escapeReserved_of_notMem {name : Text} (h : name ∉ reservedWords) :
    escapeReserved name = name :=
  if_neg (by rwa [List.contains_iff_mem])

theorem escapeReserved_ne_nil {name : Text} (h : name ≠ []) : escapeReserved name ≠ [] := by
  rw [escapeReserved]
  split
  · exact List.cons_ne_nil '@' name
  · exact h

/-- A parameter can be named as it is: its name is neither empty nor reserved. -/
theorem parameterName_usable (position : Nat) (name : Text) :
    parameterName position name ≠ [] ∧ parameterName position name ∉ reservedWords := by
  rw [parameterName_eq]
  refine ⟨escapeReserved_ne_nil ?_, escapeReserved_notMem_reservedWords _⟩
  by_cases hname : name = []
  · rw [hname, plainArgumentName_nil]
    exact givenName_ne_nil position
  · rw [plainArgumentName_of_ne_nil hname]
    exact hname

/-- The names that count are those that are written, if they are as many, and else there is
    none. -/
theorem countedName_eq {written : List Text} {count position : Nat} (hposition : position < count) :
    countedName written count position = parameterName position
      ((if written.length = count then written else List.replicate count []).getD position []) := by
  have hgiven : parameterName position [] = givenName position :=
    escapeReserved_of_notMem (givenName_notMem_reservedWords position)
  rw [countedName]
  by_cases hcount : written.length = count
  · have hplace : position < written.length := hcount.symm ▸ hposition
    rw [if_pos hcount, if_pos hcount, List.getD_eq_getElem?_getD,
      List.getElem?_eq_getElem hplace, Option.getD_some]
    cases written[position] with
    | nil => exact hgiven.symm
    | cons c rest => rfl
  · rw [if_neg hcount, if_neg hcount, List.getD_eq_getElem?_getD,
      List.getElem?_replicate_of_lt hposition, Option.getD_some, hgiven]

/-! ## Function types -/

/-- The type shows a function type: it is that type or a pointer to it. -/
def CType.Shows (t f : CType) : Prop :=
  f.kind.isFunction = true ∧ (t = f ∨ t.kind = .pointer ∧ t.pointee = f)

/-- The function type behind a typedef: the one that the type as it is written shows, or, if that
    shows none, the one that its canonical type shows. -/
def CDeclaration.HasPrototype (d : CDeclaration) (f : CType) : Prop :=
  d.underlying.Shows f ∨ (∀ g, ¬ d.underlying.Shows g) ∧ d.underlying.canonical.Shows f

theorem CType.prototypeHere?_eq_some_iff {t f : CType} :
    t.prototypeHere? = some f ↔ t.Shows f := by
  rw [prototypeHere?, Shows]
  by_cases hpointer : t.kind = .pointer
  · have hother : t.kind.isFunction = true → False := by
      rw [hpointer]
      exact nofun
    rw [if_pos hpointer]
    constructor
    · intro h
      split at h
      · rename_i hfunction
        rw [← Option.some.inj h]
        exact ⟨hfunction, .inr ⟨hpointer, rfl⟩⟩
      · exact nomatch h
    · rintro ⟨hfunction, rfl | ⟨-, rfl⟩⟩
      · exact (hother hfunction).elim
      · exact if_pos hfunction
  · rw [if_neg hpointer]
    constructor
    · intro h
      split at h
      · rename_i hfunction
        rw [← Option.some.inj h]
        exact ⟨hfunction, .inl rfl⟩
      · exact nomatch h
    · rintro ⟨hfunction, rfl | ⟨hkind, -⟩⟩
      · exact if_pos hfunction
      · exact absurd hkind hpointer

/-- The function type that is looked for is the one behind the typedef. -/
theorem CDeclaration.prototype?_eq_some_iff {d : CDeclaration} {f : CType} :
    d.prototype? = some f ↔ d.HasPrototype f := by
  rw [prototype?, HasPrototype, ← CType.prototypeHere?_eq_some_iff,
    ← CType.prototypeHere?_eq_some_iff]
  cases hwritten : d.underlying.prototypeHere? with
  | none =>
      have hnone : ∀ g, ¬ d.underlying.Shows g := by
        intro g hg
        rw [CType.prototypeHere?_eq_some_iff.mpr hg] at hwritten
        exact nomatch hwritten
      exact ⟨fun h => .inr ⟨hnone, h⟩, fun h => h.elim nofun And.right⟩
  | some g =>
      refine ⟨.inl, fun h => h.elim id fun hcanonical => ?_⟩
      exact absurd (CType.prototypeHere?_eq_some_iff.mp hwritten) (hcanonical.1 g)

/-- What is called through a declaration: the type that is returned and those that are taken,
    of a function as they are declared, and of a callback by the function type behind it, which
    need not declare what is taken. -/
inductive CDeclaration.Calls : HeaderMode → CDeclaration → CType → List CType → Prop where
  | function (d : CDeclaration) : Calls .functions d d.type.result (d.arguments.map Prod.snd)
  | prototype {d : CDeclaration} {f : CType} :
      d.HasPrototype f → f.kind = .prototype → Calls .callbacks d f.result f.arguments
  | unprototyped {d : CDeclaration} {f : CType} :
      d.HasPrototype f → f.kind = .unprototyped → Calls .callbacks d f.result []

/-- The names that are written for parameters: those of the arguments of a function, and those of
    the parameters declared inside a callback. -/
def CDeclaration.writtenNames (mode : HeaderMode) (d : CDeclaration) : List Text :=
  match mode with
  | .functions => d.arguments.map Prod.fst
  | .callbacks => (d.inner.filter InnerDeclaration.isParameter).map InnerDeclaration.name

/-! ## One signature -/

/-- The signature has one parameter for each of the types, with the text of that type and the
    name that counts at its position. -/
structure Signature.Takes (word : WordSize) (s : Signature) (types : List CType)
    (written : List Text) : Prop where
  arity : s.parameters.length = types.length
  parameter : ∀ i p, s.parameters[i]? = some p → ∃ t, types[i]? = some t
    ∧ t.unmanaged? word = some p.type ∧ p.name = countedName written types.length i
  usable : ∀ p ∈ s.parameters, p.name ≠ [] ∧ p.name ∉ reservedWords

/-- Each parameter has the text of its argument's type and the name of its position. -/
theorem unmanagedArgumentsFrom?_getElem? {word : WordSize} {arguments : List (Text × CType)}
    {position : Nat} {parameters : List Parameter}
    (h : unmanagedArgumentsFrom? word position arguments = some parameters) :
    parameters.length = arguments.length
      ∧ ∀ i p, parameters[i]? = some p → ∃ name t, arguments[i]? = some (name, t)
        ∧ t.unmanaged? word = some p.type ∧ p.name = parameterName (position + i) name := by
  induction arguments generalizing position parameters with
  | nil =>
      cases h
      exact ⟨rfl, fun i p hp => nomatch hp⟩
  | cons argument rest ih =>
      obtain ⟨name, type⟩ := argument
      rw [unmanagedArgumentsFrom?] at h
      obtain ⟨text, htext, h⟩ := Option.bind_eq_some_iff.mp h
      obtain ⟨others, hothers, h⟩ := Option.bind_eq_some_iff.mp h
      cases h
      obtain ⟨hlength, hothers⟩ := ih hothers
      refine ⟨congrArg (· + 1) hlength, fun i p hp => ?_⟩
      cases i with
      | zero =>
          cases hp
          exact ⟨name, type, rfl, htext, rfl⟩
      | succ i =>
          obtain ⟨name', t, hargument, ht, hname⟩ := hothers i p hp
          exact ⟨name', t, hargument, ht, hname.trans (by rw [Nat.succ_add_eq_add_succ])⟩

/-- Arguments have no parameters only if one of their types has no text. -/
theorem exists_of_unmanagedArgumentsFrom?_eq_none {word : WordSize}
    {arguments : List (Text × CType)} {position : Nat}
    (h : unmanagedArgumentsFrom? word position arguments = none) :
    ∃ t ∈ arguments.map Prod.snd, t.unmanaged? word = none := by
  induction arguments generalizing position with
  | nil => cases h
  | cons argument rest ih =>
      obtain ⟨name, type⟩ := argument
      rw [unmanagedArgumentsFrom?] at h
      cases htype : type.unmanaged? word with
      | none => exact ⟨type, List.mem_cons_self, htype⟩
      | some text =>
          have hothers := Option.bind_eq_none_iff.mp h text htype
          cases hrest : unmanagedArgumentsFrom? word (position + 1) rest with
          | none =>
              obtain ⟨t, ht, hnone⟩ := ih hrest
              exact ⟨t, List.mem_cons_of_mem type ht, hnone⟩
          | some others => cases Option.bind_eq_none_iff.mp hothers others hrest

/-- The arguments of a callback are the types of its function type, with the names that count. -/
theorem CDeclaration.callbackArguments_eq (d : CDeclaration) {f : CType} {types : List CType}
    (htypes : (if f.kind = .prototype then f.arguments else []) = types) :
    (d.callbackArguments f).map Prod.snd = types
      ∧ (d.callbackArguments f).map Prod.fst
        = if (d.writtenNames .callbacks).length = types.length then d.writtenNames .callbacks
          else List.replicate types.length [] := by
  rw [callbackArguments, htypes, writtenNames]
  split
  · rename_i hcount
    exact ⟨List.map_snd_zip hcount.ge, List.map_fst_zip hcount.le⟩
  · rw [List.map_map, List.map_map]
    exact ⟨List.map_id types, List.map_const⟩

/-- Parameters made of arguments take the types of these, if the names of these count. -/
theorem Signature.takes_of_arguments {word : WordSize} {s : Signature}
    {arguments : List (Text × CType)} {written : List Text}
    (hparameters : unmanagedArguments? word arguments = some s.parameters)
    (hnames : arguments.map Prod.fst = if written.length = arguments.length then written
      else List.replicate arguments.length []) :
    s.Takes word (arguments.map Prod.snd) written := by
  obtain ⟨hlength, hall⟩ := unmanagedArgumentsFrom?_getElem? hparameters
  refine ⟨hlength.trans (List.length_map Prod.snd).symm, ?_, ?_⟩
  · intro i p hp
    obtain ⟨name, t, hargument, htext, hname⟩ := hall i p hp
    obtain ⟨hi, -⟩ := List.getElem?_eq_some_iff.mp hargument
    refine ⟨t, by rw [List.getElem?_map, hargument]; rfl, htext, ?_⟩
    rw [List.length_map, countedName_eq hi, ← hnames, List.getD_eq_getElem?_getD,
      List.getElem?_map, hargument, hname, Nat.zero_add]
    rfl
  · intro p hp
    obtain ⟨i, hi⟩ := List.mem_iff_getElem?.mp hp
    obtain ⟨name, -, -, -, hname⟩ := hall i p hi
    rw [hname]
    exact parameterName_usable (0 + i) name

/-- The signature of the given name that returns a type and takes arguments. -/
def signatureOf? (word : WordSize) (name : Text) (result : CType)
    (arguments : List (Text × CType)) : Option Signature := do
  let returnType ← result.unmanaged? word
  let parameters ← unmanagedArguments? word arguments
  return { name, returnType, parameters }

theorem signatureOf?_eq_some {word : WordSize} {name : Text} {result : CType}
    {arguments : List (Text × CType)} {s : Signature}
    (h : signatureOf? word name result arguments = some s) :
    s.name = name ∧ result.unmanaged? word = some s.returnType
      ∧ unmanagedArguments? word arguments = some s.parameters := by
  obtain ⟨returnType, hresult, h⟩ := Option.bind_eq_some_iff.mp h
  obtain ⟨parameters, hparameters, h⟩ := Option.bind_eq_some_iff.mp h
  cases h
  exact ⟨rfl, hresult, hparameters⟩

theorem exists_of_signatureOf?_eq_none {word : WordSize} {name : Text} {result : CType}
    {arguments : List (Text × CType)} (h : signatureOf? word name result arguments = none) :
    ∃ t ∈ result :: arguments.map Prod.snd, t.unmanaged? word = none := by
  cases hresult : result.unmanaged? word with
  | none => exact ⟨result, List.mem_cons_self, hresult⟩
  | some returnType =>
      have hparameters := Option.bind_eq_none_iff.mp h returnType hresult
      cases harguments : unmanagedArguments? word arguments with
      | none =>
          obtain ⟨t, ht, hnone⟩ := exists_of_unmanagedArgumentsFrom?_eq_none harguments
          exact ⟨t, List.mem_cons_of_mem result ht, hnone⟩
      | some parameters =>
          exact nomatch Option.bind_eq_none_iff.mp hparameters parameters harguments

/-- Something is called through every declaration of interest. -/
theorem CDeclaration.exists_calls {mode : HeaderMode} {d : CDeclaration}
    (h : d.isEligible mode = true) : ∃ result types, d.Calls mode result types := by
  cases mode with
  | functions => exact ⟨_, _, .function d⟩
  | callbacks =>
      obtain ⟨f, hf⟩ := Option.isSome_iff_exists.mp (Bool.and_eq_true_iff.mp h).2
      have hprototype := prototype?_eq_some_iff.mp hf
      have hfunction : f.kind.isFunction = true := hprototype.elim And.left (·.2.1)
      cases hkind : f.kind with
      | prototype => exact ⟨_, _, .prototype hprototype hkind⟩
      | unprototyped => exact ⟨_, _, .unprototyped hprototype hkind⟩
      | _ => rw [hkind] at hfunction; exact nomatch hfunction

/-- What is called through a declaration says of which arguments its signature is made. -/
theorem CDeclaration.Calls.signature?_eq {mode : HeaderMode} {d : CDeclaration}
    {result : CType} {types : List CType} (h : d.Calls mode result types) :
    ∃ arguments : List (Text × CType), arguments.map Prod.snd = types
      ∧ arguments.map Prod.fst
        = (if (d.writtenNames mode).length = types.length then d.writtenNames mode
          else List.replicate types.length [])
      ∧ ∀ word, d.signature? word mode = signatureOf? word d.name result arguments := by
  have hcallback {f : CType} (hf : d.HasPrototype f) (word : WordSize) :
      d.signature? word .callbacks = signatureOf? word d.name f.result (d.callbackArguments f) := by
    rw [signature?, prototype?_eq_some_iff.mpr hf, Option.bind_some]
    rfl
  cases h with
  | function =>
      refine ⟨d.arguments, rfl, ?_, fun _ => rfl⟩
      rw [writtenNames, if_pos (by rw [List.length_map, List.length_map])]
  | prototype hf hkind =>
      obtain ⟨htypes, hnames⟩ := d.callbackArguments_eq (if_pos hkind)
      exact ⟨_, htypes, hnames, hcallback hf⟩
  | unprototyped hf hkind =>
      have hother : ¬ CTypeKind.unprototyped = .prototype := by decide
      obtain ⟨htypes, hnames⟩ := d.callbackArguments_eq (if_neg (hkind ▸ hother))
      exact ⟨_, htypes, hnames, hcallback hf⟩

/-- **One signature.**  Where something is called through a declaration, the signature has its
    name and one parameter for each type that is taken; there is none only if one of the types
    has no text. -/
theorem CDeclaration.Calls.signature {word : WordSize} {mode : HeaderMode} {d : CDeclaration}
    {result : CType} {types : List CType} (h : d.Calls mode result types) :
    (∀ s, d.signature? word mode = some s → s.name = d.name
        ∧ result.unmanaged? word = some s.returnType
        ∧ s.Takes word types (d.writtenNames mode))
      ∧ (d.signature? word mode = none → ∃ t ∈ result :: types, t.unmanaged? word = none) := by
  obtain ⟨arguments, rfl, hnames, hsignature⟩ := h.signature?_eq
  rw [List.length_map] at hnames
  rw [hsignature]
  constructor
  · intro s hs
    obtain ⟨hname, hresult, hparameters⟩ := signatureOf?_eq_some hs
    exact ⟨hname, hresult, Signature.takes_of_arguments hparameters hnames⟩
  · exact exists_of_signatureOf?_eq_none

/-! ## All signatures of a header -/

/-- Only a front end that answers makes a header readable. -/
theorem HeaderRequest.exists_unit_of_read {r : HeaderRequest} {folder : Folder}
    {frontEnd : FrontEnd} {kept : List CDeclaration}
    (h : (r.read folder frontEnd).result = .ok kept) : ∃ unit, frontEnd = .answers unit := by
  cases frontEnd with
  | answers unit => exact ⟨unit, rfl⟩
  | unavailable message => rw [read] at h; split at h <;> cases h
  | refuses message => rw [read] at h; split at h <;> cases h

/-- Something is called through every declaration that was kept. -/
theorem HeaderRequest.exists_calls_of_read {r : HeaderRequest} {folder : Folder}
    {frontEnd : FrontEnd} {kept : List CDeclaration}
    (h : (r.read folder frontEnd).result = .ok kept) {d : CDeclaration} (hd : d ∈ kept) :
    ∃ result types, d.Calls r.mode result types := by
  obtain ⟨unit, rfl⟩ := exists_unit_of_read h
  rw [read_eq_ok h] at hd
  exact CDeclaration.exists_calls
    (CDeclaration.verdict_eq_kept_iff.mp (mem_collectDeclarations_iff.mp hd).2.1)

/-- **The parameters of a header's signatures.**  Behind every declaration of a header that was
    read there is a function type.  Whatever is done to the source before, a signature that it
    answers with has the name of the declaration it is at and one parameter for each type that is
    called with, each with the text of that type, and with the name that is written for it if as
    many names are written as there are types, or else a number; no name is empty or reserved.
    A fault says that one of the types has no text. -/
theorem Source.header_parameters {r : HeaderRequest} {folder : Folder} {frontEnd : FrontEnd}
    {kept : List CDeclaration} (hread : (r.read folder frontEnd).result = .ok kept)
    (o : TypePolicy) :
    (∀ d ∈ kept, r.mode = .callbacks → ∃ f, d.HasPrototype f)
      ∧ ∀ course,
        let source := ofDeclarations kept r.mode o
        (∀ s, (source.after course).next.1 = .ok (some s) →
          ∃ d result types, kept[source.place 0 course]? = some d ∧ d.Calls r.mode result types
            ∧ s.name = d.name ∧ s.Takes o.word types (d.writtenNames r.mode))
        ∧ ∀ fault, (source.after course).next.1 = .error fault →
          ∃ d result types, kept[source.place 0 course]? = some d ∧ d.Calls r.mode result types
            ∧ ∃ t ∈ result :: types, t.unmanaged? o.word = none := by
  constructor
  · intro d hd hmode
    obtain ⟨result, types, hcalls⟩ := r.exists_calls_of_read hread hd
    rw [hmode] at hcalls
    cases hcalls with
    | prototype hf _ => exact ⟨_, hf⟩
    | unprototyped hf _ => exact ⟨_, hf⟩
  · intro course source
    have hanswer := answer_after (.header kept r.mode o) course
    have houtcomes : source.outcomes = kept.map (CDeclaration.signature o.word r.mode) := rfl
    rw [outcome?_of_keeps (s := source) rfl, houtcomes, List.getElem?_map] at hanswer
    cases hplace : kept[source.place 0 course]? with
    | none =>
        rw [hplace] at hanswer
        constructor
        · intro s hs
          cases hs.symm.trans hanswer
        · intro fault hfault
          cases hfault.symm.trans hanswer
    | some d =>
        obtain ⟨result, types, hcalls⟩ :=
          r.exists_calls_of_read hread (List.mem_of_getElem? hplace)
        obtain ⟨hsome, hnone⟩ := hcalls.signature
        rw [hplace, Option.map_some, CDeclaration.signature] at hanswer
        cases hsignature : d.signature? o.word r.mode with
        | none =>
            rw [hsignature] at hanswer
            constructor
            · intro s hs
              cases hs.symm.trans hanswer
            · intro fault _
              exact ⟨d, result, types, rfl, hcalls, hnone hsignature⟩
        | some t =>
            rw [hsignature] at hanswer
            constructor
            · intro s hs
              cases hs.symm.trans hanswer
              obtain ⟨hname, -, htakes⟩ := hsome t hsignature
              exact ⟨d, result, types, rfl, hcalls, hname, htakes⟩
            · intro fault hfault
              cases hfault.symm.trans hanswer

/-- The type `int (int, int, int)`. -/
def seekPrototype : CType :=
  .mk .prototype "int (int, int, int)".toList none none none none (some intType)
    [intType, intType, intType] false

/-- A callback: `typedef int (*seek_t)(int in, int, int count);`. -/
def seekCallback : CDeclaration where
  kind := .typeAlias
  name := "seek_t".toList
  underlying := .mk .pointer "int (*)(int, int, int)".toList (some seekPrototype) none none none
    none [] false
  inner := [⟨true, "in".toList⟩, ⟨true, []⟩, ⟨true, "count".toList⟩]

/-- The callback under another name, with nothing declared inside: `typedef seek_t other_t;`. -/
def otherCallback : CDeclaration where
  kind := .typeAlias
  name := "other_t".toList
  underlying := .mk .typeAlias "seek_t".toList none none none (some seekCallback.underlying) none []
    false

/-- A header with both callbacks. -/
def headerWithCallbacks : HeaderUnit where
  declarations := [seekCallback, otherCallback]

/-- The signature of the other callback numbers all its parameters. -/
def otherSignature : Signature where
  name := "other_t".toList
  returnType := "int".toList
  parameters := [⟨"int".toList, "param0".toList⟩, ⟨"int".toList, "param1".toList⟩,
    ⟨"int".toList, "param2".toList⟩]

/-- Behind the first signature, whose names are written, comes one whose parameters are numbered. -/
theorem Source.header_parameters_other :
    ((requestForHeader .callbacks).read folderWithHeader (.answers headerWithCallbacks)).result
        = .ok [seekCallback, otherCallback]
      ∧ ((ofDeclarations [seekCallback, otherCallback] .callbacks {}).after [.next]).next.1
        = .ok (some otherSignature)
      ∧ ∃ d result types, [seekCallback, otherCallback][1]? = some d
        ∧ d.Calls .callbacks result types
        ∧ otherSignature.Takes .intPtr types (d.writtenNames .callbacks) := by
  have hread : ((requestForHeader .callbacks).read folderWithHeader
      (.answers headerWithCallbacks)).result = .ok [seekCallback, otherCallback] := rfl
  have hanswer : ((ofDeclarations [seekCallback, otherCallback] .callbacks {}).after
      [.next]).next.1 = .ok (some otherSignature) := rfl
  obtain ⟨d, result, types, hplace, hcalls, -, htakes⟩ :=
    ((Source.header_parameters hread {}).2 [.next]).1 otherSignature hanswer
  exact ⟨hread, hanswer, d, result, types, hplace, hcalls, htakes⟩

/-- The names of the first callback are escaped, numbered and written. -/
example : (seekCallback.signature? .intPtr .callbacks).map Signature.parameters
    = some seekParameters := rfl

end PointerBindings
