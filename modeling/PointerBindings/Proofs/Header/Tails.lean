import PointerBindings.Proofs.Header.Collection
import PointerBindings.Proofs.Source.Course

/-! # Tails — functions that take more than they declare

    A signature has no place for the tail of a variadic function, and such a function is not
    to be called through one.  A header source looks for the tail only in the type of a
    function as it is written, so it answers with the signature of a variadic function just
    where the tail is not seen there: behind a typedef, and behind every callback
    (`HeaderRequest.tail_answered_iff`). -/

namespace PointerBindings

open Text

/-- The type is that of a function that takes more than it declares. -/
def CType.isVariadicPrototype (t : CType) : Bool :=
  t.kind = .prototype && t.isVariadic

/-- The function type of a declaration: that of a function, all typedefs seen through, and the
    one found behind a callback. -/
def CDeclaration.functionType? : HeaderMode → CDeclaration → Option CType
  | .functions, d => some d.type.canonical
  | .callbacks, d => d.prototype?

/-- The function type of the declaration has a tail. -/
def CDeclaration.HasTail (mode : HeaderMode) (d : CDeclaration) : Prop :=
  ∃ t, d.functionType? mode = some t ∧ t.isVariadicPrototype = true

/-- A tail of the declaration is not seen: nobody looks for one behind a typedef, and a function
    shows none in its type as it is written. -/
def CDeclaration.TailUnseen : HeaderMode → CDeclaration → Prop
  | .functions, d => d.kind = .function ∧ d.type.isVariadicPrototype = false
  | .callbacks, d => d.kind = .typeAlias

/-! ## One declaration -/

/-- A declaration with a tail is of interest exactly if the tail is not seen. -/
theorem CDeclaration.verdict_kept_iff_of_hasTail {mode : HeaderMode} {d : CDeclaration}
    (h : d.HasTail mode) : d.verdict mode = .kept ↔ d.TailUnseen mode := by
  obtain ⟨t, ht, -⟩ := h
  cases mode with
  | functions =>
      rw [verdict, TailUnseen]
      by_cases hkind : d.kind = .function
      · rw [if_neg (not_not.mpr hkind)]
        cases hwritten : d.isVariadicFunction with
        | true =>
            exact ⟨(nomatch ·), fun hunseen => nomatch hwritten.symm.trans hunseen.2⟩
        | false => exact ⟨fun _ => ⟨hkind, hwritten⟩, fun _ => rfl⟩
      · rw [if_pos hkind]
        exact ⟨(nomatch ·), fun hunseen => absurd hunseen.1 hkind⟩
  | callbacks =>
      have hfound : d.prototype?.isSome = true := Option.isSome_of_eq_some ht
      rw [verdict, TailUnseen, hfound, Bool.and_true]
      by_cases hkind : d.kind = .typeAlias
      · rw [decide_eq_true hkind]
        exact ⟨fun _ => hkind, fun _ => rfl⟩
      · rw [decide_eq_false hkind]
        exact ⟨(nomatch ·), fun hunseen => absurd hunseen hkind⟩

/-- The outcome for a declaration is a signature exactly if it has that one. -/
theorem CDeclaration.signature_eq_ok_iff {word : WordSize} {mode : HeaderMode}
    {d : CDeclaration} {s : Signature} :
    d.signature word mode = .ok s ↔ d.signature? word mode = some s := by
  rw [signature]
  cases d.signature? word mode with
  | none => exact ⟨(nomatch ·), (nomatch ·)⟩
  | some t => exact ⟨fun h => by cases h; rfl, fun h => by cases h; rfl⟩

/-! ## All declarations -/

/-- A name that is kept once is that of one place only. -/
theorem eq_length_of_kept_once {before after : List CDeclaration} {d : CDeclaration}
    (hnodup : ((before ++ d :: after).map CDeclaration.name).Nodup) {i : Nat} :
    (before ++ d :: after)[i]? = some d ↔ i = before.length := by
  have hplace := getElem?_length_append_cons before d after
  constructor
  · intro hi
    obtain ⟨hlt, -⟩ := List.getElem?_eq_some_iff.mp hi
    refine (List.getElem?_inj (by rwa [List.length_map]) hnodup).mp ?_
    rw [List.getElem?_map, List.getElem?_map, hi, hplace]
  · rintro rfl
    exact hplace

/-- What is kept before a declaration is all that is met before its name. -/
theorem takeWhile_name_ne {before after : List CDeclaration} {d : CDeclaration}
    (hnodup : ((before ++ d :: after).map CDeclaration.name).Nodup) :
    (before ++ d :: after).takeWhile (fun e => e.name ≠ d.name) = before := by
  have hbefore : ∀ e ∈ before, decide (e.name ≠ d.name) = true := by
    rw [List.map_append, List.map_cons] at hnodup
    intro e he
    exact decide_eq_true
      ((List.nodup_append.mp hnodup).2.2 _ (List.mem_map_of_mem he) _ List.mem_cons_self)
  rw [List.takeWhile_append_of_pos hbefore, List.takeWhile_cons_of_neg (by simp), List.append_nil]

/-- A header source answers with the signature of a declaration exactly if all that are kept
    before it have signatures. -/
theorem Source.declaration_answered_iff {kept : List CDeclaration} (mode : HeaderMode)
    (o : TypePolicy) (hnodup : (kept.map CDeclaration.name).Nodup) (d : CDeclaration)
    (s : Signature) :
    (∃ course, kept[(ofDeclarations kept mode o).place 0 course]? = some d
        ∧ ((ofDeclarations kept mode o).after course).next.1 = .ok (some s))
      ↔ d ∈ kept ∧ d.signature? o.word mode = some s
        ∧ ∀ e ∈ kept.takeWhile (fun e => e.name ≠ d.name),
            ∃ t, e.signature? o.word mode = some t := by
  by_cases hd : d ∈ kept
  · obtain ⟨before, after, rfl⟩ := List.append_of_mem hd
    have houtcomes : (ofDeclarations (before ++ d :: after) mode o).outcomes
        = before.map (CDeclaration.signature o.word mode)
          ++ d.signature o.word mode :: after.map (CDeclaration.signature o.word mode) := by
      rw [← List.map_cons, ← List.map_append]
      rfl
    have hanswered := signature_answered_iff (.header _ mode o) rfl houtcomes s
    rw [List.length_map, CDeclaration.signature_eq_ok_iff, List.forall_mem_map] at hanswered
    simp only [CDeclaration.signature_eq_ok_iff] at hanswered
    simp only [eq_length_of_kept_once hnodup, takeWhile_name_ne hnodup]
    exact hanswered.trans (and_iff_right hd).symm
  · constructor
    · rintro ⟨course, hplace, -⟩
      exact absurd (List.mem_of_getElem? hplace) hd
    · rintro ⟨hmem, -⟩
      exact absurd hmem hd

/-- **Where a tail gets lost.**  Of a declaration whose function type has a tail, a header source
    answers with the signature exactly if the tail is not seen, the declaration lies in the
    header and is led by none of its name, and nothing before it keeps the source. -/
theorem HeaderRequest.tail_answered_iff {r : HeaderRequest} {folder : Folder} {unit : HeaderUnit}
    {kept : List CDeclaration} (hread : (r.read folder (.answers unit)).result = .ok kept)
    (o : TypePolicy) {d : CDeclaration} (htail : d.HasTail r.mode) (s : Signature) :
    (∃ course, kept[(Source.ofDeclarations kept r.mode o).place 0 course]? = some d
        ∧ ((Source.ofDeclarations kept r.mode o).after course).next.1 = .ok (some s))
      ↔ (d.TailUnseen r.mode ∧ d.Leads r.mode (r.ownDeclarations folder unit))
        ∧ d.signature? o.word r.mode = some s
        ∧ ∀ e ∈ kept.takeWhile (fun e => e.name ≠ d.name),
            ∃ t, e.signature? o.word r.mode = some t := by
  have hkept := read_eq_ok hread
  have hnodup : (kept.map CDeclaration.name).Nodup := hkept ▸ collectDeclarations_nodup _ _ _
  have hmem : d ∈ kept
      ↔ d.TailUnseen r.mode ∧ d.Leads r.mode (r.ownDeclarations folder unit) := by
    rw [hkept, mem_collectDeclarations_iff, CDeclaration.verdict_kept_iff_of_hasTail htail]
    exact and_iff_right List.not_mem_nil
  rw [Source.declaration_answered_iff r.mode o hnodup, hmem]

/-- The type `void`. -/
def voidType : CType :=
  .mk (.builtin .void) "void".toList none none none none none [] false

/-- The type `const char *`. -/
def textType : CType :=
  .mk .pointer "const char *".toList
    (some (.mk (.builtin .charSigned) "const char".toList none none none none none [] false))
    none none none none [] false

/-- The type `void (const char *, ...)`. -/
def logPrototype : CType :=
  .mk .prototype "void (const char *, ...)".toList none none none none (some voidType) [textType]
    true

/-- A callback: `typedef void log_t(const char *format, ...);`. -/
def logType : CDeclaration where
  kind := .typeAlias
  name := "log_t".toList
  underlying := logPrototype
  inner := [⟨true, "format".toList⟩]

/-- A function of that type: `log_t write_log;`. -/
def logFunction : CDeclaration where
  kind := .function
  name := "write_log".toList
  type := .mk .typeAlias "log_t".toList none none none (some logPrototype) (some voidType) [] false
  arguments := [([], textType)]

/-- A header with the callback and the function. -/
def headerWithTails : HeaderUnit where
  declarations := [logType, logFunction]

/-- A folder with a header in it. -/
def folderWithHeader : Folder where
  entries := [(["api.h".toList], .file [])]

/-- The header is asked for. -/
def requestForHeader (mode : HeaderMode) : HeaderRequest where
  path := "api.h".toList
  mode := mode

/-- The signature of the callback. -/
def logTypeSignature : Signature where
  name := "log_t".toList
  returnType := "void".toList
  convention := none
  parameters := [⟨"byte*".toList, "format".toList⟩]

/-- The signature of the function. -/
def logFunctionSignature : Signature where
  name := "write_log".toList
  returnType := "void".toList
  convention := none
  parameters := [⟨"byte*".toList, "param0".toList⟩]

/-- The callback is answered with its signature. -/
theorem HeaderRequest.tail_answered_callback :
    ((requestForHeader .callbacks).read folderWithHeader (.answers headerWithTails)).result
        = .ok [logType]
      ∧ logType.HasTail .callbacks
      ∧ ∃ course, [logType][(Source.ofDeclarations [logType] .callbacks {}).place 0 course]?
          = some logType
        ∧ ((Source.ofDeclarations [logType] .callbacks {}).after course).next.1
          = .ok (some logTypeSignature) := by
  have hread : ((requestForHeader .callbacks).read folderWithHeader
      (.answers headerWithTails)).result = .ok [logType] := rfl
  have htail : logType.HasTail .callbacks := ⟨logPrototype, rfl, rfl⟩
  refine ⟨hread, htail, (HeaderRequest.tail_answered_iff hread {} htail _).mpr ⟨⟨rfl, ?_⟩, rfl, ?_⟩⟩
  · exact ⟨[], [logFunction], rfl, fun e he => nomatch he⟩
  · exact fun e he => nomatch he

/-- No answer of the source over the declarations is the signature of one with a tail. -/
def LeavesTailsOut (kept : List CDeclaration) (mode : HeaderMode) (o : TypePolicy) : Prop :=
  ∀ course d s, kept[(Source.ofDeclarations kept mode o).place 0 course]? = some d →
    ((Source.ofDeclarations kept mode o).after course).next.1 = .ok (some s) → ¬ d.HasTail mode

/-- In either mode, a header that is read yields a source that answers with the signature of a
    declaration with a tail. -/
theorem HeaderRequest.tails_get_lost :
    (((requestForHeader .callbacks).read folderWithHeader (.answers headerWithTails)).result
        = .ok [logType] ∧ ¬ LeavesTailsOut [logType] .callbacks {})
      ∧ ((requestForHeader .functions).read folderWithHeader (.answers headerWithTails)).result
        = .ok [logFunction] ∧ ¬ LeavesTailsOut [logFunction] .functions {} := by
  refine ⟨⟨rfl, fun h => ?_⟩, rfl, fun h => ?_⟩
  · exact h [] logType logTypeSignature rfl rfl ⟨logPrototype, rfl, rfl⟩
  · exact h [] logFunction logFunctionSignature rfl rfl ⟨logPrototype, rfl, rfl⟩

end PointerBindings
