import PointerBindings.Proofs.Catalog.SearchPaths
import PointerBindings.Proofs.Source.Course

/-! # Translation — what was read can be spelled

    Every name that a member refers to is divided when a catalog is read, so it is on one
    line, and whatever is made of it on the way to its text is on one line again
    (`TypeReference.dividesThroughout`).  Every delegate that is selected was read together
    with the way it is called.  So a source over a catalog that was read can always go on,
    but for one case: the full name of a delegate is divided for its signature only, and
    one that goes on behind a line feed was read if its element gives the namespace
    (`Catalog.translation_total`). -/

namespace PointerBindings

open Text Xml

/-! ## Names on the way to their text -/

/-- The name can be divided, into the base and the markers that it consists of. -/
def Divides (name : Text) : Prop :=
  ∃ base markers, divideName? name = some (base, markers) ∧ name = base ++ spellMarkers markers

theorem divides_of_oneLine {name : Text} (h : '\n' ∉ name) : Divides name :=
  ⟨_, _, divideName?_of_oneLine h, eq_of_divideLine name⟩

/-- The name of a type can be divided at every stage on the way to its text: as it stands, without
    its namespace, and spelled natively. -/
structure TypeReference.DividesThroughout (t : TypeReference) (o : TypePolicy) : Prop where
  full : Divides t.fullName
  stages : ∃ plain native, plainName? t = some plain ∧ Divides plain
    ∧ nativeName? o t plain = some native ∧ Divides native

/-- **No stage breaks a line**, and a name on one line can be divided. -/
theorem TypeReference.dividesThroughout {t : TypeReference} (hline : '\n' ∉ t.fullName)
    (o : TypePolicy) : t.DividesThroughout o where
  full := divides_of_oneLine hline
  stages := by
    have hplain : IsStem t.plainBase := t.plainBase_endsClear.isStem (plainBase_oneLine hline)
    have hnative : IsStem (t.spelledBase o) := spelledBase_isStem hline o
    exact ⟨_, _, plainName?_eq hline, divides_of_oneLine (hplain.oneLine_append _),
      nativeName?_eq o t.plainBase_endsClear (plainBase_oneLine hline) _,
      divides_of_oneLine (hnative.oneLine_append _)⟩

/-! ## Catalogs that were read -/

section Read

variable {c : Catalog} {root : Element}

/-- A full name that goes on behind a line feed is only read where the namespace is given, since
    no namespace can be read off it. -/
theorem Declaration.ReadFrom.gives_namespace {d : Declaration} {e : Element} (h : d.ReadFrom e)
    (hline : '\n' ∈ d.fullName) : ∃ value, e.attribute? "namespace".toList = some value := by
  have hnamespace := h.namespaceName
  rw [declaredNamespace] at hnamespace
  cases hgiven : e.attribute? "namespace".toList with
  | some value => exact ⟨value, rfl⟩
  | none =>
      rw [hgiven] at hnamespace
      dsimp only at hnamespace
      cases hdivide : divideName? d.fullName with
      | none =>
          rw [namespaceOf?, hdivide] at hnamespace
          exact nomatch hnamespace
      | some parts => exact absurd hline (oneLine_of_divideName? h.isTrimmed_fullName hdivide).1

/-- Every reference of a member can be divided throughout. -/
theorem Catalog.ReadFrom.dividesThroughout (h : c.ReadFrom root) (path : Option Text)
    (o : TypePolicy) :
    ∀ m ∈ c.imports path ++ (c.delegates path).filterMap DeclaredType.invoke,
      ∀ t ∈ m.references, t.DividesThroughout o := by
  intro m hm t ht
  refine TypeReference.dividesThroughout ?_ o
  rcases List.mem_append.mp hm with himport | hdelegate
  · exact forall_of_forall₂ (h.imports path) (fun m _ hread =>
      hread.toCallReadFrom.references_oneLine) m himport t ht
  · obtain ⟨d, hd, hm⟩ := List.mem_filterMap.mp hdelegate
    obtain ⟨m', e, hm', hread⟩ := h.invocation_of_delegate d hd
    obtain rfl := Option.some.inj (hm.symm.trans hm')
    exact hread.toCallReadFrom.references_oneLine t ht

end Read

/-! ## Cursors -/

namespace Cursor

variable {α : Type} {spell : α → Outcome} {c : Cursor α}

/-- One question leaves a cursor at the place that is counted with its answer. -/
theorem next_drop {before : Nat} (h : c.pending = c.all.drop before) :
    (c.next spell).2 = ⟨c.all, c.all.drop
      (if (c.next spell).1.movesOn false then before + 1 else before)⟩ := by
  obtain ⟨all, pending⟩ := c
  change pending = all.drop before at h
  cases pending with
  | nil =>
      show Cursor.mk all [] = ⟨all, all.drop before⟩
      rw [← h]
  | cons member rest =>
      have hrest : all.drop (before + 1) = rest := by
        rw [← List.tail_drop, ← h, List.tail_cons]
      have hnext : next spell ⟨all, member :: rest⟩ = match spell member with
        | .ok signature => (.ok (some signature), ⟨all, rest⟩)
        | .error fault => (.error fault, ⟨all, member :: rest⟩) := rfl
      rw [hnext]
      cases spell member with
      | ok signature =>
          show Cursor.mk all rest = ⟨all, all.drop (before + 1)⟩
          rw [hrest]
      | error fault =>
          show Cursor.mk all (member :: rest) = ⟨all, all.drop before⟩
          rw [h]

/-- A cursor answers with a fault exactly if the member that it is at is at fault. -/
theorem next_eq_fault_iff {fault : SourceFault} :
    (c.next spell).1 = .error fault ↔ ∃ member ∈ c.pending.head?, spell member = .error fault := by
  rw [(next_first spell c).1, Source.answerOf_eq_fault_iff, List.head?_map, Option.map_eq_some_iff]
  rfl

/-- A fault leaves a cursor in its place. -/
theorem next_of_fault {fault : SourceFault} (h : (c.next spell).1 = .error fault) :
    (c.next spell).2 = c := by
  rw [next] at h ⊢
  split at h
  · rfl
  · split at h
    · exact nomatch h
    · rfl

end Cursor

/-- **Whatever is done to a source over delegates**, it walks the same delegates and stands at the
    place that is counted by its answers. -/
theorem Source.after_delegates (o : TypePolicy) {cursor : Cursor DeclaredType} {before : Nat}
    (course : List SourceStep) (h : cursor.pending = cursor.all.drop before) :
    (Source.delegates o cursor).after course = .delegates o
      ⟨cursor.all, cursor.all.drop ((Source.delegates o cursor).place before course)⟩ := by
  induction course generalizing cursor before with
  | nil =>
      obtain ⟨all, pending⟩ := cursor
      obtain rfl : pending = all.drop before := h
      rfl
  | cons step course ih =>
      cases step with
      | next =>
          have hstep : (Source.delegates o cursor).next.2
              = .delegates o ⟨cursor.all, cursor.all.drop
                (if (Source.delegates o cursor).next.1.movesOn false then before + 1 else before)⟩ :=
            congrArg (Source.delegates o) (Cursor.next_drop h)
          show (Source.delegates o cursor).next.2.after course = .delegates o
            ⟨cursor.all, cursor.all.drop ((Source.delegates o cursor).next.2.place
              (if (Source.delegates o cursor).next.1.movesOn false then before + 1 else before)
              course)⟩
          rw [hstep]
          exact ih rfl
      | reset => exact ih rfl

/-! ## Translation -/

/-- **Translation is total** over a catalog that was read.  In any course a source over its imported
    methods has no fault to answer, and one over its delegates has none but where the delegate that
    it is at has a full name that goes on behind a line feed; there it stays.  Such a name is only
    read from an element that gives the namespace.  Every delegate that is selected comes with the
    way it is called, and every name that is looked at for a signature can be divided. -/
theorem Catalog.translation_total {root : Element} {c : Catalog}
    (hread : Catalog.ofElement root = .ok c) (path : Option Text) (o : TypePolicy) :
    (∀ (course : List SourceStep) (fault : SourceFault),
        ((Source.ofImports c path o).after course).next.1 ≠ .error fault)
      ∧ (∀ course : List SourceStep, ∃ cursor : Cursor DeclaredType,
          (Source.ofDelegates c path o).after course = .delegates o cursor
          ∧ cursor.all = c.delegates path
          ∧ cursor.pending = cursor.all.drop ((Source.ofDelegates c path o).place 0 course)
          ∧ (∀ fault, (Source.delegates o cursor).next.1 = .error fault
            ↔ fault = .undividedName ∧ ∃ d ∈ cursor.pending.head?, '\n' ∈ d.fullName)
          ∧ ∀ fault, (Source.delegates o cursor).next.1 = .error fault →
              (Source.delegates o cursor).next.2 = .delegates o cursor)
      ∧ List.Forall₂ (fun (t : DeclaredType) e => '\n' ∈ t.fullName →
          ∃ value, e.attribute? "namespace".toList = some value) c.types root.typeElements
      ∧ c.delegates path = MemberKind.delegates.selected c path
      ∧ (∀ d ∈ c.delegates path, ∃ m, d.invoke = some m)
      ∧ ∀ m ∈ c.imports path ++ (c.delegates path).filterMap DeclaredType.invoke,
          ∀ t ∈ m.references, t.DividesThroughout o := by
  have hc := Catalog.ofElement_eq_ok_iff.mp hread
  refine ⟨?_, ?_, ?_, (MemberKind.selected_delegates c path).symm, ?_, hc.dividesThroughout path o⟩
  · intro course fault hfault
    rw [Source.answer_after (.imports c path o), Source.outcome?_of_keeps rfl] at hfault
    have hmem := List.mem_of_getElem? (Source.answerOf_eq_fault_iff.mp hfault)
    obtain ⟨m, hm, hspelled⟩ := List.mem_map.mp hmem
    obtain ⟨s, hs⟩ := hc.importSignature o hm
    exact nomatch hs.symm.trans hspelled
  · intro course
    refine ⟨_, Source.after_delegates o course rfl, rfl, rfl, fun fault => ?_,
      fun fault hfault => ?_⟩
    · show (Cursor.next (DeclaredType.delegateSignature o) _).1 = .error fault ↔ _
      rw [Cursor.next_eq_fault_iff]
      -- whatever the cursor is at is one of the delegates
      have hmember {d : DeclaredType} (hd : d ∈ ((c.delegates path).drop
          ((Source.ofDelegates c path o).place 0 course)).head?) : d ∈ c.delegates path :=
        List.mem_of_mem_drop (List.mem_of_mem_head? hd)
      constructor
      · rintro ⟨d, hd, hfault⟩
        obtain ⟨hundivided, hline⟩ :=
          (hc.delegateSignature_eq_error_iff o (hmember hd)).mp hfault
        exact ⟨hundivided, d, hd, hline⟩
      · rintro ⟨hundivided, d, hd, hline⟩
        exact ⟨d, hd, (hc.delegateSignature_eq_error_iff o (hmember hd)).mpr ⟨hundivided, hline⟩⟩
    · exact congrArg (Source.delegates o) (Cursor.next_of_fault hfault)
  · exact hc.types.imp fun t e ht => ht.declaration.gives_namespace
  · intro d hd
    obtain ⟨m, -, hm, -⟩ := hc.invocation_of_delegate d hd
    exact ⟨m, hm⟩

/-- Two delegates, the second of a name that goes on behind a line feed. -/
def brokenAssembly : Element :=
  .node "assembly".toList []
    [.node "type".toList [("fullName".toList, "N.Whole".toList),
        ("kind".toList, "delegate".toList)] [],
      .node "type".toList [("fullName".toList, "N.Bro\nken".toList),
        ("kind".toList, "delegate".toList), ("namespace".toList, "N".toList)] []]

/-- The catalog that `brokenAssembly` is. -/
def brokenCatalog : Catalog where
  types :=
    [MemberKind.plainDelegate "N.Whole".toList "N".toList,
      MemberKind.plainDelegate "N.Bro\nken".toList "N".toList]

/-- Behind the first delegate the source stays at the second. -/
theorem Catalog.translation_total_broken :
    Catalog.ofElement brokenAssembly = .ok brokenCatalog
      ∧ (∀ course fault, ((Source.ofImports brokenCatalog none {}).after course).next.1
        ≠ .error fault)
      ∧ ∃ cursor, (Source.ofDelegates brokenCatalog none {}).after [.next] = .delegates {} cursor
        ∧ (Source.delegates {} cursor).next = (.error .undividedName, .delegates {} cursor) := by
  have hread : Catalog.ofElement brokenAssembly = .ok brokenCatalog := rfl
  obtain ⟨himports, hdelegates, -⟩ := Catalog.translation_total hread none {}
  obtain ⟨cursor, hafter, hall, hpending, hfaults, hstays⟩ := hdelegates [.next]
  have hbroken : ∃ d ∈ cursor.pending.head?, '\n' ∈ d.fullName := by
    rw [hpending, hall]
    exact ⟨_, rfl, by decide⟩
  have hfault := (hfaults .undividedName).mpr ⟨rfl, hbroken⟩
  exact ⟨hread, himports, cursor, hafter, Prod.ext hfault (hstays _ hfault)⟩

end PointerBindings
