import PointerBindings.Proofs.Catalog.Callbacks
import PointerBindings.Proofs.Generation.Passes

/-! # Division — which members of a catalog have no signature

    Every name that a catalog refers to was divided when it was read, so what a method returns
    and takes can be spelled.  The full name of a type is not: it is divided for the signature of
    a delegate, and one that goes on behind a line feed has no simple name.  So the signatures of
    a catalog are gathered to the last one, unless there is a delegate of such a name among them
    (`MemberKind.gathered_eq_error_iff`). -/

namespace PointerBindings

open Text Xml

/-! ## Names on one line -/

/-- A parameter whose type is on one line has a text. -/
theorem ReflectedParameter.exists_unmanaged {q : ReflectedParameter}
    (hline : '\n' ∉ q.type.fullName) (o : TypePolicy) : ∃ p, q.unmanaged? o = some p := by
  obtain ⟨text, htext⟩ := q.type.exists_text hline o
  rw [unmanaged?, typeText?, htext]
  exact ⟨_, rfl⟩

/-- Parameters whose types are on one line have texts. -/
theorem exists_unmanagedParameters {qs : List ReflectedParameter}
    (hline : ∀ q ∈ qs, '\n' ∉ q.type.fullName) (o : TypePolicy) :
    ∃ ps, unmanagedParameters? o qs = some ps := by
  induction qs with
  | nil => exact ⟨[], rfl⟩
  | cons q qs ih =>
      obtain ⟨p, hp⟩ := q.exists_unmanaged (hline q List.mem_cons_self) o
      obtain ⟨ps, hps⟩ := ih fun q' hq' => hline q' (List.mem_cons_of_mem q hq')
      rw [unmanagedParameters?] at hps
      refine ⟨p :: ps, ?_⟩
      rw [unmanagedParameters?, List.mapM_cons, hp, hps]
      rfl

/-- What holds of everything that is read from something holds of all that was read. -/
theorem forall_of_forall₂ {α β : Type} {R : α → β → Prop} {P : α → Prop} {as : List α}
    {bs : List β} (h : List.Forall₂ R as bs) (hP : ∀ a b, R a b → P a) : ∀ a ∈ as, P a :=
  ((List.forall₂_and_left as bs).mp (h.imp fun a b hab => ⟨hP a b hab, hab⟩)).1

/-- The types that a method refers to. -/
def Method.references (m : Method) : List TypeReference :=
  m.returnType :: m.parameters.map ReflectedParameter.type

/-- A method that was read refers to types by names on one line. -/
theorem Method.CallReadFrom.references_oneLine {declared : List Declaration} {m : Method}
    {e : Element} (h : m.CallReadFrom declared e) : ∀ t ∈ m.references, '\n' ∉ t.fullName := by
  intro t ht
  rcases List.mem_cons.mp ht with rfl | hparameter
  · exact oneLine_of_resolveAmong (isTrimmed_trimmedOr _ _ _) h.returns
  · obtain ⟨q, hq, rfl⟩ := List.mem_map.mp hparameter
    exact forall_of_forall₂ h.parameters (fun q _ hread =>
      oneLine_of_resolveAmong (isTrimmed_trimmedOr _ _ _) hread.resolve_typeName) q hq

/-- **A method that was read has its signature**, whatever it is called. -/
theorem Method.CallReadFrom.exists_signature {declared : List Declaration} {m : Method}
    {e : Element} (h : m.CallReadFrom declared e) (o : TypePolicy) (name : Text)
    (convention : Option Text) : ∃ s, m.signature? o name convention = some s := by
  obtain ⟨returnType, hreturns⟩ :=
    m.returnType.exists_text (h.references_oneLine _ List.mem_cons_self) o
  have hlines : ∀ q ∈ m.parameters, '\n' ∉ q.type.fullName := fun q hq =>
    h.references_oneLine _ (List.mem_cons_of_mem _ (List.mem_map_of_mem hq))
  obtain ⟨parameters, hparameters⟩ := exists_unmanagedParameters hlines o
  rw [signature?, hreturns, hparameters]
  exact ⟨_, rfl⟩

/-- A trimmed name has no simple name exactly if it goes on behind a line feed. -/
theorem simpleName?_eq_none_iff {name : Text} (hname : IsTrimmed name) :
    simpleName? name = none ↔ '\n' ∈ name := by
  rw [simpleName?, Option.map_eq_none_iff]
  by_cases hline : '\n' ∈ name
  · refine iff_of_true ?_ hline
    cases hdivide : divideName? name with
    | none => rfl
    | some parts => exact absurd hline (oneLine_of_divideName? hname hdivide).1
  · rw [divideName?_of_oneLine hline]
    exact iff_of_false (Option.some_ne_none _) hline

/-! ## Members -/

section Members

variable {c : Catalog} {root : Element} {path : Option Text}

/-- Every delegate of a catalog that was read comes with the way it is called, which was read as
    well. -/
theorem Catalog.ReadFrom.exists_invocation (h : c.ReadFrom root) : ∀ t ∈ c.types,
    t.isDelegate = true → ∃ m e, t.invoke = some m ∧ m.InvocationReadFrom c.declared e := by
  refine forall_of_forall₂ h.types fun t e ht hdelegate => ?_
  have hinvoke := ht.invoke
  rw [if_pos hdelegate] at hinvoke
  obtain ⟨m, hm, hread⟩ := hinvoke
  exact ⟨m, e, hm, hread⟩

/-- A selected delegate was read together with the way it is called. -/
theorem Catalog.ReadFrom.invocation_of_delegate (h : c.ReadFrom root) :
    ∀ d ∈ c.delegates path, ∃ m e, d.invoke = some m ∧ m.InvocationReadFrom c.declared e := by
  intro d hd
  obtain ⟨htypes, hplain⟩ := List.mem_filter.mp hd
  exact h.exists_invocation d (List.mem_of_mem_filter htypes) (Bool.and_eq_true_iff.mp hplain).1

/-- An imported method of a catalog that was read has its signature. -/
theorem Catalog.ReadFrom.importSignature (h : c.ReadFrom root) (o : TypePolicy) {m : Method}
    (hm : m ∈ c.imports path) : ∃ s, m.importSignature o = .ok s := by
  have hall : ∀ m ∈ c.imports path, ∃ s, m.importSignature o = .ok s := by
    refine forall_of_forall₂ (h.imports path) fun m e hread => ?_
    obtain ⟨s, hs⟩ := hread.toCallReadFrom.exists_signature o m.name m.convention
    exact ⟨s, orUndivided_eq_ok_iff.mpr hs⟩
  exact hall m hm

/-- A delegate of a catalog that was read has no signature exactly if its full name goes on
    behind a line feed. -/
theorem Catalog.ReadFrom.delegateSignature_eq_error_iff (h : c.ReadFrom root) (o : TypePolicy)
    {d : DeclaredType} (hd : d ∈ c.delegates path) {fault : SourceFault} :
    d.delegateSignature o = .error fault ↔ fault = .undividedName ∧ '\n' ∈ d.fullName := by
  have htrimmed : IsTrimmed d.fullName :=
    forall_of_forall₂ (h.delegates path) (fun d _ hread => hread.declaration.isTrimmed_fullName) d hd
  obtain ⟨m, e, hm, hread⟩ := h.invocation_of_delegate d hd
  rw [DeclaredType.delegateSignature, hm, ← simpleName?_eq_none_iff htrimmed]
  cases simpleName? d.fullName with
  | none => exact ⟨fun h => ⟨(Except.error.inj h).symm, rfl⟩, fun h => h.1 ▸ rfl⟩
  | some name =>
      obtain ⟨s, hs⟩ := hread.toCallReadFrom.exists_signature o name d.convention
      dsimp only
      rw [hs]
      exact iff_of_false (fun h => by cases h) fun h => Option.some_ne_none name h.2

/-- **Where a catalog is not gathered from**: the source is one over delegates, and under the
    search path there is a delegate whose full name goes on behind a line feed. -/
theorem MemberKind.gathered_eq_error_iff (h : c.ReadFrom root) (k : MemberKind) (o : TypePolicy)
    {fault : SourceFault} :
    gathered (k.source c path o).outcomes = .error fault
      ↔ fault = .undividedName ∧ k = .delegates
        ∧ ∃ d ∈ c.delegates path, '\n' ∈ d.fullName := by
  cases k with
  | delegates =>
      have houtcomes : (delegates.source c path o).outcomes
          = (c.delegates path).map (DeclaredType.delegateSignature o) := rfl
      rw [houtcomes]
      constructor
      · intro hgathered
        obtain ⟨d, hd, hfault⟩ := List.mem_map.mp (mem_of_gathered hgathered)
        obtain ⟨rfl, hline⟩ := (h.delegateSignature_eq_error_iff o hd).mp hfault
        exact ⟨rfl, rfl, d, hd, hline⟩
      · rintro ⟨rfl, -, d, hd, hline⟩
        have hmem := List.mem_map_of_mem (f := DeclaredType.delegateSignature o) hd
        rw [(h.delegateSignature_eq_error_iff o hd).mpr ⟨rfl, hline⟩] at hmem
        obtain ⟨first, hfirst⟩ := exists_gathered_error hmem
        -- the first fault that is met is that of a delegate, too
        obtain ⟨d', hd', hfault⟩ := List.mem_map.mp (mem_of_gathered hfirst)
        rw [hfirst, ((h.delegateSignature_eq_error_iff o hd').mp hfault).1]
  | imports =>
      refine iff_of_false (fun hgathered => ?_) fun hnone => nomatch hnone.2.1
      obtain ⟨m, hm, hfault⟩ := List.mem_map.mp (mem_of_gathered hgathered)
      obtain ⟨s, hs⟩ := h.importSignature o hm
      exact nomatch hs.symm.trans hfault

end Members

end PointerBindings
