import Mathlib.Data.List.TakeWhile
import PointerBindings.HeaderUnit

/-! # Collection — which declarations of a header are kept

    A header is gone through once, with the names that have been kept so far at hand.  Kept
    is a declaration of interest that no other one of its name leads
    (`mem_collectDeclarations_iff`), so that no name is kept twice; what is of no interest
    leaves the names as they are and hides nothing behind it. -/

namespace PointerBindings

open Text

/-- The declaration is among all, and before it none of interest has its name. -/
def CDeclaration.Leads (mode : HeaderMode) (d : CDeclaration) (all : List CDeclaration) : Prop :=
  ∃ before after, all = before ++ d :: after
    ∧ ∀ e ∈ before, e.name = d.name → e.verdict mode ≠ .kept

/-- The declarations that lie in the header itself. -/
def HeaderRequest.ownDeclarations (r : HeaderRequest) (folder : Folder) (unit : HeaderUnit) :
    List CDeclaration :=
  unit.declarations.filter fun d => d.isIn folder r.shownPath

/-! ## One declaration after the other -/

section Collecting

variable {mode : HeaderMode} {seen : List Text} {d e : CDeclaration} {rest : List CDeclaration}

/-- Behind another declaration, one leads if it did without, and that one does not lead it. -/
theorem CDeclaration.leads_cons_iff :
    d.Leads mode (e :: rest)
      ↔ d = e ∨ (e.name = d.name → e.verdict mode ≠ .kept) ∧ d.Leads mode rest := by
  constructor
  · rintro ⟨before, after, hall, hbefore⟩
    cases before with
    | nil =>
        cases hall
        exact .inl rfl
    | cons first before =>
        cases hall
        exact .inr ⟨hbefore e List.mem_cons_self, before, after, rfl,
          fun x hx => hbefore x (List.mem_cons_of_mem e hx)⟩
  · rintro (rfl | ⟨hfirst, before, after, rfl, hbefore⟩)
    · exact ⟨[], rest, rfl, fun x hx => nomatch hx⟩
    · refine ⟨e :: before, after, rfl, fun x hx => ?_⟩
      rcases List.mem_cons.mp hx with rfl | hx
      · exact hfirst
      · exact hbefore x hx

/-- What becomes of a declaration before the others are gone through. -/
theorem collectDeclarations_cons (mode : HeaderMode) (seen : List Text) (e : CDeclaration)
    (rest : List CDeclaration) : collectDeclarations mode seen (e :: rest)
      = if e.name ∈ seen then collectDeclarations mode seen rest
        else match e.verdict mode with
          | .kept =>
              let others := collectDeclarations mode (e.name :: seen) rest
              (e :: others.1, others.2)
          | .passedOver => collectDeclarations mode seen rest
          | .warned =>
              let others := collectDeclarations mode seen rest
              (others.1, e.warning :: others.2) := rfl

/-- A declaration whose name has been kept is passed over. -/
theorem collectDeclarations_seen (h : e.name ∈ seen) :
    collectDeclarations mode seen (e :: rest) = collectDeclarations mode seen rest := by
  rw [collectDeclarations_cons, if_pos h]

/-- A declaration of interest is kept and its name with it. -/
theorem collectDeclarations_kept (hname : e.name ∉ seen) (h : e.verdict mode = .kept) :
    (collectDeclarations mode seen (e :: rest)).1
      = e :: (collectDeclarations mode (e.name :: seen) rest).1 := by
  rw [collectDeclarations_cons, if_neg hname, h]

/-- A declaration of no interest changes nothing for those behind it. -/
theorem collectDeclarations_not_kept (h : e.verdict mode ≠ .kept) :
    (collectDeclarations mode seen (e :: rest)).1 = (collectDeclarations mode seen rest).1 := by
  by_cases hname : e.name ∈ seen
  · rw [collectDeclarations_seen hname]
  · rw [collectDeclarations_cons, if_neg hname]
    cases hverdict : e.verdict mode with
    | kept => exact absurd hverdict h
    | passedOver => rfl
    | warned => rfl

end Collecting

/-! ## All declarations -/

/-- **What is kept**: the declarations of interest whose names had not been kept and that lead
    all others of interest by their names. -/
theorem mem_collectDeclarations_iff {mode : HeaderMode} {seen : List Text} {d : CDeclaration}
    {all : List CDeclaration} : d ∈ (collectDeclarations mode seen all).1
      ↔ d.name ∉ seen ∧ d.verdict mode = .kept ∧ d.Leads mode all := by
  induction all generalizing seen with
  | nil =>
      constructor
      · intro h
        exact nomatch h
      · rintro ⟨-, -, before, after, hnil, -⟩
        exact absurd hnil.symm (List.append_ne_nil_of_right_ne_nil before (List.cons_ne_nil d after))
  | cons e rest ih =>
      rw [CDeclaration.leads_cons_iff]
      by_cases hkept : e.verdict mode = .kept
      · by_cases hname : e.name ∈ seen
        · -- whoever is not among the names has another name
          rw [collectDeclarations_seen hname, ih]
          refine and_congr_right fun hd => and_congr_right fun _ => ?_
          have hne : e.name ≠ d.name := fun heq => hd (heq ▸ hname)
          exact ⟨fun h => .inr ⟨fun heq => absurd heq hne, h⟩,
            fun h => h.elim (fun heq => absurd (congrArg _ heq.symm) hne) And.right⟩
        · rw [collectDeclarations_kept hname hkept, List.mem_cons, ih, List.mem_cons]
          constructor
          · rintro (rfl | ⟨hd, hverdict, hleads⟩)
            · exact ⟨hname, hkept, .inl rfl⟩
            · exact ⟨fun h => hd (.inr h), hverdict,
                .inr ⟨fun heq => absurd (.inl heq.symm) hd, hleads⟩⟩
          · rintro ⟨hd, hverdict, rfl | ⟨hfirst, hleads⟩⟩
            · exact .inl rfl
            · refine .inr ⟨?_, hverdict, hleads⟩
              rintro (heq | hmem)
              · exact hfirst heq.symm hkept
              · exact hd hmem
      · rw [collectDeclarations_not_kept hkept, ih]
        refine and_congr_right fun _ => and_congr_right fun hverdict => ?_
        exact ⟨fun h => .inr ⟨fun _ => hkept, h⟩,
          fun h => h.elim (fun heq => absurd (heq ▸ hverdict) hkept) And.right⟩

/-- No name is kept twice. -/
theorem collectDeclarations_nodup (mode : HeaderMode) (seen : List Text)
    (all : List CDeclaration) :
    ((collectDeclarations mode seen all).1.map CDeclaration.name).Nodup := by
  induction all generalizing seen with
  | nil => exact List.nodup_nil
  | cons e rest ih =>
      by_cases hkept : e.verdict mode = .kept
      · by_cases hname : e.name ∈ seen
        · rw [collectDeclarations_seen hname]
          exact ih seen
        · rw [collectDeclarations_kept hname hkept, List.map_cons, List.nodup_cons]
          refine ⟨fun hmem => ?_, ih (e.name :: seen)⟩
          obtain ⟨d, hd, heq⟩ := List.mem_map.mp hmem
          exact (mem_collectDeclarations_iff.mp hd).1 (heq ▸ List.mem_cons_self)
      · rw [collectDeclarations_not_kept hkept]
        exact ih seen

/-! ## A header that was read -/

/-- Where every place can be told, all declarations are gone through. -/
theorem takeWhile_told {all : List CDeclaration}
    (htold : all.findSome? CDeclaration.untoldPlace? = none) :
    all.takeWhile (fun d => d.untoldPlace?.isNone) = all := by
  rw [List.takeWhile_eq_self_iff]
  intro d hd
  rw [List.findSome?_eq_none_iff.mp htold d hd]
  rfl

/-- The lines that report the errors of the front end. -/
def HeaderRequest.errorReports (r : HeaderRequest) (unit : HeaderUnit) : List Text :=
  unit.errors.map fun e => "Error in ".toList ++ r.shownPath ++ ": ".toList ++ e

/-- A header that was read yields what was collected, and reports the errors of the front end
    before the warnings. -/
theorem HeaderRequest.collected_of_read {r : HeaderRequest} {folder : Folder} {unit : HeaderUnit}
    {found : List CDeclaration} (h : (r.read folder (.answers unit)).result = .ok found) :
    (r.collect folder unit.declarations).1 = .ok found
      ∧ (r.read folder (.answers unit)).reports
        = r.errorReports unit ++ (r.collect folder unit.declarations).2 := by
  rw [read] at h ⊢
  cases hheld : folder.holdsFile r.shownPath with
  | error fault => rw [hheld] at h; exact nomatch h
  | ok held =>
      cases held with
      | false => rw [hheld] at h; exact nomatch h
      | true =>
          rw [hheld] at h
          dsimp only at h ⊢
          -- a fatal error ends the reading before anything is collected
          by_cases hfatal : unit.isFatal = true
          · rw [if_pos hfatal] at h
            exact nomatch h
          · rw [if_neg hfatal] at h ⊢
            exact ⟨h, rfl⟩

/-- A header that was read yields what is kept of its own declarations. -/
theorem HeaderRequest.read_eq_ok {r : HeaderRequest} {folder : Folder} {unit : HeaderUnit}
    {kept : List CDeclaration} (h : (r.read folder (.answers unit)).result = .ok kept) :
    kept = (collectDeclarations r.mode [] (r.ownDeclarations folder unit)).1 := by
  have hcollect := (collected_of_read h).1
  rw [collect] at hcollect
  cases htold : unit.declarations.findSome? CDeclaration.untoldPlace? with
  | some name => simp only [htold] at hcollect; exact nomatch hcollect
  | none =>
      simp only [htold, takeWhile_told htold] at hcollect
      exact (Except.ok.inj hcollect).symm

end PointerBindings
