import Mathlib.Data.List.Infix
import PointerBindings.Proofs.Header.Tails

/-! # First of a name — the declarations of a header, each with those before it

    Which declarations are kept can be said of each by itself, if one also sees those before
    it: it is of interest, and no earlier one of interest has its name.  In the same way a
    warning is due for each variadic function whose name is not taken by then.  The names that
    have been kept so far are always those that are taken (`collectDeclarations_eq`), so what a
    header yields depends on its declarations of interest only
    (`HeaderRequest.first_of_each_name_collected`). -/

namespace PointerBindings

open Text

/-! ## Members seen with those before them -/

/-- The members that pass a test which also sees the members before them, in order. -/
def filterAfter {α : Type} (test : List α → α → Bool) (all : List α) : List α :=
  ((all.inits.zip all).filter fun entry => test entry.1 entry.2).map Prod.snd

/-- The first member has none before it, and it stands before all others. -/
theorem filterAfter_cons {α : Type} (test : List α → α → Bool) (x : α) (rest : List α) :
    filterAfter test (x :: rest)
      = if test [] x then x :: filterAfter (fun before => test (x :: before)) rest
        else filterAfter (fun before => test (x :: before)) rest := by
  have hrest : (((rest.inits.map (List.cons x)).zip rest).filter fun entry =>
      test entry.1 entry.2).map Prod.snd = filterAfter (fun before => test (x :: before)) rest := by
    rw [List.zip_map_left, List.filter_map, List.map_map]
    rfl
  rw [← hrest, filterAfter, List.inits, List.zip_cons_cons, List.filter_cons]
  split <;> rfl

/-! ## What a header is to yield -/

/-- The declaration is of interest: a function that shows no tail in its type, or a typedef
    behind which there is a function type. -/
def CDeclaration.isEligible (mode : HeaderMode) (d : CDeclaration) : Bool :=
  match mode with
  | .functions => d.kind = .function && !d.isVariadicFunction
  | .callbacks => d.kind = .typeAlias && d.prototype?.isSome

/-- A function that shows a tail in its type is warned about. -/
def CDeclaration.isWarnedAbout (mode : HeaderMode) (d : CDeclaration) : Bool :=
  match mode with
  | .functions => d.kind = .function && d.isVariadicFunction
  | .callbacks => false

/-- A declaration of interest has the name. -/
def nameTaken (mode : HeaderMode) (before : List CDeclaration) (name : Text) : Bool :=
  before.any fun e => e.isEligible mode && e.name = name

/-- The declarations of interest whose names are not taken by earlier ones, in order. -/
def firstOfEachName (mode : HeaderMode) (all : List CDeclaration) : List CDeclaration :=
  filterAfter (fun before d => d.isEligible mode && !nameTaken mode before d.name) all

/-- The warnings, in order: about functions with a tail whose names are not taken by earlier
    declarations. -/
def tailWarnings (mode : HeaderMode) (all : List CDeclaration) : List Text :=
  (filterAfter (fun before d => d.isWarnedAbout mode && !nameTaken mode before d.name) all).map
    CDeclaration.warning

theorem nameTaken_concat (mode : HeaderMode) (before : List CDeclaration) (d : CDeclaration)
    (name : Text) : nameTaken mode (before ++ [d]) name
      = (nameTaken mode before name || (d.isEligible mode && d.name = name)) := by
  rw [nameTaken, List.any_append, List.any_cons, List.any_nil, Bool.or_false, nameTaken]

theorem nameTaken_iff {mode : HeaderMode} {before : List CDeclaration} {name : Text} :
    nameTaken mode before name = true
      ↔ ∃ e ∈ before, e.isEligible mode = true ∧ e.name = name := by
  rw [nameTaken, List.any_eq_true]
  simp only [Bool.and_eq_true, decide_eq_true_eq]

/-- What is of interest is not warned about. -/
theorem CDeclaration.not_isWarnedAbout {mode : HeaderMode} (d : CDeclaration)
    (h : d.isEligible mode = true) : d.isWarnedAbout mode = false := by
  cases mode with
  | callbacks => rfl
  | functions =>
      rw [isEligible, Bool.and_eq_true, Bool.not_eq_true'] at h
      rw [isWarnedAbout, h.2, Bool.and_false]

/-- What becomes of a declaration follows from its kind and its type. -/
theorem CDeclaration.verdict_eq (mode : HeaderMode) (d : CDeclaration) :
    d.verdict mode = if d.isEligible mode then .kept
      else if d.isWarnedAbout mode then .warned else .passedOver := by
  cases mode with
  | callbacks => rfl
  | functions =>
      rw [verdict, isEligible, isWarnedAbout]
      by_cases hkind : d.kind = .function
      · rw [if_neg (not_not.mpr hkind), decide_eq_true hkind]
        cases d.isVariadicFunction <;> rfl
      · rw [if_pos hkind, decide_eq_false hkind]
        rfl

theorem CDeclaration.verdict_eq_kept_iff {mode : HeaderMode} {d : CDeclaration} :
    d.verdict mode = .kept ↔ d.isEligible mode = true := by
  rw [verdict_eq]
  split
  · rename_i heligible
    exact ⟨fun _ => heligible, fun _ => rfl⟩
  · rename_i hother
    refine ⟨fun h => ?_, fun h => absurd h hother⟩
    split at h
    · exact nomatch h
    · exact nomatch h

/-! ## The collection -/

/-- **The names that have been kept are those that are taken.**  Behind some declarations, if
    the names kept so far are the ones taken by those, kept are the further declarations of
    interest whose names are not taken, and warned is about the further functions with a tail
    whose names are not. -/
theorem collectDeclarations_eq {mode : HeaderMode} {seen : List Text} {past : List CDeclaration}
    (hseen : ∀ name, name ∈ seen ↔ nameTaken mode past name = true) (all : List CDeclaration) :
    collectDeclarations mode seen all
      = (filterAfter (fun before d =>
          d.isEligible mode && !nameTaken mode (past ++ before) d.name) all,
        (filterAfter (fun before d =>
          d.isWarnedAbout mode && !nameTaken mode (past ++ before) d.name) all).map
            CDeclaration.warning) := by
  induction all generalizing seen past with
  | nil => rfl
  | cons d rest ih =>
      -- the rest is collected behind the declaration
      have hrest {names : List Text}
          (hnames : ∀ name, name ∈ names ↔ nameTaken mode (past ++ [d]) name = true) := ih hnames
      simp only [List.append_assoc, List.singleton_append] at hrest
      rw [collectDeclarations_cons, filterAfter_cons, filterAfter_cons, List.append_nil]
      by_cases hname : d.name ∈ seen
      · -- the name stays taken whatever the declaration is
        have hsame : ∀ name, name ∈ seen ↔ nameTaken mode (past ++ [d]) name = true := by
          intro name
          rw [nameTaken_concat, Bool.or_eq_true, ← hseen]
          refine ⟨.inl, fun h => h.elim id fun hd => ?_⟩
          rw [← of_decide_eq_true (Bool.and_eq_true_iff.mp hd).2]
          exact hname
        rw [if_pos hname, hrest hsame, (hseen d.name).mp hname, Bool.not_true, Bool.and_false,
          Bool.and_false, if_neg Bool.false_ne_true, if_neg Bool.false_ne_true]
      · have hfree : nameTaken mode past d.name = false :=
          Bool.eq_false_iff.mpr fun h => hname ((hseen d.name).mpr h)
        rw [if_neg hname, hfree, Bool.not_false, Bool.and_true, Bool.and_true, d.verdict_eq]
        by_cases heligible : d.isEligible mode = true
        · have hkept : ∀ name, name ∈ d.name :: seen
              ↔ nameTaken mode (past ++ [d]) name = true := by
            intro name
            rw [nameTaken_concat, Bool.or_eq_true, ← hseen, heligible, Bool.true_and,
              decide_eq_true_eq, List.mem_cons, or_comm, eq_comm]
          rw [if_pos heligible, if_pos heligible, d.not_isWarnedAbout heligible,
            if_neg Bool.false_ne_true]
          dsimp only
          rw [hrest hkept]
        · have hsame : ∀ name, name ∈ seen ↔ nameTaken mode (past ++ [d]) name = true := by
            intro name
            rw [nameTaken_concat, Bool.eq_false_iff.mpr heligible, Bool.false_and, Bool.or_false,
              hseen]
          rw [if_neg heligible, if_neg heligible]
          by_cases hwarned : d.isWarnedAbout mode = true
          · rw [if_pos hwarned, if_pos hwarned]
            dsimp only
            rw [hrest hsame, List.map_cons]
          · rw [if_neg hwarned, if_neg hwarned]
            exact hrest hsame

/-- Kept are the declarations of interest whose names are not taken, and warned is about the
    functions with a tail whose names are not. -/
theorem collectDeclarations_eq_firstOfEachName (mode : HeaderMode) (all : List CDeclaration) :
    collectDeclarations mode [] all = (firstOfEachName mode all, tailWarnings mode all) :=
  @collectDeclarations_eq mode [] [] (fun _ => iff_of_false List.not_mem_nil nofun) all

/-- What is of no interest changes nothing for the others. -/
theorem collectDeclarations_filter (mode : HeaderMode) (seen : List Text)
    (all : List CDeclaration) :
    (collectDeclarations mode seen (all.filter fun d => d.isEligible mode)).1
      = (collectDeclarations mode seen all).1 := by
  induction all generalizing seen with
  | nil => rfl
  | cons d rest ih =>
      by_cases heligible : d.isEligible mode = true
      · rw [List.filter_cons_of_pos heligible]
        by_cases hname : d.name ∈ seen
        · rw [collectDeclarations_seen hname, collectDeclarations_seen hname, ih]
        · have hkept := CDeclaration.verdict_eq_kept_iff.mpr heligible
          rw [collectDeclarations_kept hname hkept, collectDeclarations_kept hname hkept, ih]
      · have hother : d.verdict mode ≠ .kept :=
          fun h => heligible (CDeclaration.verdict_eq_kept_iff.mp h)
        rw [List.filter_cons_of_neg heligible, collectDeclarations_not_kept hother, ih]

/-- No name of interest is lost: unless it has been kept already, it will be. -/
theorem name_kept_of_isEligible {mode : HeaderMode} {seen : List Text} {all : List CDeclaration}
    {d : CDeclaration} (hname : d.name ∉ seen) (hd : d ∈ all) (h : d.isEligible mode = true) :
    ∃ e ∈ (collectDeclarations mode seen all).1, e.name = d.name := by
  induction all generalizing seen with
  | nil => exact nomatch hd
  | cons first rest ih =>
      by_cases hkept : first.verdict mode = .kept
      · by_cases hseen : first.name ∈ seen
        · have hrest : d ∈ rest :=
            (List.mem_cons.mp hd).resolve_left fun heq => hname (heq ▸ hseen)
          rw [collectDeclarations_seen hseen]
          exact ih hname hrest
        · rw [collectDeclarations_kept hseen hkept]
          by_cases heq : first.name = d.name
          · exact ⟨first, List.mem_cons_self, heq⟩
          · have hrest : d ∈ rest :=
              (List.mem_cons.mp hd).resolve_left fun hfirst => heq (hfirst ▸ rfl)
            have hlater : d.name ∉ first.name :: seen :=
              fun hmem => (List.mem_cons.mp hmem).elim (fun hd => heq hd.symm) hname
            obtain ⟨e, he, hsame⟩ := ih hlater hrest
            exact ⟨e, List.mem_cons_of_mem first he, hsame⟩
      · have hrest : d ∈ rest := (List.mem_cons.mp hd).resolve_left fun hfirst =>
          hkept (hfirst ▸ CDeclaration.verdict_eq_kept_iff.mpr h)
        rw [collectDeclarations_not_kept hkept]
        exact ih hname hrest

/-- A name is kept exactly if it is taken. -/
theorem mem_names_firstOfEachName_iff {mode : HeaderMode} {all : List CDeclaration} {name : Text} :
    name ∈ (firstOfEachName mode all).map CDeclaration.name ↔ nameTaken mode all name = true := by
  have hkept : firstOfEachName mode all = (collectDeclarations mode [] all).1 :=
    (congrArg Prod.fst (collectDeclarations_eq_firstOfEachName mode all)).symm
  rw [hkept, nameTaken_iff, List.mem_map]
  constructor
  · rintro ⟨d, hd, rfl⟩
    obtain ⟨-, hverdict, before, after, rfl, -⟩ := mem_collectDeclarations_iff.mp hd
    exact ⟨d, List.mem_append_right before List.mem_cons_self,
      CDeclaration.verdict_eq_kept_iff.mp hverdict, rfl⟩
  · rintro ⟨d, hd, heligible, rfl⟩
    exact name_kept_of_isEligible List.not_mem_nil hd heligible

/-! ## A header -/

/-- The declarations of the header itself up to the first one whose place cannot be told. -/
def HeaderRequest.goneThrough (r : HeaderRequest) (folder : Folder) (all : List CDeclaration) :
    List CDeclaration :=
  (all.takeWhile fun d => d.untoldPlace?.isNone).filter fun d => d.isIn folder r.shownPath

/-- What comes of collecting, and the warnings given on the way. -/
theorem HeaderRequest.collect_eq (r : HeaderRequest) (folder : Folder) (all : List CDeclaration) :
    r.collect folder all
      = (match all.findSome? CDeclaration.untoldPlace? with
          | none => .ok (firstOfEachName r.mode (r.goneThrough folder all))
          | some name => .error (.file ⟨.nullInPath, name⟩),
        tailWarnings r.mode (r.goneThrough folder all)) := by
  have hcollected := collectDeclarations_eq_firstOfEachName r.mode (r.goneThrough folder all)
  rw [goneThrough] at hcollected
  rw [collect, hcollected, goneThrough]
  cases all.findSome? CDeclaration.untoldPlace? with
  | none => rfl
  | some name => rfl

/-- Where every place can be told, all declarations of the header are gone through. -/
theorem HeaderRequest.goneThrough_eq_own (r : HeaderRequest) (folder : Folder) {unit : HeaderUnit}
    (htold : unit.declarations.findSome? CDeclaration.untoldPlace? = none) :
    r.goneThrough folder unit.declarations = r.ownDeclarations folder unit := by
  rw [goneThrough, ownDeclarations, takeWhile_told htold]

/-- **The first of each name is collected.**  Going through the declarations of a header, in
    order, kept are those of interest whose names no earlier one of interest has, and warned is
    about each function with a tail whose name has not been kept before it; a header that was
    read has been gone through altogether.  So no name is kept twice and none of interest is
    lost, and whatever is of no interest hides nothing. -/
theorem HeaderRequest.first_of_each_name_collected (r : HeaderRequest) (folder : Folder)
    (unit : HeaderUnit) :
    let gone := r.goneThrough folder unit.declarations
    let kept := firstOfEachName r.mode gone
    r.collect folder unit.declarations
        = (match unit.declarations.findSome? CDeclaration.untoldPlace? with
            | none => .ok kept
            | some name => .error (.file ⟨.nullInPath, name⟩),
          tailWarnings r.mode gone)
      ∧ (∀ found, (r.read folder (.answers unit)).result = .ok found →
          gone = r.ownDeclarations folder unit ∧ found = kept
          ∧ (r.read folder (.answers unit)).reports
            = r.errorReports unit ++ tailWarnings r.mode gone)
      ∧ (kept.map CDeclaration.name).Nodup
      ∧ (∀ earlier name,
          name ∈ (collectDeclarations r.mode [] earlier).1.map CDeclaration.name
            ↔ ∃ e ∈ earlier, e.isEligible r.mode = true ∧ e.name = name)
      ∧ ∀ others : List CDeclaration,
          (others.filter fun d => d.isEligible r.mode) = gone.filter (fun d => d.isEligible r.mode) →
            (collectDeclarations r.mode [] others).1 = kept := by
  intro gone kept
  have hkept : (collectDeclarations r.mode [] gone).1 = kept :=
    congrArg Prod.fst (collectDeclarations_eq_firstOfEachName r.mode gone)
  refine ⟨r.collect_eq folder unit.declarations, ?_, ?_, ?_, ?_⟩
  · intro found hread
    obtain ⟨hcollected, hreports⟩ := collected_of_read hread
    rw [collect_eq] at hcollected hreports
    cases htold : unit.declarations.findSome? CDeclaration.untoldPlace? with
    | some name =>
        rw [htold] at hcollected
        exact nomatch hcollected
    | none =>
        rw [htold] at hcollected
        exact ⟨r.goneThrough_eq_own folder htold, (Except.ok.inj hcollected).symm, hreports⟩
  · rw [← hkept]
    exact collectDeclarations_nodup r.mode [] gone
  · intro earlier name
    rw [collectDeclarations_eq_firstOfEachName, mem_names_firstOfEachName_iff, nameTaken_iff]
  · intro others hothers
    rw [← hkept, ← collectDeclarations_filter, hothers, collectDeclarations_filter]

/-- A function type, with or without a tail. -/
def functionOfNothing (variadic : Bool) : CType :=
  .mk .prototype [] none none none none none [] variadic

/-- A function of the given name, with or without a tail, in the header or elsewhere. -/
def declaredFunction (name : String) (variadic : Bool) (place : CPlace := .mainFile) :
    CDeclaration where
  kind := .function
  name := name.toList
  place := place
  type := functionOfNothing variadic

/-- A header in which both names are declared several times. -/
def headerWithRepeats : HeaderUnit where
  declarations :=
    [declaredFunction "log" true,
      declaredFunction "run" false (.file "base.h".toList),
      { kind := .other, name := "run".toList },
      declaredFunction "run" false (.file "./api.h".toList),
      declaredFunction "log" false,
      declaredFunction "run" true,
      declaredFunction "run" false,
      declaredFunction "log" true]

/-- Of the many declarations one of each name is kept, and one is warned about. -/
theorem HeaderRequest.first_of_each_name_collected_repeats :
    ((requestForHeader .functions).read folderWithHeader (.answers headerWithRepeats)).result
        = .ok [declaredFunction "run" false (.file "./api.h".toList), declaredFunction "log" false]
      ∧ firstOfEachName .functions
          ((requestForHeader .functions).ownDeclarations folderWithHeader headerWithRepeats)
        = [declaredFunction "run" false (.file "./api.h".toList), declaredFunction "log" false]
      ∧ ((requestForHeader .functions).read folderWithHeader (.answers headerWithRepeats)).reports
        = ["Warning: Skipping variadic function: log".toList] := by
  have hread : ((requestForHeader .functions).read folderWithHeader
      (.answers headerWithRepeats)).result
        = .ok [declaredFunction "run" false (.file "./api.h".toList),
            declaredFunction "log" false] := rfl
  obtain ⟨hgone, hkept, hreports⟩ := (HeaderRequest.first_of_each_name_collected
    (requestForHeader .functions) folderWithHeader headerWithRepeats).2.1 _ hread
  exact ⟨hread, by rw [← hgone]; exact hkept.symm, hreports⟩

end PointerBindings
