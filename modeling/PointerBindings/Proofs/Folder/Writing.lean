import PointerBindings.Folder

/-! # Writing — a file put at the place of a path

    A path is walked through folders only, so what a file is put under was a folder
    before, and the place itself was none (`Folder.walk_reached`).  Hence putting a file
    there shows nowhere else (`Folder.at?_put_of_ne`), and the path leads to the file
    afterwards as it led to its place before (`Folder.read_put`). -/

namespace PointerBindings.Folder

open Text

/-! ## Looking at one place -/

theorem at?_of_prefix_home {f : Folder} {names : List Text} (h : names <+: f.home) :
    f.at? names = some .folder := by
  rw [at?, if_pos (List.isPrefixOf_iff_prefix.mpr h)]

/-- A place that is no folder is not on the way to the folder that a run works in. -/
theorem not_prefix_home {f : Folder} {names : List Text} (h : f.at? names ≠ some .folder) :
    names.isPrefixOf f.home = false := by
  refine Bool.eq_false_iff.mpr fun hbefore => h ?_
  exact at?_of_prefix_home (List.isPrefixOf_iff_prefix.mp hbefore)

/-! ## Walking -/

/-- Folders lie on the whole way from the root to a place. -/
def Reached (f : Folder) (place : List Text) : Prop :=
  ∀ names, names <+: place → names ≠ place → f.at? names = some .folder

theorem reached_start (f : Folder) (path : Text) : f.Reached (f.start path) := by
  intro names hbefore hne
  rw [start] at hbefore hne
  split at hbefore
  · rename_i hroot
    rw [if_pos hroot] at hne
    exact absurd (List.prefix_nil.mp hbefore) hne
  · exact at?_of_prefix_home hbefore

/-- A step is made from a folder, and stays there or goes one name on or back. -/
theorem step_eq_ok {f : Folder} {place next : List Text} {name : Text}
    (h : f.step place name = .ok next) :
    f.at? place = some .folder ∧ (next = place ∨ next = advance place name) := by
  rw [step] at h
  cases hplace : f.at? place with
  | none => rw [hplace] at h; exact nomatch h
  | some node =>
      cases node with
      | file bytes => rw [hplace] at h; exact nomatch h
      | folder =>
          refine ⟨rfl, ?_⟩
          rw [hplace] at h
          dsimp only at h
          split at h
          · exact nomatch h
          · cases h
            split
            · exact Or.inl rfl
            · exact Or.inr rfl

/-- A step from a place that was reached through folders leads to such a place. -/
theorem Reached.step {f : Folder} {place next : List Text} {name : Text} (hr : f.Reached place)
    (h : f.step place name = .ok next) : f.Reached next := by
  obtain ⟨hfolder, rfl | rfl⟩ := step_eq_ok h
  · exact hr
  · intro names hbefore hne
    rw [advance] at hbefore hne
    split at hbefore
    · -- one step back: the way is part of the way that was made
      have hlonger : place.dropLast <+: place := List.dropLast_prefix place
      refine hr names (hbefore.trans hlonger) fun heq => ?_
      rename_i hback
      rw [if_pos hback, heq] at hne
      rw [heq] at hbefore
      exact hne (hbefore.eq_of_length_le hlonger.length_le)
    · rename_i hon
      rw [if_neg hon] at hne
      rcases List.prefix_concat_iff.mp hbefore with heq | hshorter
      · exact absurd heq hne
      · by_cases hself : names = place
        · rw [hself]; exact hfolder
        · exact hr names hshorter hself

theorem Reached.steps {f : Folder} {place next : List Text} {names : List Text}
    (hr : f.Reached place) (h : names.foldlM f.step place = .ok next) : f.Reached next := by
  induction names generalizing place with
  | nil => cases h; exact hr
  | cons name names ih =>
      rw [List.foldlM_cons] at h
      cases hstep : f.step place name with
      | error cause => rw [hstep] at h; exact nomatch h
      | ok between =>
          rw [hstep] at h
          exact ih (hr.step hstep) h

/-- If a path can be walked in one folder nothing but its steps decides in another. -/
theorem walk_eq_steps {f : Folder} {path : Text} {place : List Text}
    (h : f.walk path = .ok place) (g : Folder) :
    g.walk path = (steps path).foldlM g.step (g.start path) := by
  rw [walk, follow] at h ⊢
  split at h
  · exact nomatch h
  · rename_i hnull
    split at h
    · exact nomatch h
    · rename_i hempty
      split at h
      · exact nomatch h
      · rename_i hlong
        rw [if_neg hnull, if_neg hempty, if_neg hlong]

/-- Where a path leads is reached through folders. -/
theorem walk_reached {f : Folder} {path : Text} {place : List Text}
    (h : f.walk path = .ok place) : f.Reached place :=
  (reached_start f path).steps ((walk_eq_steps h f).symm.trans h)

/-! ## Putting a node at a place -/

@[simp]
theorem put_home (f : Folder) (place : List Text) (node : FileNode) :
    (f.put place node).home = f.home := by
  rw [put]
  split
  · rfl
  · rfl

@[simp]
theorem put_start (f : Folder) (place : List Text) (node : FileNode) (path : Text) :
    (f.put place node).start path = f.start path := by
  rw [start, start, put_home]

theorem lookup_put_self (f : Folder) (place : List Text) (node : FileNode) :
    (f.put place node).entries.lookup place = some node := by
  rw [put]
  split
  · rename_i hany
    -- the entry that is there is the one that is exchanged
    generalize f.entries = entries at hany
    induction entries with
    | nil => exact nomatch hany
    | cons entry entries ih =>
        obtain ⟨names, old⟩ := entry
        by_cases hnames : names = place
        · simp [hnames]
        · have hrest : entries.any (fun entry => entry.1 = place) = true := by
            simpa [hnames] using hany
          have hbeq : (place == names) = false := by
            simpa using fun h : place = names => hnames h.symm
          simpa [hnames, List.lookup_cons, hbeq] using ih hrest
  · rename_i hany
    have hnone : f.entries.lookup place = none := by
      rw [List.lookup_eq_none_iff]
      intro entry hentry
      have hne : entry.1 ≠ place := by
        intro heq
        exact hany (List.any_eq_true.mpr ⟨entry, hentry, by simpa using heq⟩)
      simpa using fun h : place = entry.1 => hne h.symm
    simp [List.lookup_append, hnone]

theorem lookup_put_of_ne (f : Folder) {place names : List Text} (node : FileNode)
    (h : names ≠ place) :
    (f.put place node).entries.lookup names = f.entries.lookup names := by
  have hbeq : (names == place) = false := by simpa using h
  rw [put]
  split
  · generalize f.entries = entries
    induction entries with
    | nil => rfl
    | cons entry entries ih =>
        obtain ⟨other, old⟩ := entry
        by_cases hother : other = place
        · simpa [hother, List.lookup_cons, hbeq] using ih
        · simp [hother, List.lookup_cons, ih]
  · simp [List.lookup_append, List.lookup_cons, hbeq]

/-- What entries lie under a place changes by the new entry at most. -/
theorem any_put (f : Folder) (place names : List Text) (node : FileNode) :
    ((f.put place node).entries.any fun entry => names.isPrefixOf entry.1)
      = ((f.entries.any fun entry => names.isPrefixOf entry.1) || names.isPrefixOf place) := by
  rw [put]
  split
  · rename_i hany
    obtain ⟨entry, hentry, heq⟩ := List.any_eq_true.mp hany
    have hkeys : ∀ e : List Text × FileNode,
        (if e.1 = place then (place, node) else e).1 = e.1 := by
      intro e
      split
      · rename_i h; exact h.symm
      · rfl
    simp only [List.any_map, Function.comp_def, hkeys]
    cases hbefore : names.isPrefixOf place with
    | false => rw [Bool.or_false]
    | true =>
        rw [Bool.or_true]
        refine List.any_eq_true.mpr ⟨entry, hentry, ?_⟩
        rw [show entry.1 = place by simpa using heq]
        exact hbefore
  · simp [List.any_append]

/-- At the place stands what was put there, unless it is on the way to the folder that a run
    works in. -/
theorem at?_put_self {f : Folder} {place : List Text} (node : FileNode)
    (h : f.at? place ≠ some .folder) : (f.put place node).at? place = some node := by
  rw [at?, put_home, not_prefix_home h, if_neg Bool.false_ne_true, lookup_put_self]

/-- **Nothing else is changed** by what is put at a place that lies in folders. -/
theorem at?_put_of_ne {f : Folder} {place names : List Text} (node : FileNode)
    (hr : f.Reached place) (hne : names ≠ place) : (f.put place node).at? names = f.at? names := by
  by_cases hbefore : names.isPrefixOf place = true
  · -- a folder on the way stays a folder
    have hfolder := hr names (List.isPrefixOf_iff_prefix.mp hbefore) hne
    rw [hfolder]
    rw [at?] at hfolder ⊢
    rw [put_home, lookup_put_of_ne f node hne, any_put]
    split at hfolder
    · rename_i h; rw [if_pos h]
    · rename_i h
      rw [if_neg h]
      cases hlookup : f.entries.lookup names with
      | some other => rw [hlookup] at hfolder; exact hfolder
      | none => simp [hbefore]
  · rw [at?, at?, put_home, lookup_put_of_ne f node hne, any_put, Bool.eq_false_iff.mpr hbefore,
      Bool.or_false]

/-! ## Writing a file -/

/-- A path that can be written to leads to a place that is reached through folders and is none
    itself, and it is not written as that of a folder. -/
theorem placeToWrite_eq_ok {f : Folder} {path : Text} {place : List Text}
    (h : f.placeToWrite path = .ok place) :
    endsInSlash path = false ∧ f.walk path = .ok place ∧ f.at? place ≠ some .folder := by
  rw [placeToWrite] at h
  split at h
  · split at h
    · exact nomatch h
    · exact nomatch h
  · rename_i hslash
    refine ⟨Bool.eq_false_iff.mpr hslash, ?_⟩
    cases hwalk : f.walk path with
    | error cause => rw [hwalk] at h; exact nomatch h
    | ok target =>
        rw [hwalk] at h
        dsimp only at h
        split at h
        · exact nomatch h
        · rename_i hnone
          cases h
          exact ⟨rfl, fun hfolder => hnone hfolder⟩

/-- A walk that was made before a file is put at a place that is no folder can be made
    afterwards. -/
theorem steps_put {f : Folder} {place : List Text} (node : FileNode)
    (hr : f.Reached place) (hplace : f.at? place ≠ some .folder) {names : List Text}
    {here there : List Text} (h : names.foldlM f.step here = .ok there) :
    names.foldlM (f.put place node).step here = .ok there := by
  induction names generalizing here with
  | nil => exact h
  | cons name names ih =>
      rw [List.foldlM_cons] at h ⊢
      cases hstep : f.step here name with
      | error cause => rw [hstep] at h; exact nomatch h
      | ok between =>
          -- a step is made from a folder, so not from the place that is written
          have hfolder := (step_eq_ok hstep).1
          have hne : here ≠ place := fun heq => hplace (heq ▸ hfolder)
          have hsame : (f.put place node).step here name = f.step here name := by
            rw [step, step, at?_put_of_ne node hr hne]
          rw [hsame, hstep]
          rw [hstep] at h
          exact ih h

/-- **What was written is read back** by the path that it was written to. -/
theorem read_put {f : Folder} {path : Text} {place : List Text} (bytes : List UInt8)
    (h : f.placeToWrite path = .ok place) : (f.put place (.file bytes)).read path = .ok bytes := by
  obtain ⟨hslash, hwalk, hplace⟩ := placeToWrite_eq_ok h
  have hsteps : (steps path).foldlM f.step (f.start path) = .ok place :=
    (walk_eq_steps hwalk f).symm.trans hwalk
  have hwalkPut : (f.put place (.file bytes)).walk path = .ok place := by
    rw [walk_eq_steps hwalk, put_start]
    exact steps_put (.file bytes) (walk_reached hwalk) hplace hsteps
  rw [read, hwalkPut]
  dsimp only
  rw [at?_put_self (.file bytes) hplace]
  dsimp only
  rw [hslash, if_neg Bool.false_ne_true]

end PointerBindings.Folder
