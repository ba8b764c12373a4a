import PointerBindings.Catalog
import PointerBindings.Proofs.TypeName.Markers

/-! # Readings — a name as it is read from its front

    Read from its front, a name is a base that stays on its line, then markers, then the end or
    one line feed before it.  A name has several readings where markers may as well be left to
    the base, and it has none where it goes on behind a line feed.  The markers that are taken
    off from the end are those of the reading whose base is the shortest
    (`firstReading_iff`), so a name on one line has the longest run of markers, its base is
    divided no further, and the last marker tells arrays and references
    (`divideName?_takes_longest_run`). -/

namespace PointerBindings

open Text

/-! ## Line feeds at the end -/

theorem dropFinal_concat (c : Char) (t : Text) : dropFinal c (t ++ [c]) = t := by
  rw [dropFinal, if_pos List.getLast?_concat, List.dropLast_concat]

/-- What is dropped from a text is one character at its end, or nothing. -/
theorem eq_dropFinal_or (c : Char) (t : Text) : t = dropFinal c t ∨ t = dropFinal c t ++ [c] := by
  by_cases h : t.getLast? = some c
  · obtain ⟨front, rfl⟩ := List.getLast?_eq_some_iff.mp h
    exact Or.inr (by rw [dropFinal_concat])
  · exact Or.inl (if_neg h).symm

/-! ## Readings -/

/-- One way to read a name: a base on one line, markers behind it, and then the end or a line feed
    and the end. -/
structure Reading (name base : Text) (markers : List Marker) : Prop where
  oneLine : '\n' ∉ base
  eq : name = base ++ spellMarkers markers ∨ name = base ++ spellMarkers markers ++ ['\n']

/-- The first reading that is found if shorter bases are tried before longer ones. -/
structure FirstReading (name base : Text) (markers : List Marker) : Prop
    extends Reading name base markers where
  shortest : ∀ other more, Reading name other more → base.length ≤ other.length

section

variable {name base : Text} {markers : List Marker}

/-- A reading ends in front of the line feed that is dropped. -/
theorem reading_iff :
    Reading name base markers
      ↔ '\n' ∉ dropFinal '\n' name ∧ dropFinal '\n' name = base ++ spellMarkers markers := by
  constructor
  · rintro ⟨hbase, heq⟩
    have hline : '\n' ∉ base ++ spellMarkers markers :=
      List.not_mem_append hbase fun h => absurd (mem_spellMarkers h) (by decide)
    have hdrop : dropFinal '\n' name = base ++ spellMarkers markers := by
      rcases heq with rfl | rfl
      · exact dropFinal_of_notMem hline
      · exact dropFinal_concat _ _
    exact ⟨hdrop ▸ hline, hdrop⟩
  · rintro ⟨hline, hdrop⟩
    rw [hdrop] at hline
    refine ⟨fun h => hline (List.mem_append_left _ h), ?_⟩
    rw [← hdrop]
    exact eq_dropFinal_or _ _

/-- **A name is divided by its first reading**: what is taken off from the end is what the shortest
    base leaves, and a name that has no reading is not divided. -/
theorem firstReading_iff :
    FirstReading name base markers ↔ divideName? name = some (base, markers) := by
  rw [divideName?_eq_some_iff, ← dividesInto_iff]
  constructor
  · rintro ⟨hreading, hshortest⟩
    obtain ⟨hline, hdrop⟩ := reading_iff.mp hreading
    refine ⟨hline, hdrop, fun front more hmore => ?_⟩
    -- of one line, a base that is no longer leaves markers that are no shorter
    have hbase := hshortest front more (reading_iff.mpr ⟨hline, hmore⟩)
    have hlength := congrArg List.length (hdrop.symm.trans hmore)
    rw [List.length_append, List.length_append] at hlength
    omega
  · rintro ⟨hline, hdrop, hlongest⟩
    refine ⟨reading_iff.mpr ⟨hline, hdrop⟩, fun other more hreading => ?_⟩
    have hother := (reading_iff.mp hreading).2
    have hmarkers := hlongest other more hother
    have hlength := congrArg List.length (hdrop.symm.trans hother)
    rw [List.length_append, List.length_append] at hlength
    omega

end

/-! ## Names on one line and others -/

/-- A line feed at the end of a line belongs to neither part. -/
theorem divideName?_concat {line : Text} (h : '\n' ∉ line) :
    divideName? (line ++ ['\n']) = divideName? line := by
  rw [divideName?, divideName?, dropFinal_concat, dropFinal_of_notMem h]

/-- A name that goes on behind a line feed cannot be divided. -/
theorem divideName?_eq_none {name : Text} (hfeed : '\n' ∈ name)
    (hmore : ∀ line, '\n' ∉ line → name ≠ line ++ ['\n']) : divideName? name = none := by
  have hdrop : '\n' ∈ dropFinal '\n' name := by
    rcases eq_dropFinal_or '\n' name with heq | heq
    · rw [← heq]
      exact hfeed
    · by_contra hline
      exact hmore _ hline heq
  exact if_pos hdrop

/-- **The longest run of markers** is taken off a name.  A name on one line is its base with
    markers behind it, by the reading that is found first, where the base ends in no marker; the
    base is divided no further, markers behind the name stand behind its own, and a reference by
    this name is one to a reference or to an array as its last marker says.  A single line feed at
    the very end makes no difference, and a name with any other has no division. -/
theorem divideName?_takes_longest_run (name : Text) :
    ('\n' ∉ name → ∃ base markers, divideName? name = some (base, markers)
      ∧ name = base ++ spellMarkers markers
      ∧ (∀ m : Marker, ¬ m.spelling <:+ base)
      ∧ FirstReading name base markers
      ∧ divideName? base = some (base, [])
      ∧ (∀ more, divideName? (name ++ spellMarkers more) = some (base, markers ++ more))
      ∧ ∀ t : TypeReference, t.fullName = name →
        (t.isByRef = true ↔ markers.getLast? = some .reference)
          ∧ (t.isArray = true ↔ markers.getLast? = some .array))
    ∧ ('\n' ∈ name →
      (∀ line, '\n' ∉ line → name = line ++ ['\n'] → divideName? name = divideName? line)
        ∧ ((∀ line, '\n' ∉ line → name ≠ line ++ ['\n']) → divideName? name = none)) := by
  constructor
  · intro hline
    have hdivided := divideName?_of_oneLine hline
    have hclear := endsClear_divideLine name
    have hbase : '\n' ∉ (divideLine name).1 := by
      intro hm
      rw [eq_of_divideLine name] at hline
      exact hline (List.mem_append_left _ hm)
    refine ⟨(divideLine name).1, (divideLine name).2, hdivided, eq_of_divideLine name, hclear,
      firstReading_iff.mpr hdivided, ?_, ?_, ?_⟩
    · rw [divideName?_of_oneLine hbase, divideLine_of_endsClear hclear]
    · intro more
      have hmore : '\n' ∉ name ++ spellMarkers more :=
        List.not_mem_append hline fun h => absurd (mem_spellMarkers h) (by decide)
      rw [divideName?_of_oneLine hmore, divideLine_append]
    · rintro t rfl
      exact ⟨endsInReference_iff.trans marker_suffix_iff, endsInArray_iff.trans marker_suffix_iff⟩
  · intro hfeed
    refine ⟨?_, divideName?_eq_none hfeed⟩
    rintro line hline rfl
    exact divideName?_concat hline

/-- Brackets that belong to no array stay in the base, on a line that ends in a line feed too. -/
theorem divideName?_takes_longest_run_brackets :
    ('\n' ∉ "N.List[[]]&*[]".toList ∧ '\n' ∈ "N.List[[]]&*[]\n".toList)
      ∧ divideName? "N.List[[]]&*[]".toList
        = some ("N.List[[]]".toList, [.reference, .pointer, .array])
      ∧ divideName? "N.List[[]]&*[]\n".toList = divideName? "N.List[[]]&*[]".toList := by
  have hline : '\n' ∉ "N.List[[]]&*[]".toList := by decide
  have hfeed : '\n' ∈ "N.List[[]]&*[]\n".toList := by decide
  obtain ⟨base, markers, hdivided, -⟩ :=
    (divideName?_takes_longest_run "N.List[[]]&*[]".toList).1 hline
  obtain ⟨hsame, -⟩ := (divideName?_takes_longest_run "N.List[[]]&*[]\n".toList).2 hfeed
  have hparts : (base, markers) = ("N.List[[]]".toList, [.reference, .pointer, .array]) :=
    Option.some.inj (hdivided.symm.trans (by decide))
  rw [hparts] at hdivided
  exact ⟨⟨hline, hfeed⟩, hdivided, hsame _ hline rfl⟩

end PointerBindings
