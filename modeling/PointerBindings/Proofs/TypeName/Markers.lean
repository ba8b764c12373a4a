import PointerBindings.Proofs.Text.Blank
import PointerBindings.TypeName

/-! # Markers — where the base of a type name ends

    The markers of a name are read off from its end until something else stands there.  What
    is left ends in no marker, and there is only one way to divide a name so
    (`divideLine_eq_iff`); the last marker decides whether the name is that of a
    reference. -/

namespace PointerBindings

open Text

/-- The text ends in no marker. -/
def EndsClear (t : Text) : Prop :=
  ∀ m : Marker, ¬ m.spelling <:+ t

/-- What a clear text ends with is clear. -/
theorem EndsClear.of_suffix {t rest : Text} (h : EndsClear t) (hrest : rest <:+ t) :
    EndsClear rest :=
  fun m hm => h m (hm.trans hrest)

theorem spellMarkers_append (front back : List Marker) :
    spellMarkers (front ++ back) = spellMarkers front ++ spellMarkers back :=
  List.flatMap_append

theorem spellMarkers_singleton (m : Marker) : spellMarkers [m] = m.spelling :=
  List.append_nil _

/-- Every character of markers is one of a marker. -/
theorem mem_spellMarkers {c : Char} {ms : List Marker} (h : c ∈ spellMarkers ms) :
    c ∈ ['[', ']', '&', '*'] := by
  obtain ⟨m, -, hm⟩ := List.mem_flatMap.mp h
  have hspelled : m.spelling ⊆ ['[', ']', '&', '*'] := by
    cases m with
    | _ => decide
  exact hspelled hm

/-! ## Taking markers off -/

theorem takeMarkers_marker (m : Marker) (rest : Text) (taken : List Marker) :
    takeMarkers (m.spelling.reverse ++ rest) taken = takeMarkers rest (m :: taken) := by
  cases m with
  | _ => rfl

/-- Markers that are written are taken off again. -/
theorem takeMarkers_spellMarkers (ms : List Marker) (rest : Text) (taken : List Marker) :
    takeMarkers ((spellMarkers ms).reverse ++ rest) taken = takeMarkers rest (ms ++ taken) := by
  induction ms using List.reverseRecOn generalizing taken with
  | nil => rfl
  | append_singleton ms m ih =>
      rw [spellMarkers_append, spellMarkers_singleton, List.reverse_append, List.append_assoc,
        takeMarkers_marker, ih, List.append_assoc, List.singleton_append]

/-- Nothing is taken off a clear text. -/
theorem takeMarkers_of_endsClear {t : Text} (h : EndsClear t) (taken : List Marker) :
    takeMarkers t.reverse taken = (t, taken) := by
  have hclear : ∀ (m : Marker) (rest : Text), t.reverse ≠ m.spelling.reverse ++ rest := by
    intro m rest heq
    refine h m ⟨rest.reverse, ?_⟩
    rw [← List.reverse_reverse t, heq, List.reverse_append, List.reverse_reverse]
  rw [takeMarkers.eq_def]
  split
  · rename_i rest heq
    exact absurd heq (hclear .pointer rest)
  · rename_i rest heq
    exact absurd heq (hclear .reference rest)
  · rename_i rest heq
    exact absurd heq (hclear .array rest)
  · rw [List.reverse_reverse]

/-- Every name is what markers are taken off until it is clear. -/
theorem exists_endsClear (t : Text) :
    ∃ (base : Text) (ms : List Marker), EndsClear base ∧ t = base ++ spellMarkers ms := by
  by_cases h : ∃ m : Marker, m.spelling <:+ t
  · obtain ⟨m, front, hfront⟩ := h
    have hshorter : front.length < t.length := by
      rw [← hfront, List.length_append]
      cases m with
      | _ => exact Nat.lt_add_of_pos_right (by decide)
    obtain ⟨base, ms, hclear, hbase⟩ := exists_endsClear front
    refine ⟨base, ms ++ [m], hclear, ?_⟩
    rw [spellMarkers_append, spellMarkers_singleton, ← List.append_assoc, ← hbase, hfront]
  · exact ⟨t, [], fun m hm => h ⟨m, hm⟩, (List.append_nil t).symm⟩
termination_by t.length

/-- **A name is divided** where its base ends in no marker, and nowhere else. -/
theorem divideLine_eq_iff {t base : Text} {ms : List Marker} :
    divideLine t = (base, ms) ↔ EndsClear base ∧ t = base ++ spellMarkers ms := by
  have hspelled : ∀ (base : Text) (ms : List Marker), EndsClear base →
      divideLine (base ++ spellMarkers ms) = (base, ms) := by
    intro base ms hclear
    rw [divideLine, List.reverse_append, takeMarkers_spellMarkers, List.append_nil,
      takeMarkers_of_endsClear hclear]
  constructor
  · intro h
    obtain ⟨base', ms', hclear, rfl⟩ := exists_endsClear t
    rw [hspelled base' ms' hclear] at h
    cases h
    exact ⟨hclear, rfl⟩
  · rintro ⟨hclear, rfl⟩
    exact hspelled base ms hclear

theorem divideLine_of_endsClear {t : Text} (h : EndsClear t) : divideLine t = (t, []) :=
  divideLine_eq_iff.mpr ⟨h, (List.append_nil t).symm⟩

theorem endsClear_divideLine (t : Text) : EndsClear (divideLine t).1 :=
  (divideLine_eq_iff.mp rfl).1

theorem eq_of_divideLine (t : Text) : t = (divideLine t).1 ++ spellMarkers (divideLine t).2 :=
  (divideLine_eq_iff.mp rfl).2

/-- A name without markers is its own base. -/
theorem divideLine_of_markers_nil {t : Text} (h : (divideLine t).2 = []) : (divideLine t).1 = t := by
  conv_rhs => rw [eq_of_divideLine t, h]
  exact (List.append_nil _).symm

/-- Markers behind a name stand behind its own. -/
theorem divideLine_append (t : Text) (ms : List Marker) :
    divideLine (t ++ spellMarkers ms) = ((divideLine t).1, (divideLine t).2 ++ ms) := by
  refine divideLine_eq_iff.mpr ⟨endsClear_divideLine t, ?_⟩
  rw [spellMarkers_append, ← List.append_assoc, ← eq_of_divideLine]

/-- The name is a base with markers behind it, and no longer run of markers stands at its end. -/
structure DividesInto (name base : Text) (markers : List Marker) : Prop where
  eq : name = base ++ spellMarkers markers
  longest : ∀ front more, name = front ++ spellMarkers more →
    (spellMarkers more).length ≤ (spellMarkers markers).length

/-- A base is clear exactly if the markers behind it are the longest run. -/
theorem dividesInto_iff {name base : Text} {markers : List Marker} :
    DividesInto name base markers ↔ divideLine name = (base, markers) := by
  constructor
  · rintro ⟨rfl, hlongest⟩
    refine divideLine_eq_iff.mpr ⟨?_, rfl⟩
    rintro m ⟨front, rfl⟩
    -- a marker at the end of the base would make the run longer
    have hlonger := hlongest front (m :: markers) (by
      rw [List.append_assoc, spellMarkers, spellMarkers, List.flatMap_cons])
    rw [spellMarkers, spellMarkers, List.flatMap_cons, List.length_append] at hlonger
    have hmarker : 0 < m.spelling.length := by
      cases m with
      | _ => decide
    omega
  · intro h
    refine ⟨(divideLine_eq_iff.mp h).2, ?_⟩
    rintro front more rfl
    rw [divideLine_append] at h
    rw [← (Prod.mk.inj h).2, spellMarkers_append, List.length_append]
    omega

/-! ## What a name ends with -/

/-- A text that ends in a marker has the last character of that marker. -/
theorem getLast?_of_marker {t : Text} {m : Marker} (h : m.spelling <:+ t) :
    t.getLast? = m.spelling.getLast? := by
  obtain ⟨front, rfl⟩ := h
  rw [List.getLast?_append]
  cases m with
  | _ => rfl

/-- A text does not end in two different markers. -/
theorem marker_eq_of_suffix {t : Text} {m m' : Marker} (h : m.spelling <:+ t)
    (h' : m'.spelling <:+ t) : m = m' := by
  have hlast : m.spelling.getLast? = m'.spelling.getLast? :=
    (getLast?_of_marker h).symm.trans (getLast?_of_marker h')
  revert hlast
  cases m with
  | _ =>
      cases m' with
      | _ => decide

/-- The marker that a name ends in is the last of its markers. -/
theorem marker_suffix_iff {t : Text} {m : Marker} :
    m.spelling <:+ t ↔ (divideLine t).2.getLast? = some m := by
  obtain ⟨base, ms, hclear, ht⟩ := exists_endsClear t
  rw [divideLine_eq_iff.mpr ⟨hclear, ht⟩]
  rcases List.eq_nil_or_concat ms with rfl | ⟨front, last, rfl⟩
  · rw [ht, spellMarkers, List.flatMap_nil, List.append_nil]
    exact ⟨fun h => absurd h (hclear m), nofun⟩
  · have hends : last.spelling <:+ t := by
      rw [ht, List.concat_eq_append, spellMarkers_append, spellMarkers_singleton,
        ← List.append_assoc]
      exact List.suffix_append _ _
    dsimp only
    rw [List.concat_eq_append, List.getLast?_concat]
    constructor
    · intro h
      rw [marker_eq_of_suffix h hends]
    · intro h
      rw [← Option.some.inj h]
      exact hends

theorem endsInReference_iff {t : Text} :
    endsInReference t = true ↔ Marker.reference.spelling <:+ t := by
  rw [endsInReference, decide_eq_true_iff, List.getLast?_eq_some_iff]
  exact ⟨fun ⟨front, h⟩ => ⟨front, h.symm⟩, fun ⟨front, h⟩ => ⟨front, h.symm⟩⟩

theorem endsInArray_iff {t : Text} : endsInArray t = true ↔ Marker.array.spelling <:+ t := by
  rw [endsInArray]
  constructor
  · intro h
    split at h
    · rename_i front hreverse
      exact ⟨front.reverse, by rw [← List.reverse_reverse t, hreverse]; simp [Marker.spelling]⟩
    · exact nomatch h
  · rintro ⟨front, rfl⟩
    rw [List.reverse_append]
    rfl

/-! ## Names that can be divided -/

theorem dropFinal_of_notMem {c : Char} {t : Text} (h : c ∉ t) : dropFinal c t = t :=
  if_neg fun hlast => h (List.mem_of_getLast? hlast)

/-- A name can be divided if there is no line feed but one at its end, and it is divided as the
    line without that is. -/
theorem divideName?_eq_some_iff {name : Text} {parts : Text × List Marker} :
    divideName? name = some parts
      ↔ '\n' ∉ dropFinal '\n' name ∧ divideLine (dropFinal '\n' name) = parts := by
  rw [divideName?]
  split
  · rename_i hfeed
    exact ⟨nofun, fun h => absurd hfeed h.1⟩
  · rename_i hline
    rw [Option.some.injEq]
    exact ⟨fun h => ⟨hline, h⟩, And.right⟩

/-- A name on one line can be divided. -/
theorem divideName?_of_oneLine {t : Text} (h : '\n' ∉ t) : divideName? t = some (divideLine t) := by
  rw [divideName?_eq_some_iff, dropFinal_of_notMem h]
  exact ⟨h, rfl⟩

/-- A trimmed name that can be divided is on one line. -/
theorem oneLine_of_divideName? {t : Text} (ht : IsTrimmed t) {parts : Text × List Marker}
    (h : divideName? t = some parts) : '\n' ∉ t ∧ parts = divideLine t := by
  have hlast : t.getLast? ≠ some '\n' := fun hlast => nomatch ht.2 _ hlast
  have hline : dropFinal '\n' t = t := if_neg hlast
  rw [divideName?_eq_some_iff, hline] at h
  exact ⟨h.1, h.2.symm⟩

end PointerBindings
