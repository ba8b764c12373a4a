import PointerBindings.Proofs.TypeName.Markers
import PointerBindings.Unmanaged.Reflected

/-! # Markers of unmanaged types — what becomes of the end of a type name

    A type keeps the markers of its name behind a stem, which is on one line and has no markers
    of its own but stars.  Characters may be exchanged in a stem and in the markers apart: plus
    signs become points in the stem only, and a parameter whose reference is erased has a pointer
    where the reference was (`divideLine_exchange_reference`). -/

namespace PointerBindings

open Text

/-! ## Characters exchanged -/

theorem exchange_append (old new : Char) (a b : Text) :
    exchange old new (a ++ b) = exchange old new a ++ exchange old new b :=
  List.map_append

theorem exchange_of_notMem {old new : Char} {t : Text} (h : old ∉ t) : exchange old new t = t := by
  have hsame : ∀ c ∈ t, (if c = old then new else c) = id c := by
    intro c hc
    have hold : c ≠ old := fun heq => h (heq ▸ hc)
    exact if_neg hold
  rw [exchange, List.map_congr_left hsame, List.map_id]

/-- A character that comes out of an exchange was there before or is the new one. -/
theorem mem_exchange {old new c : Char} {t : Text} (h : c ∈ exchange old new t) :
    c ∈ t ∨ c = new := by
  obtain ⟨d, hd, rfl⟩ := List.mem_map.mp h
  by_cases hold : d = old
  · exact Or.inr (if_pos hold)
  · exact Or.inl ((if_neg hold).symm ▸ hd)

/-- What comes out of an exchange without the new character went in unchanged. -/
theorem eq_of_exchange_eq {old new : Char} {t s : Text} (h : exchange old new t = s)
    (hnew : new ∉ s) : t = s := by
  induction t generalizing s with
  | nil => exact h
  | cons c t ih =>
      cases s with
      | nil => exact nomatch h
      | cons d s =>
          have hhead : (if c = old then new else c) = d := (List.cons.inj h).1
          have hd : d ≠ new := fun heq => hnew (heq ▸ List.mem_cons_self)
          have hc : c ≠ old := fun heq => hd (hhead.symm.trans (if_pos heq))
          rw [if_neg hc] at hhead
          rw [hhead, ih (List.cons.inj h).2 fun hm => hnew (List.mem_cons_of_mem d hm)]

/-- A clear text stays clear when its plus signs become points. -/
theorem EndsClear.exchange_plus {t : Text} (h : EndsClear t) : EndsClear (exchange '+' '.' t) := by
  intro m hm
  obtain ⟨s, hs, hspelled⟩ := List.suffix_map_iff.mp hm
  have hpoint : '.' ∉ m.spelling := by
    cases m with
    | _ => decide
  exact h m (eq_of_exchange_eq hspelled.symm hpoint ▸ hs)

/-- A clear text stays clear when its reference marks become stars: none of them is at its
    end. -/
theorem EndsClear.exchange_reference {t : Text} (h : EndsClear t) :
    EndsClear (exchange '&' '*' t) := by
  intro m hm
  obtain ⟨s, hs, hspelled⟩ := List.suffix_map_iff.mp hm
  cases m with
  | array => exact h .array (eq_of_exchange_eq hspelled.symm (by decide) ▸ hs)
  | reference => exact h .reference (eq_of_exchange_eq hspelled.symm (by decide) ▸ hs)
  | pointer =>
      -- a star at the end was a star or a reference mark
      have hlength : s.length = 1 := by
        rw [← List.length_map, ← hspelled]
        rfl
      obtain ⟨c, rfl⟩ := List.length_eq_one_iff.mp hlength
      have hc : '*' = if c = '&' then '*' else c := (List.cons.inj hspelled).1
      by_cases hmark : c = '&'
      · rw [hmark] at hs
        exact h .reference hs
      · rw [if_neg hmark] at hc
        rw [← hc] at hs
        exact h .pointer hs

theorem exchange_plus_spellMarkers (ms : List Marker) :
    exchange '+' '.' (spellMarkers ms) = spellMarkers ms := by
  induction ms with
  | nil => rfl
  | cons m ms ih =>
      rw [spellMarkers, List.flatMap_cons, exchange_append]
      rw [show exchange '+' '.' (ms.flatMap Marker.spelling) = ms.flatMap Marker.spelling from ih]
      cases m with
      | _ => rfl

/-- A reference marker read as a pointer marker. -/
def Marker.erased : Marker → Marker
  | .reference => .pointer
  | m => m

theorem exchange_reference_spellMarkers (ms : List Marker) :
    exchange '&' '*' (spellMarkers ms) = spellMarkers (ms.map Marker.erased) := by
  induction ms with
  | nil => rfl
  | cons m ms ih =>
      rw [spellMarkers, List.flatMap_cons, exchange_append, List.map_cons, spellMarkers,
        List.flatMap_cons]
      rw [show exchange '&' '*' (ms.flatMap Marker.spelling)
        = (ms.map Marker.erased).flatMap Marker.spelling from ih]
      cases m with
      | _ => rfl

/-- Erasing references erases those among the markers. -/
theorem divideLine_exchange_reference (t : Text) :
    divideLine (exchange '&' '*' t)
      = (exchange '&' '*' (divideLine t).1, (divideLine t).2.map Marker.erased) := by
  refine divideLine_eq_iff.mpr ⟨(endsClear_divideLine t).exchange_reference, ?_⟩
  conv_lhs => rw [eq_of_divideLine t]
  rw [exchange_append, exchange_reference_spellMarkers]

/-! ## Stems -/

/-- What stands in front of the markers that a type keeps: it stays on one line, and its own
    markers are stars. -/
structure IsStem (t : Text) : Prop where
  oneLine : '\n' ∉ t
  stars : ∀ m ∈ (divideLine t).2, m = .pointer

theorem EndsClear.isStem {t : Text} (h : EndsClear t) (hline : '\n' ∉ t) : IsStem t where
  oneLine := hline
  stars := by
    rw [divideLine_of_endsClear h]
    exact fun _ hm => nomatch hm

theorem newline_notMem_spellMarkers (ms : List Marker) : '\n' ∉ spellMarkers ms :=
  fun h => absurd (mem_spellMarkers h) (by decide)

/-- Markers behind a stem do not break its line. -/
theorem IsStem.oneLine_append {stem : Text} (h : IsStem stem) (ms : List Marker) :
    '\n' ∉ stem ++ spellMarkers ms :=
  List.not_mem_append h.oneLine (newline_notMem_spellMarkers ms)

theorem IsStem.divideName?_append {stem : Text} (h : IsStem stem) (ms : List Marker) :
    divideName? (stem ++ spellMarkers ms) = some ((divideLine stem).1, (divideLine stem).2 ++ ms) := by
  rw [divideName?_of_oneLine (h.oneLine_append ms), divideLine_append]

theorem IsStem.exchange_reference {stem : Text} (h : IsStem stem) :
    IsStem (exchange '&' '*' stem) where
  oneLine := by
    intro hm
    rcases mem_exchange hm with hstem | hstar
    · exact h.oneLine hstem
    · exact absurd hstar (by decide)
  stars := by
    rw [divideLine_exchange_reference]
    intro m hm
    obtain ⟨before, hbefore, rfl⟩ := List.mem_map.mp hm
    rw [h.stars before hbefore]
    rfl

/-! ## Parameters -/

section Parameters

variable {q : ReflectedParameter} {o : TypePolicy}

/-- A parameter passed by value is spelled as its type is. -/
theorem ReflectedParameter.typeText?_of_value (h : q.type.isByRef = false) :
    q.typeText? o = q.type.unmanaged? o := by
  rw [typeText?, h]
  exact Option.map_id_apply

/-- A parameter passed by reference becomes a pointer where references are erased. -/
theorem ReflectedParameter.typeText?_of_erased (h : q.type.isByRef = true)
    (herase : o.keepsByRef = false) :
    q.typeText? o = (q.type.unmanaged? o).map (exchange '&' '*') := by
  rw [typeText?, h, herase]
  rfl

/-- A parameter passed by reference has its direction in front where references are kept. -/
theorem ReflectedParameter.typeText?_of_kept (h : q.type.isByRef = true)
    (hkeep : o.keepsByRef = true) :
    q.typeText? o
      = (q.type.unmanaged? o).map fun text => q.direction ++ ' ' :: dropReferences text := by
  rw [typeText?, h, hkeep]
  rfl

end Parameters

end PointerBindings
