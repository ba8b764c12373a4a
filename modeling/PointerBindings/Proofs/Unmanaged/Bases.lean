import PointerBindings.Proofs.Tables
import PointerBindings.Proofs.Unmanaged.Markers

/-! # Bases of unmanaged types — what stands in front of the markers

    The new base of a type is made of the old one in two steps: first its plain base, without
    the namespace and with points for the plus signs, and then the native spelling of it, if
    it has one.  Either way the base is on one line and brings no marker but stars, so that
    the markers of the name follow it unharmed (`TypeReference.unmanaged?_eq`). -/

namespace PointerBindings

open Text

/-! ## Names without their namespace -/

/-- A point is in no marker, so what stands in front of one belongs to the base. -/
theorem divideLine_point (front rest : Text) :
    divideLine (front ++ '.' :: rest)
      = (front ++ '.' :: (divideLine rest).1, (divideLine rest).2) := by
  refine divideLine_eq_iff.mpr ⟨?_, ?_⟩
  · intro m hm
    have hpoint : '.' ∉ m.spelling := by
      cases m with
      | _ => decide
    have hrest : '.' :: (divideLine rest).1 <:+ front ++ '.' :: (divideLine rest).1 :=
      List.suffix_append _ _
    rcases List.suffix_or_suffix_of_suffix hm hrest with hshort | hlong
    · rcases List.suffix_cons_iff.mp hshort with heq | hbase
      · exact hpoint (heq ▸ List.mem_cons_self)
      · exact endsClear_divideLine rest m hbase
    · exact hpoint (hlong.subset List.mem_cons_self)
  · rw [List.append_assoc, List.cons_append, ← eq_of_divideLine]

/-- The text without the namespace and the point it begins with, if it begins so. -/
def shedNamespace (namespaceName t : Text) : Text :=
  if namespaceName = [] then t else (after? (namespaceName ++ ['.']) t).getD t

theorem shedNamespace_nil (t : Text) : shedNamespace [] t = t :=
  if_pos rfl

theorem shedNamespace_append {namespaceName : Text} (h : namespaceName ≠ []) (rest : Text) :
    shedNamespace namespaceName (namespaceName ++ '.' :: rest) = rest := by
  have hfront : namespaceName ++ '.' :: rest = namespaceName ++ ['.'] ++ rest := by
    rw [List.append_assoc, List.singleton_append]
  rw [shedNamespace, if_neg h, after?_eq_some_iff.mpr hfront, Option.getD_some]

theorem shedNamespace_of_absent {namespaceName t : Text}
    (h : ¬ namespaceName ++ ['.'] <+: t) : shedNamespace namespaceName t = t := by
  rw [shedNamespace]
  split
  · rfl
  · cases hafter : after? (namespaceName ++ ['.']) t with
    | some rest => exact absurd ⟨rest, (after?_eq_some_iff.mp hafter).symm⟩ h
    | none => rfl

/-- A namespace stands in front and is shed, or the text stays as it is. -/
theorem shedNamespace_cases (namespaceName t : Text) :
    (∃ rest, namespaceName ≠ [] ∧ t = namespaceName ++ '.' :: rest
        ∧ shedNamespace namespaceName t = rest)
      ∨ (namespaceName = [] ∨ ¬ namespaceName ++ ['.'] <+: t)
        ∧ shedNamespace namespaceName t = t := by
  by_cases hnone : namespaceName = []
  · refine Or.inr ⟨Or.inl hnone, ?_⟩
    rw [hnone, shedNamespace_nil]
  · by_cases hprefix : namespaceName ++ ['.'] <+: t
    · obtain ⟨rest, hrest⟩ := hprefix
      rw [List.append_assoc, List.singleton_append] at hrest
      refine Or.inl ⟨rest, hnone, hrest.symm, ?_⟩
      rw [← hrest, shedNamespace_append hnone]
    · exact Or.inr ⟨Or.inr hprefix, shedNamespace_of_absent hprefix⟩

theorem shedNamespace_suffix (namespaceName t : Text) : shedNamespace namespaceName t <:+ t := by
  rcases shedNamespace_cases namespaceName t with ⟨rest, -, ht, hshed⟩ | ⟨-, hshed⟩
  · rw [hshed, ht]
    exact (List.suffix_cons '.' rest).trans (List.suffix_append _ _)
  · exact ⟨[], hshed⟩

/-- A namespace ends in a point, so all of it is shed from the base. -/
theorem divideLine_shedNamespace (namespaceName t : Text) :
    divideLine (shedNamespace namespaceName t)
      = (shedNamespace namespaceName (divideLine t).1, (divideLine t).2) := by
  rcases shedNamespace_cases namespaceName t with ⟨rest, hne, rfl, hshed⟩ | ⟨hnone, hshed⟩
  · rw [hshed, divideLine_point, shedNamespace_append hne]
  · rw [hshed]
    rcases hnone with rfl | hprefix
    · rw [shedNamespace_nil]
    · -- a namespace in front of the base would be one in front of the text
      have hbase : ¬ namespaceName ++ ['.'] <+: (divideLine t).1 :=
        fun h => hprefix (h.trans ⟨_, (eq_of_divideLine t).symm⟩)
      rw [shedNamespace_of_absent hbase]

/-- The innermost type of a base stands at its end. -/
theorem innermostOfBase_suffix (base : Text) : innermostOfBase base <:+ base := by
  have hcut : ∀ {c : Char} {before after : Text}, cutLast c base = some (before, after) →
      after <:+ base := by
    intro c before after h
    rw [(eq_of_cutLast h).1]
    exact (List.suffix_cons c after).trans (List.suffix_append before (c :: after))
  rw [innermostOfBase]
  split
  · rename_i h
    exact hcut h
  · split
    · rename_i h
      exact hcut h
    · exact List.suffix_rfl

/-- The namespace that a name shows is that of its outermost type. -/
theorem plus_notMem_namespaceOfBase (base : Text) : '+' ∉ namespaceOfBase base := by
  intro hm
  rw [namespaceOfBase] at hm
  split at hm
  · rename_i namespaceName rest hcut
    have houter : '+' ∈ base.takeWhile (· ≠ '+') := by
      rw [(eq_of_cutLast hcut).1]
      exact List.mem_append_left _ hm
    simpa using List.mem_takeWhile_imp houter
  · exact nomatch hm

/-! ## Plain bases -/

section Spelling

variable {t : TypeReference}

/-- What a type is called without its namespace and its markers. -/
def TypeReference.plainBase (t : TypeReference) : Text :=
  if '+' ∈ t.fullName then exchange '+' '.' (shedNamespace t.namespaceName (divideLine t.fullName).1)
  else innermostOfBase (divideLine t.fullName).1

theorem TypeReference.plainBase_endsClear (t : TypeReference) : EndsClear t.plainBase := by
  have hclear := endsClear_divideLine t.fullName
  rw [plainBase]
  split
  · exact (hclear.of_suffix (shedNamespace_suffix _ _)).exchange_plus
  · exact hclear.of_suffix (innermostOfBase_suffix _)

/-- A plain base has no character but points that the base of the name lacks. -/
theorem TypeReference.mem_plainBase {c : Char} (h : c ∈ t.plainBase) :
    c ∈ (divideLine t.fullName).1 ∨ c = '.' := by
  rw [plainBase] at h
  split at h
  · exact (mem_exchange h).imp_left fun hm => (shedNamespace_suffix _ _).subset hm
  · exact Or.inl ((innermostOfBase_suffix _).subset h)

/-- The base of a name is part of it. -/
theorem mem_of_mem_base {c : Char} {name : Text} (h : c ∈ (divideLine name).1) : c ∈ name := by
  rw [eq_of_divideLine name]
  exact List.mem_append_left _ h

/-- A plus sign is in no marker, so it is in the base. -/
theorem plus_mem_base {name : Text} (h : '+' ∈ name) : '+' ∈ (divideLine name).1 := by
  rw [eq_of_divideLine name] at h
  rcases List.mem_append.mp h with hbase | hmarkers
  · exact hbase
  · exact absurd (mem_spellMarkers hmarkers) (by decide)

theorem TypeReference.plainBase_oneLine (hline : '\n' ∉ t.fullName) : '\n' ∉ t.plainBase := by
  intro hm
  rcases mem_plainBase hm with hbase | hpoint
  · exact hline (mem_of_mem_base hbase)
  · exact absurd hpoint (by decide)

theorem nestedName_eq (t : TypeReference) :
    nestedName t = exchange '+' '.' (shedNamespace t.namespaceName t.fullName) := by
  rw [nestedName, shedNamespace]
  split
  · rfl
  · rfl

/-- **The plain name** is the plain base with the markers of the name behind it. -/
theorem TypeReference.plainName?_eq (hline : '\n' ∉ t.fullName) :
    plainName? t = some (t.plainBase ++ spellMarkers (divideLine t.fullName).2) := by
  rw [plainName?, plainBase]
  split
  · have hshed := divideLine_shedNamespace t.namespaceName t.fullName
    rw [nestedName_eq, (divideLine_eq_iff.mp hshed).2, exchange_append, exchange_plus_spellMarkers]
  · rw [name?, simpleName?, divideName?_of_oneLine hline]
    rfl

/-! ## Native bases -/

/-- Every framework type that has a native spelling stands in one of the tables. -/
theorem mem_of_primitiveSpelling? {word : WordSize} {fullName native : Text}
    (h : primitiveSpelling? word fullName = some native) :
    (fullName, native) ∈ primitiveSpellings ++ wordSpellings := by
  cases word with
  | intPtr => exact List.mem_append_left _ (mem_of_lookup h)
  | nint => exact mem_of_lookup h

/-- Every native spelling is a stem. -/
theorem primitiveSpelling?_isStem {word : WordSize} {fullName native : Text}
    (h : primitiveSpelling? word fullName = some native) : IsStem native := by
  have hall : ∀ entry ∈ primitiveSpellings ++ wordSpellings,
      '\n' ∉ entry.2 ∧ ∀ m ∈ (divideLine entry.2).2, m = .pointer := by decide
  have hentry := hall _ (mem_of_primitiveSpelling? h)
  exact ⟨hentry.1, hentry.2⟩

/-- The plain base, or the native spelling of the framework type that it names inside the
    namespace. -/
def nativeBase (o : TypePolicy) (namespaceName plain : Text) : Text :=
  if o.keepsTypeNames then plain
  else (primitiveSpelling? o.word (qualifiedName namespaceName plain)).getD plain

/-- A native base is the plain one, or a native spelling that has the place of it. -/
theorem nativeBase_cases (o : TypePolicy) (namespaceName plain : Text) :
    nativeBase o namespaceName plain = plain
      ∨ o.keepsTypeNames = false
        ∧ primitiveSpelling? o.word (qualifiedName namespaceName plain)
          = some (nativeBase o namespaceName plain) := by
  rw [nativeBase]
  cases hkeeps : o.keepsTypeNames with
  | true => exact Or.inl rfl
  | false =>
      rw [if_neg Bool.false_ne_true]
      cases hnative : primitiveSpelling? o.word (qualifiedName namespaceName plain) with
      | none => exact Or.inl rfl
      | some native => exact Or.inr ⟨rfl, rfl⟩

theorem nativeBase_isStem (o : TypePolicy) (namespaceName : Text) {plain : Text}
    (hplain : IsStem plain) : IsStem (nativeBase o namespaceName plain) := by
  rcases nativeBase_cases o namespaceName plain with heq | ⟨-, hnative⟩
  · rw [heq]
    exact hplain
  · exact primitiveSpelling?_isStem hnative

/-- **The native name** is the native base with the same markers behind it. -/
theorem nativeName?_eq (o : TypePolicy) {plain : Text} (hclear : EndsClear plain)
    (hline : '\n' ∉ plain) (ms : List Marker) :
    nativeName? o t (plain ++ spellMarkers ms)
      = some (nativeBase o t.namespaceName plain ++ spellMarkers ms) := by
  rw [nativeName?, nativeBase]
  split
  · rfl
  · rw [(hclear.isStem hline).divideName?_append, divideLine_of_endsClear hclear]
    dsimp only
    split
    · rename_i native hnative
      rw [hnative, Option.getD_some, List.nil_append]
    · rename_i hnone
      rw [hnone, Option.getD_none]

/-! ## Whole types -/

/-- The markers that the text of a type keeps. -/
def TypeReference.keptMarkers (t : TypeReference) : List Marker :=
  if t.isArray then (divideLine t.fullName).2.map Marker.decayed else (divideLine t.fullName).2

theorem Marker.decayed_ne_array (m : Marker) : m.decayed ≠ .array := by
  cases m with
  | _ => decide

/-- The array markers of a name with a stem are those behind the stem. -/
theorem IsStem.decayedName?_append {stem : Text} (h : IsStem stem) (ms : List Marker) :
    decayedName? (stem ++ spellMarkers ms)
      = some (stem ++ spellMarkers (ms.map Marker.decayed)) := by
  have hstars : (divideLine stem).2.map Marker.decayed = (divideLine stem).2 := by
    have heach : ∀ m ∈ (divideLine stem).2, m.decayed = id m := by
      intro m hm
      rw [h.stars m hm]
      rfl
    rw [List.map_congr_left heach, List.map_id]
  rw [decayedName?, h.divideName?_append, Option.map_some]
  dsimp only
  rw [List.map_append, hstars, spellMarkers_append, ← List.append_assoc, ← eq_of_divideLine]

theorem TypeReference.unmanaged?_of_isDelegate (h : t.isDelegate = true) (o : TypePolicy) :
    t.unmanaged? o = some opaquePointer := by
  rw [unmanaged?, if_pos h]

/-- The new base of a type. -/
def TypeReference.spelledBase (t : TypeReference) (o : TypePolicy) : Text :=
  nativeBase o t.namespaceName t.plainBase

theorem TypeReference.spelledBase_isStem (hline : '\n' ∉ t.fullName) (o : TypePolicy) :
    IsStem (t.spelledBase o) :=
  nativeBase_isStem o t.namespaceName (t.plainBase_endsClear.isStem (plainBase_oneLine hline))

/-- **A type keeps its markers**: its new base is spelled in front of them. -/
theorem TypeReference.unmanaged?_eq (hline : '\n' ∉ t.fullName) (hvalue : t.isDelegate = false)
    (o : TypePolicy) :
    t.unmanaged? o = some (t.spelledBase o ++ spellMarkers t.keptMarkers) := by
  have hnative := nativeName?_eq (t := t) o t.plainBase_endsClear (plainBase_oneLine hline)
    (divideLine t.fullName).2
  rw [unmanaged?, hvalue, if_neg Bool.false_ne_true, keptMarkers]
  refine Option.bind_eq_some_iff.mpr
    ⟨_, plainName?_eq hline, Option.bind_eq_some_iff.mpr ⟨_, hnative, ?_⟩⟩
  split
  · exact (spelledBase_isStem hline o).decayedName?_append _
  · rfl

/-- A reference on one line has a text. -/
theorem TypeReference.exists_text (hline : '\n' ∉ t.fullName) (o : TypePolicy) :
    ∃ text, t.unmanaged? o = some text := by
  cases hdelegate : t.isDelegate with
  | true => exact ⟨opaquePointer, unmanaged?_of_isDelegate hdelegate o⟩
  | false => exact ⟨_, unmanaged?_eq hline hdelegate o⟩

end Spelling

end PointerBindings
