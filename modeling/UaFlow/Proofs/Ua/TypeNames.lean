import UaFlow.Ua.Coerce
import UaFlow.Proofs.Text.Ascii
/-!
# Reading type names

A type tag is read from a text with blanks around it. `TypeTag.Written` says how the text may be
written: blanks, a name of the data type (its own, or the alias `Int8` of `SByte` or `UInt8` of
`Byte`, in exactly that case), for an array blanks and the mark ` Array` (one ASCII space), then
blanks. Main statement: `TypeTag.ofName?` reads exactly the texts so written, a text it does not
read makes every coercion fail naming the text as given, and the name of every tag reads back as
that tag.
-/

namespace UaFlow.Ua

open UaFlow.Text

/-- A name a data type is read from: its own, or the alias `Int8` of `SByte` or `UInt8` of
`Byte`. -/
def DataType.IsName (t : DataType) (n : String) : Prop :=
  n = t.name ∨ (t = .integer .sbyte ∧ n = "Int8") ∨ (t = .integer .byte ∧ n = "UInt8")

theorem DataType.ofName?_eq_some_iff {n : String} {t : DataType} :
    DataType.ofName? n = some t ↔ t.IsName n := by
  constructor
  · intro h
    unfold DataType.ofName? at h
    split at h
    · cases h
      exact .inr (.inl ⟨rfl, ‹_›⟩)
    · split at h
      · cases h
        exact .inr (.inr ⟨rfl, ‹_›⟩)
      · have hname := List.find?_some h
        exact .inl (of_decide_eq_true hname).symm
  · rintro (rfl | ⟨rfl, rfl⟩ | ⟨rfl, rfl⟩)
    · exact ofName?_name t
    · decide
    · decide

/-- Every name of a data type is a non-empty text of visible ASCII characters. -/
theorem DataType.IsName.visible {t : DataType} {n : String} (h : t.IsName n) :
    n ≠ "" ∧ Text.IsVisible n.toList := by
  -- each of the twenty names, character by character
  rcases h with rfl | ⟨-, rfl⟩ | ⟨-, rfl⟩
  · cases t with
    | integer k =>
      cases k <;> exact ⟨by decide, by simp [Text.IsVisible, DataType.name, IntKind.name]⟩
    | _ => exact ⟨by decide, by simp [Text.IsVisible, DataType.name]⟩
  all_goals exact ⟨by decide, by simp [Text.IsVisible]⟩

/-- A name of a data type has no space, so it does not end with the array mark. -/
theorem DataType.IsName.not_arraySuffix {t : DataType} {n : String} (h : t.IsName n) :
    ¬ arraySuffix.toList <:+ n.toList := by
  rintro ⟨p, hp⟩
  have hspace : ' ' ∈ n.toList := by
    rw [← hp]
    exact List.mem_append_right p (by decide)
  have := (h.visible.2 ' ' hspace).1
  exact absurd this (by decide)

/-- A text written as a type tag: blanks, a name of the data type, for an array blanks and the
mark ` Array` (starting with one ASCII space), then blanks. -/
def TypeTag.Written (s : String) (t : TypeTag) : Prop :=
  ∃ w₁ n w₂ w₃ : String, IsBlankText w₁ ∧ IsBlankText w₂ ∧ IsBlankText w₃ ∧ t.dataType.IsName n ∧
    s = w₁ ++ n ++ (if t.isArray then w₂ ++ " Array" else "") ++ w₃

theorem TypeTag.ofName?_of_written {s : String} {t : TypeTag} (h : TypeTag.Written s t) :
    TypeTag.ofName? s = some t := by
  obtain ⟨w₁, n, w₂, w₃, hw₁, hw₂, hw₃, hn, rfl⟩ := h
  obtain ⟨hne, hvisible⟩ := hn.visible
  have hhead : ∀ c ∈ n.toList.head?, isBlank c = false := fun c hc =>
    isBlank_of_visible (hvisible c (List.mem_of_mem_head? hc))
  have hlast : ∀ c ∈ n.toList.getLast?, isBlank c = false := fun c hc =>
    isBlank_of_visible (hvisible c (List.mem_of_mem_getLast? hc))
  obtain ⟨dt, isArray⟩ := t
  cases isArray with
  | false =>
    -- the trim is the name itself, which does not end with the array mark
    have htrim : trim (w₁ ++ n ++ "" ++ w₃) = n := by
      rw [String.append_empty]
      exact trim_blank_margins hw₁ hw₃ hne hhead hlast
    have hsuffix : (arraySuffix.toList.isSuffixOf n.toList) = false := by
      rw [Bool.eq_false_iff, ne_eq, List.isSuffixOf_iff_suffix]
      exact hn.not_arraySuffix
    show TypeTag.ofName? (w₁ ++ n ++ "" ++ w₃) = _
    unfold TypeTag.ofName?
    simp only [htrim, hsuffix, Bool.false_eq_true, ite_false, DataType.ofName?_eq_some_iff.mpr hn,
      Option.map_some]
  | true =>
    -- the trim is the name, the blanks before the mark, and the mark
    have hcore : trim (w₁ ++ n ++ (w₂ ++ " Array") ++ w₃) = n ++ (w₂ ++ " Array") := by
      rw [@String.append_assoc w₁ n]
      apply trim_blank_margins hw₁ hw₃
      · intro hnil
        exact hne (String.append_eq_empty_iff.mp hnil).1
      · rwa [head?_toList_append _ hne]
      · intro c hc
        rw [String.toList_append, String.toList_append, List.getLast?_append,
          List.getLast?_append] at hc
        have hy : (" Array" : String).toList.getLast? = some 'y' := by decide
        rw [hy] at hc
        cases hc
        decide
    have hmark : (n ++ (w₂ ++ " Array")).toList = (n ++ w₂).toList ++ arraySuffix.toList := by
      simp only [String.toList_append, List.append_assoc]
      rfl
    have hsuffix : arraySuffix.toList.isSuffixOf (n ++ (w₂ ++ " Array")).toList = true := by
      rw [List.isSuffixOf_iff_suffix, hmark]
      exact List.suffix_append _ _
    have htake : (n ++ (w₂ ++ " Array")).toList.take
        ((n ++ (w₂ ++ " Array")).toList.length - arraySuffix.toList.length) = (n ++ w₂).toList := by
      rw [hmark]
      exact List.take_left' (by simp only [List.length_append]; omega)
    have hscalar : trimEnd (String.ofList (n ++ w₂).toList) = n := by
      rw [String.ofList_toList]
      exact trimEnd_append_blank hw₂ hlast
    show TypeTag.ofName? (w₁ ++ n ++ (w₂ ++ " Array") ++ w₃) = _
    unfold TypeTag.ofName?
    simp only [hcore, hsuffix, ite_true, htake, hscalar, DataType.ofName?_eq_some_iff.mpr hn,
      Option.map_some]

theorem TypeTag.written_of_ofName? {s : String} {t : TypeTag} (h : TypeTag.ofName? s = some t) :
    TypeTag.Written s t := by
  obtain ⟨w₁, w₃, hw₁, hw₃, hs⟩ := trim_margins s
  unfold TypeTag.ofName? at h
  dsimp only at h
  split at h
  · -- the trim ends with the array mark; what is left before it is a name and blanks
    rename_i hsuffix
    obtain ⟨dt, hdt, rfl⟩ := Option.map_eq_some_iff.mp h
    obtain ⟨p, hp⟩ := List.isSuffixOf_iff_suffix.mp hsuffix
    have htake : (trim s).toList.take ((trim s).toList.length - arraySuffix.toList.length) = p := by
      rw [← hp]
      exact List.take_left' (by simp only [List.length_append]; omega)
    rw [htake] at hdt
    obtain ⟨w₂, hw₂, hscalar⟩ := trimEnd_margin (String.ofList p)
    refine ⟨w₁, trimEnd (String.ofList p), w₂, w₃, hw₁, hw₂, hw₃,
      DataType.ofName?_eq_some_iff.mp hdt, ?_⟩
    have htrim : trim s = String.ofList p ++ " Array" := by
      rw [← String.toList_inj, String.toList_append, String.toList_ofList, ← hp]
      rfl
    calc s = w₁ ++ trim s ++ w₃ := hs
      _ = w₁ ++ (trimEnd (String.ofList p) ++ w₂) ++ " Array" ++ w₃ := by
        rw [htrim, ← hscalar]
        simp only [String.append_assoc]
      _ = _ := by simp only [String.append_assoc, ite_true]
  · -- the trim is a name
    obtain ⟨dt, hdt, rfl⟩ := Option.map_eq_some_iff.mp h
    refine ⟨w₁, trim s, "", w₃, hw₁, rfl, hw₃, DataType.ofName?_eq_some_iff.mp hdt, ?_⟩
    rw [if_neg Bool.false_ne_true, String.append_empty]
    exact hs

/-- **Reading a type name.** A text reads as a type tag exactly when it is written as one, and
then as that tag; a text written as no tag makes every coercion fail naming the text as given,
blanks included; and the name of every tag reads back as the tag. -/
theorem TypeTag.ofName?_spec :
    (∀ (s : String) (t : TypeTag), TypeTag.ofName? s = some t ↔ TypeTag.Written s t) ∧
    (∀ s : String, (∀ t, ¬ TypeTag.Written s t) →
      ∀ raw, coerce s raw = .error (.unknownDataType s)) ∧
    (∀ t : TypeTag, TypeTag.ofName? t.name = some t) := by
  have hiff : ∀ (s : String) (t : TypeTag), TypeTag.ofName? s = some t ↔ TypeTag.Written s t :=
    fun _ _ => ⟨TypeTag.written_of_ofName?, TypeTag.ofName?_of_written⟩
  refine ⟨hiff, ?_, ?_⟩
  · intro s hnone raw
    have hread : TypeTag.ofName? s = none := by
      cases hs : TypeTag.ofName? s with
      | none => rfl
      | some t => exact absurd ((hiff s t).mp hs) (hnone t)
    rw [coerce, TypeTag.parse_of_ofName?_none hread]
    rfl
  · -- a name is written with no blanks around it
    intro t
    apply TypeTag.ofName?_of_written
    refine ⟨"", t.dataType.name, "", "", rfl, rfl, rfl, .inl rfl, ?_⟩
    cases t with
    | mk dt isArray => cases isArray <;> simp [TypeTag.name, arraySuffix]

/-- `Decimal` is no type name, and coercing under it fails naming it. -/
theorem TypeTag.ofName?_spec_decimal :
    coerce "Decimal" .null = .error (.unknownDataType "Decimal") :=
  TypeTag.ofName?_spec.2.1 "Decimal" (fun t hw => by
    have hread := (TypeTag.ofName?_spec.1 "Decimal" t).mpr hw
    rw [show TypeTag.ofName? "Decimal" = none by decide] at hread
    cases hread) .null

end UaFlow.Ua
