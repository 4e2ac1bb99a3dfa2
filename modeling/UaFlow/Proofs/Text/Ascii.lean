import UaFlow.Text.Blank
/-!
# ASCII texts as bytes

The readers of the library read a text byte by byte or character by character. For a text whose
characters are all ASCII the two agree: its UTF-8 bytes are its characters' codes, one byte each,
so its byte size is its length. A text that starts and ends with a character that is not blank is
its own trim, and trimming takes off blank margins and nothing else.
-/

namespace UaFlow.Text

/-- A text all of whose characters are ASCII. -/
def IsAscii (cs : List Char) : Prop :=
  ∀ c ∈ cs, c.toNat < 128

@[simp] theorem isAscii_nil : IsAscii [] := by
  intro c hc
  cases hc

/-- A text all of whose characters are visible ASCII: no control character and no space. -/
def IsVisible (cs : List Char) : Prop :=
  ∀ c ∈ cs, 32 < c.toNat ∧ c.toNat < 127

@[simp] theorem isVisible_nil : IsVisible [] := by
  intro c hc
  cases hc

theorem isVisible_cons {c : Char} {cs : List Char} :
    IsVisible (c :: cs) ↔ (32 < c.toNat ∧ c.toNat < 127) ∧ IsVisible cs := by
  simp [IsVisible]

theorem isVisible_append {cs ds : List Char} : IsVisible (cs ++ ds) ↔ IsVisible cs ∧ IsVisible ds := by
  simp only [IsVisible, List.mem_append]
  constructor
  · intro h
    exact ⟨fun c hc => h c (Or.inl hc), fun c hc => h c (Or.inr hc)⟩
  · rintro ⟨hcs, hds⟩ c (hc | hc)
    · exact hcs c hc
    · exact hds c hc

theorem IsVisible.isAscii {cs : List Char} (h : IsVisible cs) : IsAscii cs :=
  fun c hc => Nat.lt_trans (h c hc).2 (by decide)

theorem isAscii_append {cs ds : List Char} : IsAscii (cs ++ ds) ↔ IsAscii cs ∧ IsAscii ds := by
  simp only [IsAscii, List.mem_append]
  constructor
  · intro h
    exact ⟨fun c hc => h c (Or.inl hc), fun c hc => h c (Or.inr hc)⟩
  · rintro ⟨hcs, hds⟩ c (hc | hc)
    · exact hcs c hc
    · exact hds c hc

theorem isAscii_cons {c : Char} {cs : List Char} : IsAscii (c :: cs) ↔ c.toNat < 128 ∧ IsAscii cs := by
  simp [IsAscii]

private theorem toList_loop (bs : ByteArray) (i : Nat) (r : List UInt8) :
    ByteArray.toList.loop bs i r = r.reverse ++ bs.data.toList.drop i := by
  fun_induction ByteArray.toList.loop bs i r with
  | case1 i r hlt ih =>
    have hlen : i < bs.data.toList.length := by simpa using hlt
    have hget : bs.get! i = bs.data[i]! := by cases bs; rfl
    rw [ih, List.drop_eq_getElem_cons hlen, hget, getElem!_pos bs.data i hlt, List.reverse_cons,
      List.append_assoc, Array.getElem_toList]
    rfl
  | case2 i r hge =>
    rw [List.drop_eq_nil_of_le (by simpa using Nat.le_of_not_lt hge), List.append_nil]

theorem byteArray_toList_eq (bs : ByteArray) : bs.toList = bs.data.toList := by
  rw [ByteArray.toList, toList_loop, List.reverse_nil, List.nil_append, List.drop_zero]

theorem utf8Size_of_lt {c : Char} (hc : c.toNat < 128) : c.utf8Size = 1 := by
  have hval : c.val.toNat = c.toNat := rfl
  have h127 : (127 : UInt32).toNat = 127 := rfl
  rw [Char.utf8Size_eq_one_iff, UInt32.le_iff_toNat_le]
  omega

/-- The UTF-8 byte of an ASCII character is its code. -/
theorem toNat_toUInt8_of_lt {c : Char} (hc : c.toNat < 128) : c.val.toUInt8.toNat = c.toNat := by
  have hval : c.val.toNat = c.toNat := rfl
  rw [UInt32.toNat_toUInt8]
  omega

/-- The UTF-8 bytes of an ASCII text are its characters' codes. -/
theorem toUTF8_toList_of_isAscii {s : String} (h : IsAscii s.toList) :
    s.toUTF8.toList = s.toList.map fun c => c.val.toUInt8 := by
  have hbytes : s.toUTF8 = (s.toList.flatMap String.utf8EncodeChar).toByteArray := by
    rw [show s.toUTF8 = (String.ofList s.toList).toUTF8 by rw [String.ofList_toList],
      String.toUTF8_eq_toByteArray, String.toByteArray_ofList]
    rfl
  rw [byteArray_toList_eq, hbytes, List.toList_data_toByteArray]
  generalize s.toList = cs at h
  induction cs with
  | nil => rfl
  | cons c cs ih =>
    obtain ⟨hc, hcs⟩ := isAscii_cons.mp h
    rw [List.flatMap_cons, String.utf8EncodeChar_eq_singleton (utf8Size_of_lt hc), ih hcs]
    rfl

theorem length_toUTF8_toList (s : String) : s.toUTF8.toList.length = s.utf8ByteSize := by
  rw [byteArray_toList_eq, Array.length_toList, String.toUTF8_eq_toByteArray]
  exact String.size_toByteArray

/-- A text with a character has a byte. -/
theorem toUTF8_toList_ne_nil {s : String} (h : s.toList ≠ []) : s.toUTF8.toList ≠ [] := by
  intro hnil
  have hsize := length_toUTF8_toList s
  rw [hnil, List.length_nil, eq_comm, String.utf8ByteSize_eq_zero_iff] at hsize
  rw [hsize] at h
  exact h rfl

theorem utf8ByteSize_of_isAscii {s : String} (h : IsAscii s.toList) : s.utf8ByteSize = s.length := by
  have hlen := congrArg List.length (toUTF8_toList_of_isAscii h)
  rw [byteArray_toList_eq, List.length_map, String.length_toList] at hlen
  rw [← String.size_toByteArray, ← hlen, ← String.toUTF8_eq_toByteArray]
  exact Array.length_toList.symm

/-! ## Texts that are their own trim -/

/-- An ASCII character below the space and outside tab to carriage return, or above it, is not
blank. -/
theorem isBlank_eq_false {c : Char} (hc : c.toNat < 128) (h : c.toNat < 9 ∨ (13 < c.toNat ∧ c.toNat ≠ 32)) :
    isBlank c = false := by
  unfold isBlank
  simp only [Bool.or_eq_false_iff, Bool.and_eq_false_imp, decide_eq_true_eq, beq_eq_false_iff_ne,
    decide_eq_false_iff_not, Nat.not_le, ne_eq]
  omega

theorem isBlank_of_isDigit {c : Char} (h : c.isDigit = true) : isBlank c = false := by
  have hc := Char.isDigit_iff_toNat.mp h
  exact isBlank_eq_false (Nat.lt_of_le_of_lt hc.2 (by decide)) (.inr ⟨Nat.lt_of_lt_of_le (by decide) hc.1,
    Nat.ne_of_gt (Nat.lt_of_lt_of_le (by decide) hc.1)⟩)

theorem dropWhile_isBlank_of_head {cs : List Char} (h : ∀ c ∈ cs.head?, isBlank c = false) :
    cs.dropWhile isBlank = cs := by
  cases cs with
  | nil => rfl
  | cons c cs => exact List.dropWhile_cons_of_neg (by simp [h c rfl])

theorem isBlank_of_visible {c : Char} (h : 32 < c.toNat ∧ c.toNat < 127) : isBlank c = false :=
  isBlank_eq_false (by omega) (.inr ⟨by omega, by omega⟩)

/-- A text that starts and ends with a character that is not blank is its own trim. -/
theorem trim_eq_self {s : String} (hhead : ∀ c ∈ s.toList.head?, isBlank c = false)
    (hlast : ∀ c ∈ s.toList.getLast?, isBlank c = false) : trim s = s := by
  have hstart : trimStart s = s := by
    rw [trimStart, dropWhile_isBlank_of_head hhead, String.ofList_toList]
  have hend : s.toList.reverse.dropWhile isBlank = s.toList.reverse := by
    apply dropWhile_isBlank_of_head
    rwa [List.head?_reverse]
  rw [trim, hstart, trimEnd, hend, List.reverse_reverse, String.ofList_toList]

/-- A trimmed text ends with a character that is not blank. -/
theorem trim_getLast? (s : String) : ∀ c ∈ (trim s).toList.getLast?, isBlank c = false := by
  intro c hc
  rw [trim, trimEnd, String.toList_ofList, List.getLast?_reverse] at hc
  have hhead := List.head?_dropWhile_not isBlank (trimStart s).toList.reverse
  rw [Option.mem_def] at hc
  rw [hc] at hhead
  exact hhead

/-- A trimmed text starts with a character that is not blank: trimming the end keeps a prefix of
a text that already starts so. -/
theorem trim_head? (s : String) : ∀ c ∈ (trim s).toList.head?, isBlank c = false := by
  intro c hc
  have hprefix : (trim s).toList <+: (trimStart s).toList := by
    rw [trim, trimEnd, String.toList_ofList, ← List.reverse_suffix, List.reverse_reverse]
    exact List.dropWhile_suffix isBlank
  obtain ⟨rest, hrest⟩ := hprefix
  have hhead : (trimStart s).toList.head? = some c := by
    rw [← hrest, List.head?_append, Option.mem_def.mp hc, Option.some_or]
  have hstart := List.head?_dropWhile_not isBlank s.toList
  rw [← trimStart_toList, hhead] at hstart
  exact hstart

theorem trim_trim (s : String) : trim (trim s) = trim s :=
  trim_eq_self (trim_head? s) (trim_getLast? s)

theorem trim_eq_self_of_visible {s : String} (h : IsVisible s.toList) : trim s = s := by
  apply trim_eq_self
  · intro c hc
    exact isBlank_of_visible (h c (List.mem_of_mem_head? hc))
  · intro c hc
    exact isBlank_of_visible (h c (List.mem_of_mem_getLast? hc))

/-! ## Blank margins -/

theorem trimEnd_toList (s : String) :
    (trimEnd s).toList = (s.toList.reverse.dropWhile isBlank).reverse := by
  simp [trimEnd]

/-- Trimming the start takes off a blank prefix. -/
theorem trimStart_margin (s : String) : ∃ w, IsBlankText w ∧ s = w ++ trimStart s := by
  refine ⟨String.ofList (s.toList.takeWhile isBlank), ?_, ?_⟩
  · rw [IsBlankText, String.toList_ofList]
    exact List.all_takeWhile
  · rw [← String.toList_inj, String.toList_append, String.toList_ofList, trimStart_toList,
      List.takeWhile_append_dropWhile]

/-- Trimming the end takes off a blank suffix. -/
theorem trimEnd_margin (s : String) : ∃ w, IsBlankText w ∧ s = trimEnd s ++ w := by
  refine ⟨String.ofList (s.toList.reverse.takeWhile isBlank).reverse, ?_, ?_⟩
  · rw [IsBlankText, String.toList_ofList, List.all_reverse]
    exact List.all_takeWhile
  · rw [← String.toList_inj, String.toList_append, String.toList_ofList, trimEnd_toList,
      ← List.reverse_append, List.takeWhile_append_dropWhile, List.reverse_reverse]

/-- Trimming takes off a blank prefix and a blank suffix. -/
theorem trim_margins (s : String) :
    ∃ w₁ w₂, IsBlankText w₁ ∧ IsBlankText w₂ ∧ s = w₁ ++ trim s ++ w₂ := by
  obtain ⟨w₁, hw₁, hs⟩ := trimStart_margin s
  obtain ⟨w₂, hw₂, hstart⟩ := trimEnd_margin (trimStart s)
  refine ⟨w₁, w₂, hw₁, hw₂, ?_⟩
  rw [trim, String.append_assoc, ← hstart, ← hs]

theorem trimStart_blank_append {w t : String} (hw : IsBlankText w)
    (hhead : ∀ c ∈ t.toList.head?, isBlank c = false) : trimStart (w ++ t) = t := by
  have hblank : ∀ c ∈ w.toList, isBlank c = true := List.all_eq_true.mp hw
  rw [← String.toList_inj, trimStart_toList, String.toList_append,
    List.dropWhile_append_of_pos hblank, dropWhile_isBlank_of_head hhead]

theorem trimEnd_append_blank {t w : String} (hw : IsBlankText w)
    (hlast : ∀ c ∈ t.toList.getLast?, isBlank c = false) : trimEnd (t ++ w) = t := by
  -- read backwards, the blank suffix is a blank prefix
  have hblank : ∀ c ∈ w.toList.reverse, isBlank c = true := fun c hc =>
    List.all_eq_true.mp hw c (List.mem_reverse.mp hc)
  have hhead : ∀ c ∈ t.toList.reverse.head?, isBlank c = false := by
    rwa [List.head?_reverse]
  rw [← String.toList_inj, trimEnd_toList, String.toList_append, List.reverse_append,
    List.dropWhile_append_of_pos hblank, dropWhile_isBlank_of_head hhead, List.reverse_reverse]

/-- A text that is not empty starts every text it begins. -/
theorem head?_toList_append {t : String} (u : String) (hne : t ≠ "") :
    (t ++ u).toList.head? = t.toList.head? := by
  obtain ⟨c, cs, hcs⟩ := List.exists_cons_of_ne_nil fun h => hne (String.toList_eq_nil_iff.mp h)
  rw [String.toList_append, hcs, List.cons_append, List.head?_cons, List.head?_cons]

/-- A text between blank margins that starts and ends with a character that is not blank is the
trim of the whole. -/
theorem trim_blank_margins {w₁ t w₂ : String} (hw₁ : IsBlankText w₁) (hw₂ : IsBlankText w₂)
    (hne : t ≠ "") (hhead : ∀ c ∈ t.toList.head?, isBlank c = false)
    (hlast : ∀ c ∈ t.toList.getLast?, isBlank c = false) : trim (w₁ ++ t ++ w₂) = t := by
  have hhead' : ∀ c ∈ (t ++ w₂).toList.head?, isBlank c = false := by
    rwa [head?_toList_append w₂ hne]
  rw [trim, String.append_assoc, trimStart_blank_append hw₁ hhead', trimEnd_append_blank hw₂ hlast]

end UaFlow.Text
