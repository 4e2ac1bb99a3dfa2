import UaFlow.Codec.Uuid
import UaFlow.Proofs.Text.Ascii
/-!
# Uuid round trip

A uuid read from text is a 128-bit value, and the hyphenated text of a 128-bit value reads back as
itself. The text is 36 ASCII characters with hyphens at 8, 13, 18 and 23, so the reader takes it
as a hyphenated form; the 32 hex digits around the hyphens are the value's, most significant
first, and the reader adds them back up.
-/

namespace UaFlow.Codec

open UaFlow.Text

/-- The number of uuids: values are 128 bits. -/
def Uuid.bound : Nat := Nat.pow 16 32

/-- The lower-case hex digit of a value below 16, as `hexFixed` writes it. -/
def hexDigitChar (d : Nat) : Char :=
  if d < 10 then Char.ofNat (48 + d) else Char.ofNat (87 + d)

/-- One step of `hexRun?`: a digit more, or nothing once a character is not a digit. -/
def hexStep (acc : Option Nat) (c : Char) : Option Nat :=
  acc.bind fun a => (hexDigitValue? c).map fun d => a * 16 + d

theorem hexRun?_eq_foldl (cs : List Char) : hexRun? cs = cs.foldl hexStep (some 0) := rfl

/-- The text of a 32-digit value with its four hyphens. -/
def hyphenLayout (ds : List Char) : List Char :=
  ds.take 8 ++ '-' :: (ds.drop 8).take 4 ++ '-' :: (ds.drop 12).take 4 ++
    '-' :: (ds.drop 16).take 4 ++ '-' :: ds.drop 20

theorem toList_hyphenated (u : Uuid) : u.hyphenated.toList = hyphenLayout (hexFixed 32 u.value) := by
  simp [Uuid.hyphenated, hyphenLayout]

/-! ## Hex digits -/

theorem hexFixed_succ (w n : Nat) :
    hexFixed (w + 1) n = hexDigitChar (n / Nat.pow 16 w % 16) :: hexFixed w n := by
  simp [hexFixed, hexDigitChar, List.range_succ]

theorem length_hexFixed (w n : Nat) : (hexFixed w n).length = w := by
  simp [hexFixed]

theorem hexDigitValue?_hexDigitChar : ∀ d : Nat, d < 16 → hexDigitValue? (hexDigitChar d) = some d
  | 0, _ | 1, _ | 2, _ | 3, _ | 4, _ | 5, _ | 6, _ | 7, _ | 8, _ | 9, _ | 10, _ | 11, _ | 12, _
  | 13, _ | 14, _ | 15, _ => by decide
  | _ + 16, h => absurd h (by omega)

theorem visible_hexDigitChar : ∀ d : Nat, d < 16 → 32 < (hexDigitChar d).toNat ∧ (hexDigitChar d).toNat < 127
  | 0, _ | 1, _ | 2, _ | 3, _ | 4, _ | 5, _ | 6, _ | 7, _ | 8, _ | 9, _ | 10, _ | 11, _ | 12, _
  | 13, _ | 14, _ | 15, _ => by decide
  | _ + 16, h => absurd h (by omega)

private theorem toNat_le_of_le {c d : Char} (h : c ≤ d) : c.toNat ≤ d.toNat := by
  rw [Char.le_def, UInt32.le_iff_toNat_le] at h
  exact h

/-- Every hex digit is worth less than 16, in either case. -/
theorem hexDigitValue?_lt {c : Char} {d : Nat} (h : hexDigitValue? c = some d) : d < 16 := by
  unfold hexDigitValue? at h
  split at h
  · rename_i hc
    have h57 : c.toNat ≤ '9'.toNat := toNat_le_of_le hc.2
    cases h
    exact Nat.lt_of_le_of_lt (Nat.sub_le_sub_right h57 48) (by decide)
  · split at h
    · rename_i hc
      have h102 : c.toNat ≤ 'f'.toNat := toNat_le_of_le hc.2
      cases h
      exact Nat.lt_of_le_of_lt (Nat.sub_le_sub_right h102 87) (by decide)
    · split at h
      · rename_i hc
        have h70 : c.toNat ≤ 'F'.toNat := toNat_le_of_le hc.2
        cases h
        exact Nat.lt_of_le_of_lt (Nat.sub_le_sub_right h70 55) (by decide)
      · cases h

theorem isVisible_hexFixed (w n : Nat) : IsVisible (hexFixed w n) := by
  induction w with
  | zero => simp [hexFixed]
  | succ w ih =>
    rw [hexFixed_succ, isVisible_cons]
    exact ⟨visible_hexDigitChar _ (Nat.mod_lt _ (by decide)), ih⟩

/-! ## Adding up a run of digits -/

theorem foldl_hexStep_none (cs : List Char) : cs.foldl hexStep none = none := by
  induction cs with
  | nil => rfl
  | cons c cs ih => exact ih

/-- Reading the last `w` digits of `n` after a value `a` shifts `a` up by `w` digits and adds
`n` modulo `16 ^ w`. -/
theorem foldl_hexStep_hexFixed (w n a : Nat) :
    (hexFixed w n).foldl hexStep (some a) = some (a * Nat.pow 16 w + n % Nat.pow 16 w) := by
  induction w generalizing a with
  | zero =>
    have hone : Nat.pow 16 0 = 1 := rfl
    rw [hone, Nat.mul_one, Nat.mod_one, Nat.add_zero]
    rfl
  | succ w ih =>
    have hdigit := hexDigitValue?_hexDigitChar (n / Nat.pow 16 w % 16) (Nat.mod_lt _ (by decide))
    -- the new top digit is the quotient by `16 ^ w`, taken modulo 16
    have hmod : n % Nat.pow 16 (w + 1) =
        n % Nat.pow 16 w + Nat.pow 16 w * (n / Nat.pow 16 w % 16) := by
      simp only [Nat.pow_eq]
      exact Nat.mod_pow_succ
    have hpow : Nat.pow 16 (w + 1) = Nat.pow 16 w * 16 := rfl
    rw [hexFixed_succ, List.foldl_cons, hexStep, Option.bind_some, hdigit, Option.map_some, ih, hmod,
      hpow]
    congr 1
    generalize Nat.pow 16 w = p
    rw [Nat.add_mul, Nat.mul_assoc, Nat.mul_comm 16 p, Nat.mul_comm (n / p % 16) p]
    omega

theorem hexRun?_hexFixed (w n : Nat) : hexRun? (hexFixed w n) = some (n % Nat.pow 16 w) := by
  rw [hexRun?_eq_foldl, foldl_hexStep_hexFixed, Nat.zero_mul, Nat.zero_add]

/-- A run of `k` digits read after a value `a` is less than `(a + 1) * 16 ^ k`. -/
theorem lt_of_foldl_hexStep {cs : List Char} {a r : Nat} (h : cs.foldl hexStep (some a) = some r) :
    r < (a + 1) * Nat.pow 16 cs.length := by
  induction cs generalizing a with
  | nil =>
    cases h
    simp
  | cons c cs ih =>
    rw [List.foldl_cons, hexStep, Option.bind_some] at h
    cases hc : hexDigitValue? c with
    | none => rw [hc, Option.map_none, foldl_hexStep_none] at h; cases h
    | some d =>
      rw [hc, Option.map_some] at h
      have hd : d < 16 := hexDigitValue?_lt hc
      have hlt := ih h
      calc r < (a * 16 + d + 1) * Nat.pow 16 cs.length := hlt
        _ ≤ (a + 1) * 16 * Nat.pow 16 cs.length := Nat.mul_le_mul_right _ (by omega)
        _ = (a + 1) * Nat.pow 16 (c :: cs).length := by
          have hpow : Nat.pow 16 (cs.length + 1) = Nat.pow 16 cs.length * 16 := rfl
          rw [List.length_cons, hpow, Nat.mul_assoc, Nat.mul_comm 16]

theorem hexRun?_lt {cs : List Char} {r : Nat} (h : hexRun? cs = some r) :
    r < Nat.pow 16 cs.length := by
  have hlt := lt_of_foldl_hexStep h
  rwa [Nat.zero_add, Nat.one_mul] at hlt

/-! ## The hyphenated form -/

/-- Five groups of 8, 4, 4, 4 and 12 characters joined by hyphens read as the hex value of the
groups together. -/
theorem readHyphenated?_groups {a b c d f : List Char} (ha : a.length = 8) (hb : b.length = 4)
    (hc : c.length = 4) (hd : d.length = 4) (hf : f.length = 12) :
    readHyphenated? (a ++ '-' :: b ++ '-' :: c ++ '-' :: d ++ '-' :: f) =
      (hexRun? (a ++ b ++ c ++ d ++ f)).map Uuid.mk := by
  have hlen : (a ++ '-' :: b ++ '-' :: c ++ '-' :: d ++ '-' :: f).length = 36 := by
    simp [ha, hb, hc, hd, hf]
  have h8 : (a ++ '-' :: b ++ '-' :: c ++ '-' :: d ++ '-' :: f)[8]? = some '-' := by
    simp [ha]
  have h13 : (a ++ '-' :: b ++ '-' :: c ++ '-' :: d ++ '-' :: f)[13]? = some '-' := by
    simp [List.getElem?_append, ha, hb]
  have h18 : (a ++ '-' :: b ++ '-' :: c ++ '-' :: d ++ '-' :: f)[18]? = some '-' := by
    simp [List.getElem?_append, ha, hb, hc]
  have h23 : (a ++ '-' :: b ++ '-' :: c ++ '-' :: d ++ '-' :: f)[23]? = some '-' := by
    simp [List.getElem?_append, ha, hb, hc, hd]
  unfold readHyphenated?
  rw [if_pos ⟨hlen, h8, h13, h18, h23⟩]
  simp [List.drop_append, List.drop_eq_nil_of_le, ha, hb, hc, hd]

private theorem take_append_drop_drop (l : List Char) {n k m : Nat} (h : n + k = m) :
    (l.drop n).take k ++ l.drop m = l.drop n := by
  rw [← h, ← List.drop_drop, List.take_append_drop]

theorem readHyphenated?_hyphenLayout {ds : List Char} (h : ds.length = 32) :
    readHyphenated? (hyphenLayout ds) = (hexRun? ds).map Uuid.mk := by
  have hgroups : ds.take 8 ++ (ds.drop 8).take 4 ++ (ds.drop 12).take 4 ++ (ds.drop 16).take 4 ++
      ds.drop 20 = ds := by
    simp only [List.append_assoc]
    rw [take_append_drop_drop ds (show 16 + 4 = 20 from rfl),
      take_append_drop_drop ds (show 12 + 4 = 16 from rfl),
      take_append_drop_drop ds (show 8 + 4 = 12 from rfl), List.take_append_drop]
  rw [hyphenLayout, readHyphenated?_groups (by simp [h]) (by simp [h]) (by simp [h]) (by simp [h])
    (by simp [h]), hgroups]

theorem mem_hyphenLayout {ds : List Char} {c : Char} (hc : c ∈ hyphenLayout ds) :
    c = '-' ∨ c ∈ ds := by
  simp only [hyphenLayout, List.mem_append, List.mem_cons] at hc
  rcases hc with ((((h | h | h) | h | h) | h | h) | h | h)
  · exact .inr (List.mem_of_mem_take h)
  · exact .inl h
  · exact .inr (List.mem_of_mem_drop (List.mem_of_mem_take h))
  · exact .inl h
  · exact .inr (List.mem_of_mem_drop (List.mem_of_mem_take h))
  · exact .inl h
  · exact .inr (List.mem_of_mem_drop (List.mem_of_mem_take h))
  · exact .inl h
  · exact .inr (List.mem_of_mem_drop h)

theorem isVisible_hyphenated (u : Uuid) : IsVisible u.hyphenated.toList := by
  intro c hc
  rw [toList_hyphenated] at hc
  rcases mem_hyphenLayout hc with rfl | hc
  · decide
  · exact isVisible_hexFixed 32 u.value c hc

theorem utf8ByteSize_hyphenated (u : Uuid) : u.hyphenated.utf8ByteSize = 36 := by
  rw [utf8ByteSize_of_isAscii (isVisible_hyphenated u).isAscii, ← String.length_toList, toList_hyphenated]
  simp [hyphenLayout, length_hexFixed]

/-- **Uuids read back.** The hyphenated text of a 128-bit value reads as that value. -/
theorem Uuid.parse_hyphenated (u : Uuid) (h : u.value < Uuid.bound) : Uuid.parse u.hyphenated = .ok u := by
  have hread : readHyphenated? u.hyphenated.toList = some u := by
    rw [toList_hyphenated, readHyphenated?_hyphenLayout (length_hexFixed 32 u.value),
      hexRun?_hexFixed, Nat.mod_eq_of_lt (show u.value < Nat.pow 16 32 from h)]
    rfl
  unfold Uuid.parse
  simp only [utf8ByteSize_hyphenated, hyphenatedBody?, if_pos, Option.bind_some, hread]
  rfl

/-! ## What the reader can return -/

theorem readSimple?_lt {cs : List Char} {u : Uuid} (h : readSimple? cs = some u) :
    u.value < Uuid.bound := by
  unfold readSimple? at h
  split at h
  · rename_i hlen
    obtain ⟨r, hr, rfl⟩ := Option.map_eq_some_iff.mp h
    have hlt := hexRun?_lt hr
    rwa [hlen] at hlt
  · cases h

theorem readHyphenated?_lt {cs : List Char} {u : Uuid} (h : readHyphenated? cs = some u) :
    u.value < Uuid.bound := by
  unfold readHyphenated? at h
  split at h
  · rename_i hshape
    obtain ⟨r, hr, rfl⟩ := Option.map_eq_some_iff.mp h
    have hlt := hexRun?_lt hr
    have hdigits : (cs.take 8 ++ (cs.drop 9).take 4 ++ (cs.drop 14).take 4 ++ (cs.drop 19).take 4 ++
        cs.drop 24).length = 32 := by
      simp [hshape.1]
    rwa [hdigits] at hlt
  · cases h

/-- Every uuid read from text is a 128-bit value. -/
theorem Uuid.value_lt_of_parse {s : String} {u : Uuid} (h : Uuid.parse s = .ok u) :
    u.value < Uuid.bound := by
  unfold Uuid.parse at h
  dsimp only at h
  split at h
  · rename_i u' hfound
    cases h
    split at hfound
    · exact readSimple?_lt hfound
    · obtain ⟨body, -, hbody⟩ := Option.bind_eq_some_iff.mp hfound
      exact readHyphenated?_lt hbody
  · cases h

end UaFlow.Codec
