import UaFlow.Float.Text
/-!
# Reading back printed integers

An integer printed in decimal reads back as itself. The digits `Nat.toDigits` prints are exactly
what `readDigits` takes, and it adds them up to the number; a minus sign is read back when the
reader is signed. So `readIntegerIn lo hi` gives back every printed integer within `[lo, hi]`, and
nothing for one outside it.
-/

namespace UaFlow.Float

/-- A run of digits followed by anything but a digit reads as its value, its length and the rest. -/
theorem readDigits_append {ds rest : List Char} (hds : ∀ c ∈ ds, c.isDigit = true)
    (hrest : ∀ c ∈ rest.head?, c.isDigit = false) (acc n : Nat) :
    readDigits (ds ++ rest) acc n = (Nat.ofDigitChars 10 ds acc, n + ds.length, rest) := by
  induction ds generalizing acc n with
  | nil =>
    cases rest with
    | nil => rfl
    | cons c rest =>
      have hc : c.isDigit = false := hrest c rfl
      simp [readDigits, hc]
  | cons c ds ih =>
    have hc : c.isDigit = true := hds c List.mem_cons_self
    have hrest := ih (fun d hd => hds d (List.mem_cons_of_mem c hd)) (acc * 10 + (c.toNat - 48)) (n + 1)
    rw [List.cons_append, readDigits, if_pos hc, hrest, Nat.ofDigitChars_cons, Nat.mul_comm acc 10,
      List.length_cons, Nat.add_assoc, Nat.add_comm 1]
    rfl

theorem isDigit_of_mem_toDigits {n : Nat} {c : Char} (hc : c ∈ Nat.toDigits 10 n) : c.isDigit = true :=
  Nat.isDigit_of_mem_toDigits (by decide) (by decide) hc

/-- The digits of a number read back as the number. -/
theorem readNatDigits_toDigits (n : Nat) : readNatDigits (Nat.toDigits 10 n) = some n := by
  have hread : readDigits (Nat.toDigits 10 n ++ []) 0 0 =
      (Nat.ofDigitChars 10 (Nat.toDigits 10 n) 0, 0 + (Nat.toDigits 10 n).length, []) :=
    readDigits_append (fun _ hc => isDigit_of_mem_toDigits hc) (by simp) 0 0
  have hlen : (Nat.toDigits 10 n).length ≠ 0 := by
    simp [Nat.toDigits_ne_nil]
  rw [List.append_nil] at hread
  rw [readNatDigits, hread]
  simp [hlen]

/-- A text of digits reads as an integer whatever the sign rule. -/
theorem readInteger_toDigits (signed : Bool) (n : Nat) :
    readInteger signed (String.ofList (Nat.toDigits 10 n)) = some (n : Int) := by
  obtain ⟨c, cs, hcs⟩ := List.exists_cons_of_ne_nil (Nat.toDigits_ne_nil (b := 10) (n := n))
  have hc : c.isDigit = true := isDigit_of_mem_toDigits (hcs ▸ List.mem_cons_self)
  have hplus : c ≠ '+' := by
    rintro rfl
    exact absurd hc (by decide)
  have hminus : c ≠ '-' := by
    rintro rfl
    exact absurd hc (by decide)
  unfold readInteger
  rw [String.toList_ofList, hcs]
  split
  · rename_i heq
    exact absurd (List.cons.inj heq).1 hplus
  · rename_i heq
    exact absurd (List.cons.inj heq).1 hminus
  · rw [← hcs, readNatDigits_toDigits]
    rfl

/-- A minus sign and digits read as a negative integer, when the reader is signed. -/
theorem readInteger_minus_toDigits (signed : Bool) (n : Nat) :
    readInteger signed ("-" ++ String.ofList (Nat.toDigits 10 n)) =
      if signed then some (-(n : Int)) else none := by
  have hlist : ("-" ++ String.ofList (Nat.toDigits 10 n)).toList = '-' :: Nat.toDigits 10 n := by
    simp
  unfold readInteger
  rw [hlist]
  cases signed with
  | false => rfl
  | true => simp [readNatDigits_toDigits]

/-- A printed integer reads back as itself, provided a minus sign is allowed when it has one. -/
theorem readInteger_toString (signed : Bool) (i : Int) (h : 0 ≤ i ∨ signed = true) :
    readInteger signed (toString i) = some i := by
  rw [Int.toString_eq_repr, Int.repr_eq_if]
  split
  · rename_i hi
    rw [Nat.repr_eq_ofList_toDigits, readInteger_toDigits]
    congr 1
    omega
  · rename_i hi
    rw [Nat.repr_eq_ofList_toDigits, readInteger_minus_toDigits, if_pos (h.resolve_left hi)]
    congr 1
    omega

/-- The decimal digits of a number read back as that number within any bounds that hold it. -/
theorem readIntegerIn_toDigits (lo hi : Int) (n : Nat) :
    readIntegerIn lo hi (String.ofList (Nat.toDigits 10 n)) = if lo ≤ n ∧ n ≤ hi then some (n : Int) else none := by
  rw [readIntegerIn, readInteger_toDigits]

theorem bounds_of_readIntegerIn {lo hi i : Int} {s : String} (h : readIntegerIn lo hi s = some i) :
    lo ≤ i ∧ i ≤ hi := by
  unfold readIntegerIn at h
  split at h
  · split at h
    · rename_i hb
      cases h
      exact hb
    · cases h
  · cases h

/-- **Printed integers read back.** Within any bounds, `readIntegerIn` reads a printed integer as
itself exactly when it lies within them. -/
theorem readIntegerIn_toString (lo hi i : Int) :
    readIntegerIn lo hi (toString i) = if lo ≤ i ∧ i ≤ hi then some i else none := by
  by_cases hsign : 0 ≤ i ∨ decide (lo < 0) = true
  · rw [readIntegerIn, readInteger_toString _ i hsign]
  · -- a negative integer against bounds that refuse a minus sign
    have hneg : i < 0 ∧ ¬ lo < 0 := by
      simp only [not_or, decide_eq_true_eq] at hsign
      omega
    have hread : readInteger (decide (lo < 0)) (toString i) = none := by
      rw [Int.toString_eq_repr, Int.repr_eq_if, if_neg (by omega), Nat.repr_eq_ofList_toDigits,
        readInteger_minus_toDigits, decide_eq_false hneg.2]
      rfl
    rw [readIntegerIn, hread, if_neg (by omega)]

/-! ## Texts that are not integers -/

/-- Digits are read up to the end of the text only when every character is a digit. -/
theorem isDigit_of_readDigits {cs : List Char} {acc n v k : Nat} (h : readDigits cs acc n = (v, k, [])) :
    ∀ c ∈ cs, c.isDigit = true := by
  induction cs generalizing acc n with
  | nil => intro c hc; cases hc
  | cons c cs ih =>
    unfold readDigits at h
    split at h
    · rename_i hc
      intro d hd
      rcases List.mem_cons.mp hd with rfl | hd
      · exact hc
      · exact ih h d hd
    · cases h

theorem readNatDigits_eq_none_of_mem {cs : List Char} {c : Char} (hc : c ∈ cs) (hd : c.isDigit = false) :
    readNatDigits cs = none := by
  unfold readNatDigits
  split
  · rename_i v n hread
    have hdigit := isDigit_of_readDigits hread c hc
    rw [hd] at hdigit
    cases hdigit
  · rfl

/-- A text with a character that is not a digit after its first reads as no integer. -/
theorem readInteger_eq_none_of_mem {s : String} {c : Char} (hc : c ∈ s.toList.tail) (hd : c.isDigit = false)
    (signed : Bool) : readInteger signed s = none := by
  unfold readInteger
  split
  · rename_i r hr
    rw [hr, List.tail_cons] at hc
    rw [readNatDigits_eq_none_of_mem hc hd]
    rfl
  · rename_i r hr
    rw [hr, List.tail_cons] at hc
    cases signed with
    | false => rfl
    | true => rw [if_pos rfl, readNatDigits_eq_none_of_mem hc hd]; rfl
  · rename_i r _ _
    rw [readNatDigits_eq_none_of_mem (List.mem_of_mem_tail hc) hd]
    rfl

theorem readIntegerIn_eq_none_of_mem {s : String} {c : Char} (hc : c ∈ s.toList.tail)
    (hd : c.isDigit = false) (lo hi : Int) : readIntegerIn lo hi s = none := by
  rw [readIntegerIn, readInteger_eq_none_of_mem hc hd]

end UaFlow.Float
