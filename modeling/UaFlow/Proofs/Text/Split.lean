import Mathlib.Data.String.Basic
/-!
# Splitting a text at a character

A text split at a separator character gives the pieces between the separators, in order: one
more piece than there are separators, empty pieces included. The text library splits by byte
positions; `splitOn_singleton` says that at a one-character separator this is the list library's
splitting of the text's characters, so joining the pieces with the separator gives the text back
(`intercalate_splitOn_singleton`).
-/

namespace UaFlow.Text

open String in
/-- Splitting a text at `c`, at the byte position after the characters `l ++ m`, where `m` is the
current piece so far, goes on as the list splitting of the characters `r` still ahead. -/
theorem splitOnAux_singleton (c : Char) (l m r : List Char) (acc : List String) :
    String.splitOnAux (ofList (l ++ m ++ r)) (String.singleton c) ⟨utf8Len l⟩
        ⟨utf8Len l + utf8Len m⟩ 0 acc =
      acc.reverse ++ (List.splitOnPPrepend (· == c) r m.reverse).map ofList := by
  -- the separator is one character, so a match is found or missed at once
  have hsep : String.singleton c = ofList ([] ++ [c]) := singleton_eq_ofList
  have hgetc : Pos.Raw.get (String.singleton c) 0 = c := by
    rw [hsep]
    simpa using get_of_valid [] [c]
  have hnextc : Pos.Raw.next (String.singleton c) 0 = ⟨c.utf8Size⟩ := by
    rw [hsep]
    simpa using next_of_valid [] c []
  have hendc : (String.singleton c).rawEndPos = ⟨c.utf8Size⟩ := by
    rw [hsep, rawEndPos_ofList]
    simp
  unfold String.splitOnAux
  simp only [List.append_assoc, atEnd_iff, rawEndPos_ofList, utf8Len_append, Pos.Raw.mk_le_mk,
    Nat.add_le_add_iff_left, (by omega : utf8Len m + utf8Len r ≤ utf8Len m ↔ utf8Len r = 0),
    utf8Len_eq_zero, List.reverse_cons]
  split
  · -- at the end of the text the current piece is the last one
    subst r
    simpa using extract_of_valid l m []
  · obtain ⟨d, r, rfl⟩ := r.exists_cons_of_ne_nil ‹_›
    have hget := get_of_valid (l ++ m) (d :: r)
    have hnext := next_of_valid (l ++ m) d r
    simp only [List.append_assoc, utf8Len_append, List.headD_cons] at hget hnext
    rw [hget, hnext, hgetc, hnextc, hendc, Pos.Raw.unoffsetBy_zero, hnext]
    by_cases hd : d = c
    · -- a separator closes the current piece and starts an empty one after it
      subst hd
      have hback : ({ byteIdx := utf8Len l + utf8Len m + d.utf8Size } : Pos.Raw).unoffsetBy
          ⟨d.utf8Size⟩ = ⟨utf8Len l + utf8Len m⟩ := by
        simp [Pos.Raw.ext_iff, Pos.Raw.byteIdx_unoffsetBy]
      have hextract := extract_of_valid l m (d :: r)
      simp only [List.append_assoc] at hextract
      simp only [beq_self_eq_true, ↓reduceIte, Pos.Raw.le_refl, hback, hextract]
      simpa [Nat.add_assoc, List.splitOnPPrepend_cons_pos] using
        splitOnAux_singleton d (l ++ m ++ [d]) [] r (ofList m :: acc)
    · -- any other character joins the current piece
      have hne : (d == c) = false := by simpa using hd
      simp only [hne, Bool.false_eq_true, ↓reduceIte]
      rw [List.splitOnPPrepend_cons_neg (p := fun x => x == c) hne]
      simpa [Nat.add_assoc] using splitOnAux_singleton c l (m ++ [d]) r acc

/-- Splitting a text at a one-character separator splits its characters. -/
theorem splitOn_singleton (s : String) (c : Char) :
    s.splitOn (String.singleton c) = (s.toList.splitOn c).map String.ofList := by
  have hsep : (String.singleton c == "") = false := by
    simp [← String.toList_inj]
  rw [String.splitOn, hsep, if_neg Bool.false_ne_true, List.splitOn_eq_splitOnP,
    List.splitOnP_eq_splitOnPPrepend]
  simpa using splitOnAux_singleton c [] [] s.toList []

/-- Joining the pieces of a text split at a character, with that character, gives the text. -/
theorem intercalate_splitOn_singleton (s : String) (c : Char) :
    (String.singleton c).intercalate (s.splitOn (String.singleton c)) = s := by
  rw [← String.toList_inj, String.toList_intercalate, splitOn_singleton, List.map_map]
  simp [List.intercalate_splitOn]

end UaFlow.Text
