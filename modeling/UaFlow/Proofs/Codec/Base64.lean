import UaFlow.Codec.Base64
import UaFlow.Proofs.Text.Ascii
import UaFlow.Proofs.Except
/-!
# Base64 round trip

Decoding undoes encoding: the text that `encode` writes for a list of bytes decodes to that list.
Encoding writes each group of three bytes as four symbols, and the last one, two or three bytes as
a last group of four, padded with `=`. The decoder reads every group before the last as four
symbols, and the last one with its padding; each symbol gives back the six bits it was written
from, and the padding leaves no bits over.
-/

namespace UaFlow.Codec

open UaFlow.Text

/-- Every byte of a list is below 256. -/
def AreBytes (bs : List Nat) : Prop :=
  ∀ b ∈ bs, b < 256

theorem toNat_charOfNat {n : Nat} (h : n < 0xD800) : (Char.ofNat n).toNat = n := by
  rw [Char.ofNat, dif_pos (Or.inl h)]
  rfl

/-- The code of the symbol of a six-bit value: the alphabet `A-Z a-z 0-9 + /` in order. -/
theorem toNat_symbolOf {v : Nat} (hv : v < 64) :
    (symbolOf v).toNat =
      if v < 26 then 65 + v else if v < 52 then 71 + v else if v < 62 then v - 4
      else if v = 62 then 43 else 47 := by
  unfold symbolOf
  by_cases h1 : v < 26
  · rw [if_pos h1, if_pos h1, toNat_charOfNat (by omega)]
  · by_cases h2 : v < 52
    · rw [if_neg h1, if_pos h2, if_neg h1, if_pos h2, toNat_charOfNat (by omega)]
    · by_cases h3 : v < 62
      · rw [if_neg h1, if_neg h2, if_pos h3, if_neg h1, if_neg h2, if_pos h3,
          toNat_charOfNat (by omega)]
      · simp only [if_neg h1, if_neg h2, if_neg h3]
        by_cases h4 : v = 62
        · rw [if_pos h4, if_pos h4]
          rfl
        · rw [if_neg h4, if_neg h4]
          rfl

/-- Each symbol reads back as the six bits it was written from. -/
theorem symbolValue?_symbolOf {v : Nat} (hv : v < 64) : symbolValue? (symbolOf v).toNat = some v := by
  rw [toNat_symbolOf hv]
  unfold symbolValue?
  by_cases h1 : v < 26
  · simp only [if_pos h1]
    rw [if_pos (by omega)]
    congr 1
    omega
  · by_cases h2 : v < 52
    · simp only [if_neg h1, if_pos h2]
      rw [if_neg (by omega), if_pos (by omega)]
      congr 1
      omega
    · by_cases h3 : v < 62
      · simp only [if_neg h1, if_neg h2, if_pos h3]
        rw [if_neg (by omega), if_neg (by omega), if_pos (by omega)]
        congr 1
        omega
      · by_cases h4 : v = 62
        · subst h4
          rfl
        · have h5 : v = 63 := by omega
          subst h5
          rfl

/-- Every symbol is ASCII, and none is the padding byte. -/
theorem toNat_symbolOf_lt (v : Nat) : (symbolOf v).toNat < 128 ∧ (symbolOf v).toNat ≠ padByte := by
  unfold symbolOf padByte
  by_cases h1 : v < 26
  · rw [if_pos h1, toNat_charOfNat (by omega)]
    omega
  · by_cases h2 : v < 52
    · rw [if_neg h1, if_pos h2, toNat_charOfNat (by omega)]
      omega
    · by_cases h3 : v < 62
      · rw [if_neg h1, if_neg h2, if_pos h3, toNat_charOfNat (by omega)]
        omega
      · rw [if_neg h1, if_neg h2, if_neg h3]
        split <;> decide

/-- Every symbol is a visible character. -/
theorem visible_symbolOf (v : Nat) : 32 < (symbolOf v).toNat ∧ (symbolOf v).toNat < 127 := by
  unfold symbolOf
  by_cases h1 : v < 26
  · rw [if_pos h1, toNat_charOfNat (by omega)]
    omega
  · by_cases h2 : v < 52
    · rw [if_neg h1, if_pos h2, toNat_charOfNat (by omega)]
      omega
    · by_cases h3 : v < 62
      · rw [if_neg h1, if_neg h2, if_pos h3, toNat_charOfNat (by omega)]
        omega
      · rw [if_neg h1, if_neg h2, if_neg h3]
        split <;> decide

/-- The text of any bytes is visible: symbols and padding. -/
theorem isVisible_encodeBytes (bs : List Nat) : IsVisible (encodeBytes bs) := by
  fun_induction encodeBytes bs with
  | case1 a b c rest n ih =>
    simp only [isVisible_cons]
    exact ⟨visible_symbolOf _, visible_symbolOf _, visible_symbolOf _, visible_symbolOf _, ih⟩
  | case2 a b =>
    simp only [isVisible_cons]
    exact ⟨visible_symbolOf _, visible_symbolOf _, visible_symbolOf _, by decide, isVisible_nil⟩
  | case3 a =>
    simp only [isVisible_cons]
    exact ⟨visible_symbolOf _, visible_symbolOf _, by decide, by decide, isVisible_nil⟩
  | case4 => exact isVisible_nil

/-- The text of any bytes is ASCII. -/
theorem isAscii_encodeBytes (bs : List Nat) : IsAscii (encodeBytes bs) := by
  fun_induction encodeBytes bs with
  | case1 a b c rest n ih =>
    simp only [isAscii_cons]
    exact ⟨(toNat_symbolOf_lt _).1, (toNat_symbolOf_lt _).1, (toNat_symbolOf_lt _).1,
      (toNat_symbolOf_lt _).1, ih⟩
  | case2 a b =>
    simp only [isAscii_cons]
    exact ⟨(toNat_symbolOf_lt _).1, (toNat_symbolOf_lt _).1, (toNat_symbolOf_lt _).1, by decide,
      fun _ h => nomatch h⟩
  | case3 a =>
    simp only [isAscii_cons]
    exact ⟨(toNat_symbolOf_lt _).1, (toNat_symbolOf_lt _).1, by decide, by decide,
      fun _ h => nomatch h⟩
  | case4 => exact fun _ h => nomatch h

theorem encodeBytes_append {body : List Nat} (rest : List Nat) (h : body.length % 3 = 0) :
    encodeBytes (body ++ rest) = encodeBytes body ++ encodeBytes rest := by
  fun_induction encodeBytes body with
  | case1 a b c body n ih =>
    simp only [List.length_cons] at h
    simp [encodeBytes, n, ih (by omega)]
  | case2 a b => simp at h
  | case3 a => simp at h
  | case4 => rfl

theorem length_encodeBytes {body : List Nat} (h : body.length % 3 = 0) :
    (encodeBytes body).length = body.length / 3 * 4 := by
  fun_induction encodeBytes body with
  | case1 a b c body n ih =>
    simp only [List.length_cons] at h ⊢
    rw [ih (by omega)]
    omega
  | case2 a b => simp at h
  | case3 a => simp at h
  | case4 => rfl

/-- Three bytes written as four six-bit values and read back. -/
theorem group_roundTrip {a b c : Nat} (ha : a < 256) (hb : b < 256) (hc : c < 256) :
    let n := (a * 256 + b) * 256 + c
    let m := ((n / 262144 * 64 + n / 4096 % 64) * 64 + n / 64 % 64) * 64 + n % 64
    n / 262144 < 64 ∧ m / 65536 = a ∧ m / 256 % 256 = b ∧ m % 256 = c := by
  intro n m
  have hm : m = n := by omega
  omega

/-- The groups before the last decode to the bytes they were written from. -/
theorem decodeBody_encodeBytes {body : List Nat} (hlen : body.length % 3 = 0) (hbytes : AreBytes body)
    (offset : Nat) : decodeBody ((encodeBytes body).map Char.toNat) offset = .ok body := by
  fun_induction encodeBytes body generalizing offset with
  | case1 a b c body n ih =>
    have ha := hbytes a (by simp)
    have hb := hbytes b (by simp)
    have hc := hbytes c (by simp)
    obtain ⟨hw, hma, hmb, hmc⟩ := group_roundTrip ha hb hc
    have hrest := ih (by simp only [List.length_cons] at hlen; omega)
      (fun x hx => hbytes x (by simp [hx])) (offset + 4)
    simp only [n, List.map_cons, decodeBody, symbolValue?_symbolOf hw,
      symbolValue?_symbolOf (Nat.mod_lt _ (by decide : 64 > 0)), hrest]
    rw [hma, hmb, hmc]
    rfl
  | case2 a b => simp at hlen
  | case3 a => simp at hlen
  | case4 => rfl

theorem toNat_pad : ('=' : Char).toNat = padByte := rfl

/-- A last group of one to three bytes reads back, with its padding, as those bytes. -/
theorem decodeLast_encodeBytes {last : List Nat} (hlen : 0 < last.length ∧ last.length ≤ 3)
    (hbytes : AreBytes last) (start : Nat) :
    ∃ g, scanLast start ((encodeBytes last).map Char.toNat) 0 ⟨[], 0, 0, 0⟩ = .ok g ∧
      2 ≤ g.values.length ∧ (g.pads + g.values.length) % 4 = 0 ∧ lastBytes start g = .ok last := by
  match last, hlen with
  | [a], _ =>
    have ha := hbytes a (by simp)
    have h1 : a * 16 / 64 < 64 := by omega
    have h2 : a * 16 % 64 < 64 := Nat.mod_lt _ (by decide)
    refine ⟨⟨[a * 16 / 64, a * 16 % 64], 2, 2, (symbolOf (a * 16 % 64)).toNat⟩, ?_, by simp,
      by simp, ?_⟩
    · simp [encodeBytes, scanLast, symbolValue?_symbolOf h1, symbolValue?_symbolOf h2,
        (toNat_symbolOf_lt _).2, toNat_pad]
    · have hn : a * 16 / 64 * 64 + a * 16 % 64 = a * 16 := by omega
      simp only [lastBytes]
      simp [hn, ha]
  | [a, b], _ =>
    have ha := hbytes a (by simp)
    have hb := hbytes b (by simp)
    have h1 : (a * 256 + b) * 4 / 4096 < 64 := by omega
    have h2 : (a * 256 + b) * 4 / 64 % 64 < 64 := Nat.mod_lt _ (by decide)
    have h3 : (a * 256 + b) * 4 % 64 < 64 := Nat.mod_lt _ (by decide)
    refine ⟨⟨[(a * 256 + b) * 4 / 4096, (a * 256 + b) * 4 / 64 % 64, (a * 256 + b) * 4 % 64], 1, 3,
      (symbolOf ((a * 256 + b) * 4 % 64)).toNat⟩, ?_, by simp, by simp, ?_⟩
    · simp [encodeBytes, scanLast, symbolValue?_symbolOf h1, symbolValue?_symbolOf h2,
        symbolValue?_symbolOf h3, (toNat_symbolOf_lt _).2, toNat_pad]
    · have hn : ((a * 256 + b) * 4 / 4096 * 64 + (a * 256 + b) * 4 / 64 % 64) * 64 +
          (a * 256 + b) * 4 % 64 = (a * 256 + b) * 4 := by omega
      simp only [lastBytes]
      simp only [List.length_cons, List.length_nil, List.foldl_cons, List.foldl_nil, Nat.zero_mul,
        Nat.zero_add, hn]
      rw [show (1 + 1 + 1) * 6 - (1 + 1 + 1) * 6 / 8 * 8 = 2 from rfl,
        show (1 + 1 + 1) * 6 / 8 = 2 from rfl, show Nat.pow 2 2 = 4 from rfl, if_neg (by omega)]
      simp only [List.range_succ, List.range_zero, List.nil_append, List.cons_append,
        List.map_cons, List.map_nil, show Nat.pow 256 (2 - 1 - 0) = 256 from rfl,
        show Nat.pow 256 (2 - 1 - 1) = 1 from rfl, Except.ok.injEq, List.cons.injEq]
      exact ⟨by omega, by omega, trivial⟩
  | [a, b, c], _ =>
    have ha := hbytes a (by simp)
    have hb := hbytes b (by simp)
    have hc := hbytes c (by simp)
    obtain ⟨hw, hma, hmb, hmc⟩ := group_roundTrip ha hb hc
    have h2 : ((a * 256 + b) * 256 + c) / 4096 % 64 < 64 := Nat.mod_lt _ (by decide)
    have h3 : ((a * 256 + b) * 256 + c) / 64 % 64 < 64 := Nat.mod_lt _ (by decide)
    have h4 : ((a * 256 + b) * 256 + c) % 64 < 64 := Nat.mod_lt _ (by decide)
    refine ⟨⟨[((a * 256 + b) * 256 + c) / 262144, ((a * 256 + b) * 256 + c) / 4096 % 64,
      ((a * 256 + b) * 256 + c) / 64 % 64, ((a * 256 + b) * 256 + c) % 64], 0, 0,
      (symbolOf (((a * 256 + b) * 256 + c) % 64)).toNat⟩, ?_, by simp, by simp, ?_⟩
    · simp [encodeBytes, scanLast, symbolValue?_symbolOf hw, symbolValue?_symbolOf h2,
        symbolValue?_symbolOf h3, symbolValue?_symbolOf h4, (toNat_symbolOf_lt _).2]
    · simp only [lastBytes]
      simp only [List.length_cons, List.length_nil, List.foldl_cons, List.foldl_nil, Nat.zero_mul,
        Nat.zero_add]
      rw [show (1 + 1 + 1 + 1) * 6 - (1 + 1 + 1 + 1) * 6 / 8 * 8 = 0 from rfl,
        show (1 + 1 + 1 + 1) * 6 / 8 = 3 from rfl, show Nat.pow 2 0 = 1 from rfl, Nat.mod_one,
        if_neg (by decide), Nat.div_one]
      simp only [List.range_succ, List.range_zero, List.nil_append, List.cons_append,
        List.map_cons, List.map_nil, show Nat.pow 256 (3 - 1 - 0) = 65536 from rfl,
        show Nat.pow 256 (3 - 1 - 1) = 256 from rfl, show Nat.pow 256 (3 - 1 - 2) = 1 from rfl,
        Nat.div_one, Except.ok.injEq, List.cons.injEq]
      exact ⟨by omega, hmb, by omega, trivial⟩

theorem length_encodeBytes_last {last : List Nat} (hlen : 0 < last.length ∧ last.length ≤ 3) :
    (encodeBytes last).length = 4 := by
  match last, hlen with
  | [_], _ => rfl
  | [_, _], _ => rfl
  | [_, _, _], _ => rfl

/-- **Decoding undoes encoding**, on the bytes as the decoder reads them. -/
theorem decodeBytes_encodeBytes {bs : List Nat} (h : AreBytes bs) :
    decodeBytes ((encodeBytes bs).map Char.toNat) = .ok bs := by
  cases bs with
  | nil => rfl
  | cons b rest =>
  -- the last one to three bytes make the last group; the groups before it are whole
  have hsplit := (List.take_append_drop ((rest.length) / 3 * 3) (b :: rest)).symm
  generalize hbody : (b :: rest).take (rest.length / 3 * 3) = body at hsplit
  generalize hlast : (b :: rest).drop (rest.length / 3 * 3) = last at hsplit
  have hbodyLen : body.length = rest.length / 3 * 3 := by
    rw [← hbody, List.length_take, List.length_cons]
    omega
  have hlastLen : 0 < last.length ∧ last.length ≤ 3 := by
    rw [← hlast, List.length_drop, List.length_cons]
    omega
  have hbytes : AreBytes body ∧ AreBytes last := by
    rw [hsplit] at h
    exact ⟨fun x hx => h x (List.mem_append_left _ hx), fun x hx => h x (List.mem_append_right _ hx)⟩
  obtain ⟨g, hg, hvalues, hpads, htail⟩ :=
    decodeLast_encodeBytes hlastLen hbytes.2 ((encodeBytes body).length)
  have hbodyEnc := @length_encodeBytes body (by omega)
  rw [hsplit, encodeBytes_append _ (by omega), List.map_append]
  have hrem : ((encodeBytes body).length + 4) % 4 = 0 := by omega
  unfold decodeBytes
  simp only [List.length_append, List.length_map, length_encodeBytes_last hlastLen]
  rw [if_neg (by omega)]
  have htake : List.take (encodeBytes body).length (List.map Char.toNat (encodeBytes body) ++
      List.map Char.toNat (encodeBytes last)) = List.map Char.toNat (encodeBytes body) :=
    List.take_left' (by simp)
  have hdrop : List.drop (encodeBytes body).length (List.map Char.toNat (encodeBytes body) ++
      List.map Char.toNat (encodeBytes last)) = List.map Char.toNat (encodeBytes last) :=
    List.drop_left' (by simp)
  simp only [hrem, if_true, Nat.add_sub_cancel]
  rw [htake, hdrop, decodeBody_encodeBytes (by omega) hbytes.1]
  simp [hg, hpads, htail]
  omega

/-- **Base64 round trip.** The text `encode` writes for a list of bytes decodes to that list. -/
theorem decode_encode {bs : List Nat} (h : AreBytes bs) : decode (encode bs) = .ok bs := by
  have hascii : IsAscii (encode bs).toList := by
    rw [encode, String.toList_ofList]
    exact isAscii_encodeBytes bs
  have hbytes : (encode bs).toUTF8.toList.map (·.toNat) = (encodeBytes bs).map Char.toNat := by
    rw [toUTF8_toList_of_isAscii hascii, List.map_map]
    rw [encode, String.toList_ofList] at hascii ⊢
    exact List.map_congr_left fun c hc => toNat_toUInt8_of_lt (hascii c hc)
  rw [decode, hbytes, decodeBytes_encodeBytes h]

theorem symbolValue?_lt {b v : Nat} (h : symbolValue? b = some v) : v < 64 := by
  unfold symbolValue? at h
  split at h
  · cases h
    omega
  · split at h
    · cases h
      omega
    · split at h
      · cases h
        omega
      · split at h
        · cases h
          decide
        · split at h
          · cases h
            decide
          · cases h

theorem areBytes_of_decodeBody {input out : List Nat} {offset : Nat}
    (h : decodeBody input offset = .ok out) : AreBytes out := by
  fun_induction decodeBody input offset generalizing out with
  | case1 a b c d rest offset w x y z hd hc hb ha n =>
    rename_i ih
    -- four six-bit values make 24 bits, three bytes
    have hw := symbolValue?_lt ha
    have hx := symbolValue?_lt hb
    have hy := symbolValue?_lt hc
    have hz := symbolValue?_lt hd
    simp only [bind_eq_ok, Except.ok.injEq] at h
    obtain ⟨tail, htail, rfl⟩ := h
    intro v hv
    simp only [List.mem_cons] at hv
    rcases hv with rfl | rfl | rfl | hv
    · simp only [n]
      omega
    · exact Nat.mod_lt _ (by decide)
    · exact Nat.mod_lt _ (by decide)
    · exact ih htail v hv
  | case2 => cases h
  | case3 => cases h
  | case4 => cases h
  | case5 => cases h
  | case6 =>
    cases h
    exact fun _ hv => nomatch hv

theorem areBytes_of_lastBytes {start : Nat} {g : LastGroup} {out : List Nat}
    (h : lastBytes start g = .ok out) : AreBytes out := by
  unfold lastBytes at h
  dsimp only at h
  split at h
  · cases h
  · cases h
    intro v hv
    obtain ⟨i, -, rfl⟩ := List.mem_map.mp hv
    exact Nat.mod_lt _ (by decide)

/-- What follows the check of a stray last byte: the groups, the last group, and its checks. -/
private theorem decodeGroups_eq_ok {input : List Nat} {k : Nat} {out : List Nat}
    (h : (do
      let body ← decodeBody (List.take k input) 0
      let g ← scanLast k (List.drop k input) 0 ⟨[], 0, 0, 0⟩
      if input.length ≠ 0 ∧ g.values.length < 2 then throw (Base64Error.invalidLength (k + g.values.length))
      if (g.pads + g.values.length) % 4 ≠ 0 then throw Base64Error.invalidPadding
      let tail ← lastBytes k g
      pure (body ++ tail) : Except Base64Error (List Nat)) = .ok out) :
    ∃ g body tail, decodeBody (input.take k) 0 = .ok body ∧ lastBytes k g = .ok tail ∧
      out = body ++ tail ∧ (input.length ≠ 0 → 2 ≤ g.values.length) := by
  simp only [bind_eq_ok] at h
  obtain ⟨body, hbody, g, -, h⟩ := h
  refine ⟨g, body, ?_⟩
  split at h
  · simp [throw, throwThe, MonadExceptOf.throw] at h
  · rename_i hlen
    split at h
    · simp [throw, throwThe, MonadExceptOf.throw] at h
    · simp only [bind_eq_ok] at h
      obtain ⟨tail, htail, h⟩ := h
      cases h
      exact ⟨tail, hbody, htail, rfl, fun hne => by omega⟩

/-- A decoded text is its groups before the last, then the bytes of its last group, which holds
at least two symbols unless the text is empty. -/
theorem decode_eq_groups {s : String} {out : List Nat} (h : decode s = .ok out) :
    ∃ k g body tail, decodeBody (List.take k (s.toUTF8.toList.map (·.toNat))) 0 = .ok body ∧
      lastBytes k g = .ok tail ∧ out = body ++ tail ∧
      (s.toUTF8.toList.length ≠ 0 → 2 ≤ g.values.length) := by
  unfold decode decodeBytes at h
  dsimp only at h
  -- the stray-byte check either fails or passes on to the groups
  have hlen : (s.toUTF8.toList.map (·.toNat)).length = s.toUTF8.toList.length := List.length_map _
  split at h
  · split at h
    · split at h
      · simp [throw, throwThe, MonadExceptOf.throw] at h
      · exact ⟨_, hlen ▸ decodeGroups_eq_ok h⟩
    · exact ⟨_, hlen ▸ decodeGroups_eq_ok h⟩
  · exact ⟨_, hlen ▸ decodeGroups_eq_ok h⟩

/-- Decoding gives bytes. -/
theorem areBytes_of_decode {s : String} {out : List Nat} (h : decode s = .ok out) : AreBytes out := by
  obtain ⟨k, g, body, tail, hbody, htail, rfl, -⟩ := decode_eq_groups h
  intro v hv
  rcases List.mem_append.mp hv with hv | hv
  · exact areBytes_of_decodeBody hbody v hv
  · exact areBytes_of_lastBytes htail v hv

theorem length_lastBytes {start : Nat} {g : LastGroup} {out : List Nat} (h : lastBytes start g = .ok out) :
    out.length = g.values.length * 6 / 8 := by
  unfold lastBytes at h
  dsimp only at h
  split at h
  · cases h
  · cases h
    rw [List.length_map, List.length_range]

/-- A text that is not empty decodes to at least one byte. -/
theorem decode_ne_nil {s : String} {out : List Nat} (h : decode s = .ok out) (hs : s.toUTF8.toList ≠ []) :
    out ≠ [] := by
  obtain ⟨k, g, body, tail, -, htail, rfl, htwo⟩ := decode_eq_groups h
  have hvalues := htwo (fun hz => hs (List.eq_nil_of_length_eq_zero hz))
  have htail := length_lastBytes htail
  intro hnil
  have hzero := congrArg List.length hnil
  rw [List.length_append, htail, List.length_nil] at hzero
  omega

end UaFlow.Codec
