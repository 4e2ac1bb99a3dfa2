import UaFlow.Json.Reader
import UaFlow.Proofs.Ua.DecimalLiteral
/-!
# Reading the tokens that writing produces

The reader takes back each token the compact writer writes, and stops right after it:

* a blank-free start is not skipped (`skipBlankFrom_of_not_blank`), and the names `null`, `true`
  and `false` are read letter by letter (`readIdent_append`);
* a string written by `jsonQuote` reads back as the string (`readString_quoted`): each character
  is written as itself, as a short escape, or as a `\u00xx` escape (`jsonEscape_spec`), and the
  reader undoes each;
* a number in the form the reader keeps (`KeptNumber`: no plus sign, no leading zero, a lower
  case exponent mark with its sign) reads back as its text when a comma or a closing bracket, or
  nothing, follows it (`readNumberText_kept`).

The reader counts bytes, so the lemmas carry the byte index along: reading from byte `i` over a
text of `n` bytes ends at byte `i + n`. The one place the reader looks at the total length is a
`\u` escape, which needs its four hex digits to lie within the text.
-/

namespace UaFlow.Json

open UaFlow.Text UaFlow.Ua

/-- The number of UTF-8 bytes of characters. -/
def byteCount (cs : List Char) : Nat :=
  (String.ofList cs).utf8ByteSize

@[simp] theorem byteCount_nil : byteCount [] = 0 := rfl

@[simp] theorem byteCount_cons (c : Char) (cs : List Char) :
    byteCount (c :: cs) = c.utf8Size + byteCount cs := by
  simp [byteCount]

@[simp] theorem byteCount_append (cs ds : List Char) :
    byteCount (cs ++ ds) = byteCount cs + byteCount ds := by
  rw [byteCount, String.ofList_append, String.utf8ByteSize_append]
  rfl

theorem utf8ByteSize_eq_byteCount (s : String) : s.utf8ByteSize = byteCount s.toList := by
  rw [byteCount, String.ofList_toList]

/-- What follows a value in compact text: a comma, a closing bracket or brace, or nothing. -/
def Delimited (rest : List Char) : Prop :=
  ∀ c ∈ rest.head?, c = ',' ∨ c = ']' ∨ c = '}'

@[simp] theorem delimited_nil : Delimited [] := by
  intro c hc
  cases hc

/-! ## Blanks and names -/

theorem skipBlankFrom_of_not_blank {c : Char} (h : isTokenBlank c = false) (r : List Char) (i : Nat) :
    skipBlankFrom (c :: r) i = ⟨c :: r, i⟩ := by
  rw [skipBlankFrom, if_neg (by rw [h]; exact Bool.false_ne_true)]

theorem readIdent_append (cs rest : List Char) (i : Nat) :
    readIdent cs ⟨cs ++ rest, i⟩ = .ok ⟨rest, i + cs.length⟩ := by
  induction cs generalizing i with
  | nil => rfl
  | cons c cs ih =>
    rw [List.cons_append, readIdent]
    dsimp only
    rw [if_pos rfl, ih, List.length_cons, Nat.add_assoc, Nat.add_comm 1]

/-! ## Strings -/

/-- Each character is written as itself, as a backslash and one letter that the reader turns
back into it, or, for another control character, as a `\u00xx` escape of its code. -/
theorem jsonEscape_spec (c : Char) :
    (∃ e, jsonEscape c = ['\\', e] ∧ e ≠ 'u' ∧ shortEscape? e = some c) ∨
      (c.toNat < 0x20 ∧
        jsonEscape c = ['\\', 'u', '0', '0', hexDigit (c.toNat / 16), hexDigit (c.toNat % 16)]) ∨
      (jsonEscape c = [c] ∧ c ≠ '"' ∧ c ≠ '\\' ∧ 0x20 ≤ c.toNat) := by
  unfold jsonEscape
  split
  · exact .inl ⟨'"', rfl, by decide, rfl⟩
  · exact .inl ⟨'\\', rfl, by decide, rfl⟩
  · exact .inl ⟨'b', rfl, by decide, rfl⟩
  · exact .inl ⟨'f', rfl, by decide, rfl⟩
  · exact .inl ⟨'n', rfl, by decide, rfl⟩
  · exact .inl ⟨'r', rfl, by decide, rfl⟩
  · exact .inl ⟨'t', rfl, by decide, rfl⟩
  · rename_i hquote hback _ _ _ _ _
    by_cases hc : c.toNat < 32
    · exact .inr (.inl ⟨hc, if_pos hc⟩)
    · exact .inr (.inr ⟨if_neg hc, hquote, hback, Nat.le_of_not_lt hc⟩)

theorem hexValue?_hexDigit : ∀ n, n < 16 → hexValue? (hexDigit n) = some n := by
  decide

theorem utf8Size_hexDigit : ∀ n, n < 16 → (hexDigit n).utf8Size = 1 := by
  decide

/-- The letters of the one-letter escapes are ASCII. -/
theorem utf8Size_of_shortEscape? {e c : Char} (h : shortEscape? e = some c) : e.utf8Size = 1 := by
  unfold shortEscape? at h
  split at h
  · rfl
  · rfl
  · rfl
  · rfl
  · rfl
  · rfl
  · rfl
  · rfl
  · cases h

/-- A character that stands for itself is read as itself. -/
theorem readStringBody_plain (len f : Nat) {c : Char} (h1 : c ≠ '"') (h2 : c ≠ '\\')
    (h3 : 0x20 ≤ c.toNat) (acc more : List Char) (i : Nat) :
    readStringBody len (f + 1) acc ⟨c :: more, i⟩ =
      readStringBody len f (c :: acc) ⟨more, i + c.utf8Size⟩ := by
  -- the match takes the last branch, the character being neither a quote nor a backslash
  simp only [readStringBody]
  rw [if_neg (Nat.not_lt_of_le h3)]

/-- A one-letter escape is read as the character it names. -/
theorem readStringBody_short (len f : Nat) {c e : Char} (hu : e ≠ 'u') (he : shortEscape? e = some c)
    (acc more : List Char) (i : Nat) :
    readStringBody len (f + 1) acc ⟨'\\' :: e :: more, i⟩ =
      readStringBody len f (c :: acc) ⟨more, i + 2⟩ := by
  have hescape : readEscape len ⟨e :: more, i + 1⟩ = .ok (c, ⟨more, i + 1 + 1⟩) := by
    -- the match skips the branch of `u`, the letter being another
    simp only [readEscape, he]
  simp only [readStringBody, hescape]

/-- A `\u00xx` escape whose digits lie within the text is read as the character of that code. -/
theorem readStringBody_unicode (len f : Nat) {c : Char} (hc : c.toNat < 0x20) (acc more : List Char)
    (i : Nat) (hlen : i + 6 ≤ len) :
    readStringBody len (f + 1) acc
        ⟨'\\' :: 'u' :: '0' :: '0' :: hexDigit (c.toNat / 16) :: hexDigit (c.toNat % 16) :: more, i⟩ =
      readStringBody len f (c :: acc) ⟨more, i + 6⟩ := by
  have hhi := hexValue?_hexDigit (c.toNat / 16) (by omega)
  have hlo := hexValue?_hexDigit (c.toNat % 16) (Nat.mod_lt _ (by decide))
  have hcode : ((0 * 16 + 0) * 16 + c.toNat / 16) * 16 + c.toNat % 16 = c.toNat := by omega
  have hhex : readHex4 len ⟨'0' :: '0' :: hexDigit (c.toNat / 16) :: hexDigit (c.toNat % 16) :: more,
      i + 1 + 1⟩ = .ok (c.toNat, ⟨more, i + 1 + 1 + 4⟩) := by
    unfold readHex4
    dsimp only
    rw [if_neg (by omega)]
    simp only [hhi, hlo, show hexValue? '0' = some 0 from rfl, hcode]
  have hescape : readEscape len ⟨'u' :: '0' :: '0' :: hexDigit (c.toNat / 16) ::
      hexDigit (c.toNat % 16) :: more, i + 1⟩ = .ok (c, ⟨more, i + 6⟩) := by
    simp only [readEscape, readUnicodeEscape, hhex, ok_bind]
    rw [if_neg (by omega), if_pos (.inl (by omega)), Char.ofNat_toNat]
  simp only [readStringBody, hescape]

/-- The escaped form of one character is read as that character. -/
theorem readStringBody_jsonEscape (len f : Nat) (c : Char) (acc more : List Char) (i : Nat)
    (hlen : i + byteCount (jsonEscape c) ≤ len) :
    readStringBody len (f + 1) acc ⟨jsonEscape c ++ more, i⟩ =
      readStringBody len f (c :: acc) ⟨more, i + byteCount (jsonEscape c)⟩ := by
  rcases jsonEscape_spec c with ⟨e, he, hu, hs⟩ | ⟨hc, he⟩ | ⟨he, h1, h2, h3⟩
  · have htwo : byteCount (jsonEscape c) = 2 := by
      rw [he, byteCount_cons, byteCount_cons, byteCount_nil, utf8Size_of_shortEscape? hs]
      rfl
    rw [htwo, he]
    exact readStringBody_short len f hu hs acc more i
  · -- the escape is six ASCII bytes
    have hsix : byteCount (jsonEscape c) = 6 := by
      rw [he]
      simp only [byteCount_cons, byteCount_nil, utf8Size_hexDigit _ (show c.toNat / 16 < 16 by omega),
        utf8Size_hexDigit _ (Nat.mod_lt _ (show 16 > 0 by decide))]
      rfl
    rw [hsix] at hlen ⊢
    rw [he]
    exact readStringBody_unicode len f hc acc more i hlen
  · rw [he]
    have hbytes : byteCount [c] = c.utf8Size := by simp
    rw [hbytes]
    exact readStringBody_plain len f h1 h2 h3 acc more i

/-- The escaped characters of a text are read as the text, up to the closing quote. -/
theorem readStringBody_escaped (len : Nat) (s acc rest : List Char) (i fuel : Nat) (hfuel : s.length < fuel)
    (hlen : i + byteCount (s.flatMap jsonEscape) ≤ len) :
    readStringBody len fuel acc ⟨s.flatMap jsonEscape ++ '"' :: rest, i⟩ =
      .ok (String.ofList (acc.reverse ++ s), ⟨rest, i + byteCount (s.flatMap jsonEscape) + 1⟩) := by
  induction s generalizing acc i fuel with
  | nil =>
    obtain ⟨f, rfl⟩ := Nat.exists_eq_add_of_lt hfuel
    simp [readStringBody]
  | cons c s ih =>
    obtain ⟨f, rfl⟩ : ∃ f, fuel = f + 1 := Nat.exists_eq_succ_of_ne_zero (by omega)
    rw [List.flatMap_cons, byteCount_append] at hlen
    rw [List.flatMap_cons, List.append_assoc, readStringBody_jsonEscape len f c acc _ i (by omega),
      ih (c :: acc) _ f (by simpa using hfuel) (by omega), List.reverse_cons, List.append_assoc,
      List.singleton_append, byteCount_append, Nat.add_assoc i]

theorem jsonEscape_ne_nil (c : Char) : jsonEscape c ≠ [] := by
  rcases jsonEscape_spec c with ⟨e, he, -⟩ | ⟨-, he⟩ | ⟨he, -⟩ <;> rw [he] <;> exact List.cons_ne_nil _ _

/-- Escaping never shortens a text. -/
theorem length_le_length_escaped (cs : List Char) : cs.length ≤ (cs.flatMap jsonEscape).length := by
  induction cs with
  | nil => exact Nat.le_refl 0
  | cons c cs ih =>
    have hc := List.length_pos_iff.mpr (jsonEscape_ne_nil c)
    rw [List.flatMap_cons, List.length_append, List.length_cons]
    omega

/-- The characters of a quoted text after its opening quote. -/
def quotedBody (s : String) : List Char :=
  s.toList.flatMap jsonEscape ++ ['"']

theorem toList_jsonQuote (s : String) : (jsonQuote s).toList = '"' :: quotedBody s := by
  rw [jsonQuote, String.toList_ofList]
  rfl

/-- **A quoted text reads back as the text**, and reading stops right after its closing quote. -/
theorem readString_quoted (len : Nat) (s : String) (rest : List Char) (i : Nat)
    (hlen : i + byteCount (quotedBody s) ≤ len) :
    readString len ⟨quotedBody s ++ rest, i⟩ = .ok (s, ⟨rest, i + byteCount (quotedBody s)⟩) := by
  have hlength := length_le_length_escaped s.toList
  unfold readString quotedBody at *
  rw [byteCount_append] at hlen
  rw [List.append_assoc, List.singleton_append,
    readStringBody_escaped len s.toList [] rest i _ (by rw [List.length_append, List.length_cons]; omega)
      (by omega)]
  simp only [List.reverse_nil, List.nil_append, String.ofList_toList, byteCount_append]
  rfl

/-! ## Numbers -/

/-- A number literal in the form the reader keeps it: no plus sign, a whole part that is `0` or
starts with another digit, and an exponent written with a lower case `e` and a sign. -/
structure KeptNumber extends DecimalLiteral where
  sign_ne_plus : sign ≠ .plus
  whole_kept : whole.chars = ['0'] ∨ whole.chars.head? ≠ some '0'
  exponent_kept : ∀ e ∈ exponent, e.upper = false ∧ e.sign ≠ .none

theorem Delimited.not_isDigit {rest : List Char} (h : Delimited rest) : ∀ c ∈ rest.head?, c.isDigit = false := by
  intro c hc
  rcases h c hc with rfl | rfl | rfl <;> rfl

theorem Delimited.not_mark {rest : List Char} (h : Delimited rest) :
    ∀ c ∈ rest.head?, c ≠ '.' ∧ c ≠ 'e' ∧ c ≠ 'E' := by
  intro c hc
  rcases h c hc with rfl | rfl | rfl <;> decide

/-- Taking a run of digits stops at the first character that is no digit. -/
theorem takeDigits_run (ds rest : List Char) (hds : ∀ d ∈ ds, d.isDigit = true)
    (hrest : ∀ c ∈ rest.head?, c.isDigit = false) (i : Nat) (acc : List Char) :
    takeDigits (ds ++ rest) i acc = (ds.reverse ++ acc, ⟨rest, i + ds.length⟩) := by
  induction ds generalizing i acc with
  | nil =>
    cases rest with
    | nil => rfl
    | cons c r =>
      have hc : c.isDigit = false := hrest c rfl
      rw [List.nil_append, takeDigits, if_neg (by rw [hc]; exact Bool.false_ne_true)]
      rfl
  | cons d ds ih =>
    rw [List.cons_append, takeDigits, if_pos (hds d List.mem_cons_self),
      ih (fun x hx => hds x (List.mem_cons_of_mem d hx)), List.reverse_cons, List.append_assoc,
      List.singleton_append, List.length_cons, Nat.add_assoc, Nat.add_comm 1]

/-- A kept exponent is read as its own characters. -/
theorem readExponentText_kept {e : ExponentPart} (he : e.upper = false ∧ e.sign ≠ .none) (acc : List Char)
    {rest : List Char} (hrest : ∀ c ∈ rest.head?, c.isDigit = false) (i : Nat) :
    readExponentText acc ⟨e.chars ++ rest, i⟩ = .ok (e.chars.reverse ++ acc, ⟨rest, i + e.chars.length⟩) := by
  obtain ⟨d, ds, hds, hd⟩ := e.digits.exists_cons
  have htake := takeDigits_run ds rest (fun x hx => e.digits.isDigit x (hds ▸ List.mem_cons_of_mem d hx))
    hrest
  unfold ExponentPart.chars
  rw [he.1, hds]
  cases hs : e.sign with
  | none => exact absurd hs he.2
  | plus =>
    simp only [readExponentText, SignMark.chars, Bool.false_eq_true, if_false, List.cons_append,
      List.nil_append, hd, if_true, htake]
    simp only [List.reverse_cons, List.append_assoc, List.cons_append, List.nil_append, List.length_cons]
    rw [show i + 2 + 1 + ds.length = i + (ds.length + 1 + 1 + 1) by omega]
  | minus =>
    simp only [readExponentText, SignMark.chars, Bool.false_eq_true, if_false, List.cons_append,
      List.nil_append, hd, if_true, htake]
    simp only [List.reverse_cons, List.append_assoc, List.cons_append, List.nil_append, List.length_cons]
    rw [show i + 2 + 1 + ds.length = i + (ds.length + 1 + 1 + 1) by omega]

/-- Where a number is delimited, nothing of it is left to read. -/
theorem readNumberTail_delimited (len : Nat) (acc : List Char) {rest : List Char} (hrest : Delimited rest)
    (i : Nat) : readNumberTail len acc ⟨rest, i⟩ = .ok (acc, ⟨rest, i⟩) := by
  cases rest with
  | nil => rfl
  | cons c r =>
    obtain ⟨h1, h2, h3⟩ := hrest.not_mark c rfl
    -- the first three branches need a point or an exponent mark
    unfold readNumberTail
    split
    · simp_all
    · simp_all
    · simp_all
    · rfl

/-- Where an exponent follows, it is read. -/
theorem readNumberTail_exponent (len : Nat) (acc : List Char) {e : ExponentPart}
    (he : e.upper = false ∧ e.sign ≠ .none) {rest : List Char} (hrest : ∀ c ∈ rest.head?, c.isDigit = false)
    (i : Nat) :
    readNumberTail len acc ⟨e.chars ++ rest, i⟩ =
      .ok (e.chars.reverse ++ acc, ⟨rest, i + e.chars.length⟩) := by
  have hread := readExponentText_kept he acc hrest i
  unfold ExponentPart.chars at hread ⊢
  rw [he.1] at hread ⊢
  simp only [readNumberTail, Bool.false_eq_true, if_false, List.cons_append]
  exact hread

/-- A point and digits that end the number are read. -/
theorem readNumberTail_fraction (len : Nat) (acc : List Char) (f : DigitRun) {rest : List Char}
    (hrest : Delimited rest) (i : Nat) :
    readNumberTail len acc ⟨'.' :: (f.chars ++ rest), i⟩ =
      .ok (f.chars.reverse ++ '.' :: acc, ⟨rest, i + 1 + f.chars.length⟩) := by
  have htake := takeDigits_run f.chars rest f.isDigit hrest.not_isDigit (i + 1) ('.' :: acc)
  have hlen : (f.chars.reverse ++ '.' :: acc).length ≠ acc.length + 1 := by
    have := List.length_pos_iff.mpr f.ne_nil
    rw [List.length_append, List.length_reverse, List.length_cons]
    omega
  simp only [readNumberTail, htake]
  rw [if_neg hlen]
  cases rest with
  | nil => rfl
  | cons c r =>
    obtain ⟨-, h2, h3⟩ := hrest.not_mark c rfl
    -- no exponent mark follows the digits
    split
    · simp_all
    · simp_all
    · rfl

/-- A point and digits followed by an exponent are read with it. -/
theorem readNumberTail_fraction_exponent (len : Nat) (acc : List Char) (f : DigitRun) {e : ExponentPart}
    (he : e.upper = false ∧ e.sign ≠ .none) {rest : List Char} (hrest : Delimited rest) (i : Nat) :
    readNumberTail len acc ⟨'.' :: (f.chars ++ (e.chars ++ rest)), i⟩ =
      .ok (e.chars.reverse ++ (f.chars.reverse ++ '.' :: acc),
        ⟨rest, i + 1 + f.chars.length + e.chars.length⟩) := by
  have hmark : ∀ c ∈ (e.chars ++ rest).head?, c.isDigit = false := by
    intro c hc
    simp only [ExponentPart.chars, he.1, Bool.false_eq_true, if_false, List.cons_append, List.head?_cons,
      Option.mem_def, Option.some.injEq] at hc
    rw [← hc]
    rfl
  have htake := takeDigits_run f.chars (e.chars ++ rest) f.isDigit hmark (i + 1) ('.' :: acc)
  have hlen : (f.chars.reverse ++ '.' :: acc).length ≠ acc.length + 1 := by
    have := List.length_pos_iff.mpr f.ne_nil
    rw [List.length_append, List.length_reverse, List.length_cons]
    omega
  have hexp := readExponentText_kept he (f.chars.reverse ++ '.' :: acc) hrest.not_isDigit
    (i + 1 + f.chars.length)
  simp only [readNumberTail, htake]
  rw [if_neg hlen]
  unfold ExponentPart.chars at hexp ⊢
  rw [he.1] at hexp ⊢
  simp only [Bool.false_eq_true, if_false, List.cons_append]
  exact hexp

/-- **The fraction and exponent of a kept number are read as written.** -/
theorem readNumberTail_kept (len : Nat) (lit : KeptNumber) (acc : List Char) {rest : List Char}
    (hrest : Delimited rest) (i : Nat) :
    readNumberTail len acc ⟨lit.tailChars ++ rest, i⟩ =
      .ok (lit.tailChars.reverse ++ acc, ⟨rest, i + lit.tailChars.length⟩) := by
  unfold DecimalLiteral.tailChars
  cases hf : lit.fraction with
  | none =>
    cases hexp : lit.exponent with
    | none =>
      simp only [List.nil_append, List.reverse_nil, List.length_nil, Nat.add_zero]
      exact readNumberTail_delimited len acc hrest i
    | some e =>
      simp only [List.nil_append]
      exact readNumberTail_exponent len acc (lit.exponent_kept e hexp) hrest.not_isDigit i
  | some f =>
    cases hexp : lit.exponent with
    | none =>
      simp only [List.append_nil, List.cons_append, List.reverse_cons, List.append_assoc,
        List.length_cons]
      rw [readNumberTail_fraction len acc f hrest i, Nat.add_comm f.chars.length 1, Nat.add_assoc]
      rfl
    | some e =>
      simp only [List.cons_append, List.append_assoc, List.reverse_append, List.reverse_cons,
        List.length_append, List.length_cons]
      rw [readNumberTail_fraction_exponent len acc f (lit.exponent_kept e hexp) hrest i, List.nil_append,
        show i + 1 + f.chars.length + e.chars.length = i + (f.chars.length + e.chars.length + 1) by omega]

/-- After the whole part of a number comes its point, its exponent mark or its delimiter. -/
theorem KeptNumber.tail_head (lit : KeptNumber) {rest : List Char} (hrest : Delimited rest) :
    ∀ c ∈ (lit.tailChars ++ rest).head?, c.isDigit = false := by
  intro c hc
  cases htail : lit.tailChars with
  | nil =>
    rw [htail, List.nil_append] at hc
    exact hrest.not_isDigit c hc
  | cons t ts =>
    rw [htail, List.cons_append, List.head?_cons, Option.mem_def, Option.some.injEq] at hc
    subst hc
    exact not_isDigit_of_mark (lit.tailChars_head t (by rw [htail]; rfl))

/-- **A kept number reads back as its text**, and reading stops at its delimiter. The reader is
called after the minus, if any, and told whether there was one. -/
theorem readNumberText_kept (len : Nat) (lit : KeptNumber) (neg : Bool)
    (hneg : lit.sign = if neg then .minus else .none) {rest : List Char} (hrest : Delimited rest)
    (i : Nat) :
    readNumberText len neg ⟨lit.whole.chars ++ lit.tailChars ++ rest, i⟩ =
      .ok (lit.text, ⟨rest, i + (lit.whole.chars ++ lit.tailChars).length⟩) := by
  have hhead := lit.tail_head hrest
  unfold readNumberText DecimalLiteral.text
  dsimp only
  -- the minus the reader starts with is the literal's sign, and reads the same both ways
  generalize hacc : (if neg = true then ['-'] else []) = acc0
  have hsign : lit.sign.chars = acc0 := by
    rw [hneg, ← hacc]
    cases neg <;> rfl
  have hrev : acc0.reverse = acc0 := by
    rw [← hacc]
    cases neg <;> rfl
  rcases lit.whole_kept with hzero | hlead
  · -- a lone zero: the reader checks that no digit follows it
    have htail := readNumberTail_kept len lit ('0' :: acc0) hrest (i + 1)
    rw [hzero]
    simp only [List.cons_append, List.nil_append]
    have hfinish : Except.map (fun p => (String.ofList p.1.reverse, p.2))
        (Except.ok (lit.tailChars.reverse ++ '0' :: acc0, ⟨rest, i + 1 + lit.tailChars.length⟩) :
          Except Located (List Char × Cursor)) =
        .ok (String.ofList (lit.sign.chars ++ '0' :: lit.tailChars),
          ⟨rest, i + ('0' :: lit.tailChars).length⟩) := by
      simp only [Except.map, List.reverse_append, List.reverse_cons, hrev, List.reverse_reverse, hsign,
        List.append_assoc, List.singleton_append, List.length_cons, Nat.add_assoc, Nat.add_comm 1]
    generalize hr : lit.tailChars ++ rest = r at htail hhead
    cases r with
    | nil =>
      dsimp only
      rw [htail]
      exact hfinish
    | cons c r =>
      dsimp only
      rw [if_neg (by rw [hhead c rfl]; exact Bool.false_ne_true), htail]
      exact hfinish
  · obtain ⟨d, ds, hds, hd⟩ := lit.whole.exists_cons
    have hd0 : d ≠ '0' := fun h => hlead (by rw [hds, h]; rfl)
    have htake := takeDigits_run ds (lit.tailChars ++ rest)
      (fun x hx => lit.whole.isDigit x (hds ▸ List.mem_cons_of_mem d hx)) hhead (i + 1) (d :: acc0)
    have htail := readNumberTail_kept len lit (ds.reverse ++ d :: acc0) hrest (i + 1 + ds.length)
    rw [hds]
    simp only [List.cons_append, List.append_assoc]
    rw [if_pos hd, htake]
    dsimp only
    rw [htail]
    simp only [Except.map, List.reverse_append, List.reverse_cons, hrev, List.reverse_reverse, hsign,
      List.append_assoc, List.singleton_append, List.length_cons, List.length_append]
    rw [show i + 1 + ds.length + lit.tailChars.length = i + (ds.length + lit.tailChars.length + 1) by omega,
      List.cons_append]

/-- Characters of one byte each count one byte each. -/
theorem byteCount_eq_length {cs : List Char} (h : ∀ c ∈ cs, c.utf8Size = 1) : byteCount cs = cs.length := by
  induction cs with
  | nil => rfl
  | cons c cs ih =>
    rw [byteCount_cons, h c List.mem_cons_self, ih fun x hx => h x (List.mem_cons_of_mem c hx),
      List.length_cons, Nat.add_comm]

theorem utf8Size_of_isDigit {c : Char} (h : c.isDigit = true) : c.utf8Size = 1 := by
  have hc := Char.isDigit_iff_toNat.mp h
  have h9 : '9'.toNat = 57 := rfl
  exact utf8Size_of_lt (by omega)

theorem utf8Size_of_mem_digits (r : DigitRun) : ∀ c ∈ r.chars, c.utf8Size = 1 :=
  fun c hc => utf8Size_of_isDigit (r.isDigit c hc)

theorem utf8Size_of_mem_sign (s : SignMark) : ∀ c ∈ s.chars, c.utf8Size = 1 := by
  intro c hc
  cases s <;> simp [SignMark.chars] at hc <;> subst hc <;> rfl

/-- A number literal is written in ASCII, one byte a character. -/
theorem DecimalLiteral.byteCount_text (lit : DecimalLiteral) :
    byteCount lit.text.toList = lit.text.length := by
  rw [← String.length_toList]
  apply byteCount_eq_length
  intro c hc
  simp only [DecimalLiteral.text, String.toList_ofList, List.mem_append] at hc
  rcases hc with hc | hc | hc
  · exact utf8Size_of_mem_sign lit.sign c hc
  · exact utf8Size_of_mem_digits lit.whole c hc
  · unfold DecimalLiteral.tailChars at hc
    rw [List.mem_append] at hc
    rcases hc with hc | hc
    · cases hf : lit.fraction with
      | none => rw [hf] at hc; cases hc
      | some f =>
        rw [hf, List.mem_cons] at hc
        rcases hc with rfl | hc
        · rfl
        · exact utf8Size_of_mem_digits f c hc
    · cases hexp : lit.exponent with
      | none => rw [hexp] at hc; cases hc
      | some e =>
        rw [hexp] at hc
        simp only [ExponentPart.chars, List.mem_cons, List.mem_append] at hc
        rcases hc with rfl | hc | hc
        · cases e.upper <;> rfl
        · exact utf8Size_of_mem_sign e.sign c hc
        · exact utf8Size_of_mem_digits e.digits c hc

end UaFlow.Json
