import UaFlow.Ua.Coerce
import UaFlow.Proofs.Ua.Recoerce
/-!
# Integers read from decimal literals

A number reaches an integer coercion as a JSON number, which keeps the text it was written with,
or as a text. Either way that text is a decimal literal: a sign, digits, and possibly a fraction
and an exponent (`DecimalLiteral`). Its value is read according to how it is written:

* a literal written as an integer is read exactly: as a JSON number when it fits 64 bits, signed
  or unsigned, and as a text when it fits 128 bits;
* any other literal, and an integer literal outside that window, is read as the double nearest
  to its value, which must be finite and whole.

The integer read is accepted exactly when it lies within the kind, and refused as an invalid value
otherwise (`coerce_decimalLiteral`). The bound of 128 bits that the reader holds a double's
integer within never changes that outcome, since every kind lies within 64 bits. So a literal
with a fraction or an exponent whose value is no double may be taken for a neighbouring integer:
`1.00000000000000001` is read as `1`. As a boolean, a JSON number is true exactly when the double
nearest to it is finite and not zero.
-/

namespace UaFlow.Ua

open UaFlow.Json UaFlow.Float UaFlow.Text

/-! ## Decimal literals -/

/-- The sign written before a number or an exponent. -/
inductive SignMark where
  | none
  | plus
  | minus
  deriving DecidableEq

/-- The characters of a sign. -/
def SignMark.chars : SignMark → List Char
  | .none => []
  | .plus => ['+']
  | .minus => ['-']

/-- A natural number with a sign. -/
def SignMark.apply (s : SignMark) (n : Nat) : Int :=
  if s = .minus then -(n : Int) else n

/-- A run of at least one decimal digit. -/
structure DigitRun where
  chars : List Char
  ne_nil : chars ≠ []
  isDigit : ∀ c ∈ chars, c.isDigit = true

/-- The value of a run of digits. -/
def DigitRun.value (r : DigitRun) : Nat :=
  Nat.ofDigitChars 10 r.chars 0

/-- An exponent: the mark `e` (`E` when `upper`), a sign and digits. -/
structure ExponentPart where
  upper : Bool
  sign : SignMark
  digits : DigitRun

/-- The characters of an exponent. -/
def ExponentPart.chars (e : ExponentPart) : List Char :=
  (if e.upper then 'E' else 'e') :: (e.sign.chars ++ e.digits.chars)

/-- The value of an exponent. -/
def ExponentPart.value (e : ExponentPart) : Int :=
  e.sign.apply e.digits.value

/-- A decimal literal: a sign, digits, and an optional fraction and exponent. -/
structure DecimalLiteral where
  sign : SignMark
  whole : DigitRun
  fraction : Option DigitRun
  exponent : Option ExponentPart

/-- The integer a double stands for: its whole part when it is finite and whole. -/
def wholePart (x : Binary) : Option Int :=
  if Format.double.isWhole x then some (Format.double.truncate x) else none

namespace DecimalLiteral

variable (lit : DecimalLiteral)

/-- The digits after the point; none without a fraction. -/
def fractionChars : List Char :=
  match lit.fraction with
  | some f => f.chars
  | none => []

/-- What follows the digits before the point: the point and its digits, then the exponent. -/
def tailChars : List Char :=
  (match lit.fraction with
    | some f => '.' :: f.chars
    | none => []) ++
  (match lit.exponent with
    | some e => e.chars
    | none => [])

/-- The text of a literal. -/
def text : String :=
  String.ofList (lit.sign.chars ++ (lit.whole.chars ++ lit.tailChars))

/-- A literal is written as an integer when it has neither a fraction nor an exponent. -/
def isInteger : Bool :=
  lit.fraction.isNone && lit.exponent.isNone

/-- The value of the sign and the digits before the point. -/
def intValue : Int :=
  lit.sign.apply lit.whole.value

/-- The exact value of a literal: all its digits, times ten to its exponent less the number of
digits after the point. -/
def decimal : Decimal :=
  ⟨lit.sign = .minus, Nat.ofDigitChars 10 (lit.whole.chars ++ lit.fractionChars) 0,
    (match lit.exponent with
      | some e => e.value
      | none => 0) - lit.fractionChars.length⟩

/-- The double nearest to the value of a literal. -/
def nearest : Binary :=
  Format.double.ofDecimal lit.decimal

/-- The integer a reader that reads integer literals exactly within `[lo, hi]` takes a literal
for: its value when it is written as an integer within the window, else the whole part of the
double nearest to its value. -/
def integerRead (lo hi : Int) : Option Int :=
  if lit.isInteger ∧ lo ≤ lit.intValue ∧ lit.intValue ≤ hi then some lit.intValue
  else wholePart lit.nearest

theorem intValue_nonneg {lit : DecimalLiteral} (h : lit.sign ≠ .minus) : 0 ≤ lit.intValue := by
  simp [intValue, SignMark.apply, h]

theorem intValue_nonpos {lit : DecimalLiteral} (h : lit.sign = .minus) : lit.intValue ≤ 0 := by
  simp [intValue, SignMark.apply, h]

end DecimalLiteral

/-! ## Reading the text of a literal -/

theorem readDigits_run (r : DigitRun) (rest : List Char) (hrest : ∀ c ∈ rest.head?, c.isDigit = false)
    (acc : Nat) : readDigits (r.chars ++ rest) acc 0 = (Nat.ofDigitChars 10 r.chars acc, r.chars.length, rest) := by
  rw [readDigits_append r.isDigit hrest, Nat.zero_add]

theorem readNatDigits_run (r : DigitRun) : readNatDigits r.chars = some r.value := by
  have hread := readDigits_run r [] (by simp) 0
  rw [List.append_nil] at hread
  unfold readNatDigits
  rw [hread]
  simp [DigitRun.value, r.ne_nil]

/-- A digit run starts with a digit. -/
theorem DigitRun.exists_cons (r : DigitRun) : ∃ d ds, r.chars = d :: ds ∧ d.isDigit = true := by
  obtain ⟨d, ds, hds⟩ := List.exists_cons_of_ne_nil r.ne_nil
  exact ⟨d, ds, hds, r.isDigit d (hds ▸ List.mem_cons_self)⟩

theorem ne_plus_of_isDigit {d : Char} (h : d.isDigit = true) : d ≠ '+' := by
  rintro rfl
  exact absurd h (by decide)

theorem ne_minus_of_isDigit {d : Char} (h : d.isDigit = true) : d ≠ '-' := by
  rintro rfl
  exact absurd h (by decide)

theorem toLower_of_isDigit {d : Char} (h : d.isDigit = true) : d.toLower = d := by
  have hd := Char.isDigit_iff_toNat.mp h
  unfold Char.toLower
  rw [dif_neg]
  intro hupper
  have hA : 65 ≤ d.toNat := hupper.1
  have h0 : '0'.toNat = 48 := rfl
  have h9 : '9'.toNat = 57 := rfl
  omega

/-- What follows the digits before the point starts with the point, an exponent mark, or
nothing. -/
theorem DecimalLiteral.tailChars_head (lit : DecimalLiteral) :
    ∀ c ∈ lit.tailChars.head?, c = '.' ∨ c = 'e' ∨ c = 'E' := by
  intro c hc
  unfold DecimalLiteral.tailChars at hc
  cases hf : lit.fraction with
  | some f =>
    rw [hf] at hc
    simp only [List.cons_append, List.head?_cons, Option.mem_def, Option.some.injEq] at hc
    exact .inl hc.symm
  | none =>
    rw [hf] at hc
    cases hexp : lit.exponent with
    | none =>
      rw [hexp] at hc
      cases hc
    | some e =>
      rw [hexp] at hc
      simp only [List.nil_append, ExponentPart.chars, List.head?_cons, Option.mem_def,
        Option.some.injEq] at hc
      rw [← hc]
      cases e.upper <;> simp

theorem not_isDigit_of_mark {c : Char} (h : c = '.' ∨ c = 'e' ∨ c = 'E') : c.isDigit = false := by
  rcases h with rfl | rfl | rfl <;> rfl

/-- A sign followed by digits reads as the signed value of the digits. -/
theorem readExponent_chars (e : ExponentPart) :
    readExponent (e.sign.chars ++ e.digits.chars) = some e.value := by
  obtain ⟨d, ds, hds, hd⟩ := e.digits.exists_cons
  have hread := readDigits_run e.digits [] (by simp) 0
  rw [List.append_nil] at hread
  unfold ExponentPart.value SignMark.apply
  cases hs : e.sign with
  | none =>
    rw [SignMark.chars, List.nil_append, hds]
    simp [readExponent, ne_plus_of_isDigit hd, ne_minus_of_isDigit hd]
    rw [← hds, hread]
    simp [DigitRun.value, e.digits.ne_nil]
  | plus =>
    simp only [readExponent, SignMark.chars, List.cons_append, List.nil_append, hread]
    simp [DigitRun.value, e.digits.ne_nil]
  | minus =>
    simp only [readExponent, SignMark.chars, List.cons_append, List.nil_append, hread]
    simp [DigitRun.value, e.digits.ne_nil]

/-- The unsigned part of a literal reads as its exact value. -/
theorem readUnsignedDecimal_chars (lit : DecimalLiteral) (neg : Bool) :
    readUnsignedDecimal neg (lit.whole.chars ++ lit.tailChars) =
      some ⟨neg, lit.decimal.digits, lit.decimal.exponent⟩ := by
  have hwhole := readDigits_run lit.whole lit.tailChars
    (fun c hc => not_isDigit_of_mark (lit.tailChars_head c hc)) 0
  unfold readUnsignedDecimal
  rw [hwhole]
  simp only
  have hlen : lit.whole.chars.length ≠ 0 := by
    simp [lit.whole.ne_nil]
  unfold DecimalLiteral.tailChars at hwhole ⊢
  unfold DecimalLiteral.decimal DecimalLiteral.fractionChars
  cases hfrac : lit.fraction with
  | some f =>
    -- the digits after the point continue the digits before it
    have hexpHead : ∀ c ∈ (match lit.exponent with
        | some e => e.chars
        | none => []).head?, c.isDigit = false := by
      intro c hc
      cases hexp : lit.exponent with
      | none =>
        rw [hexp] at hc
        cases hc
      | some e =>
        rw [hexp] at hc
        simp only [ExponentPart.chars, List.head?_cons, Option.mem_def, Option.some.injEq] at hc
        rw [← hc]
        cases e.upper <;> rfl
    simp only [List.cons_append]
    rw [readDigits_run f _ hexpHead]
    simp only [Nat.add_eq_zero_iff, hlen, false_and, if_false, Nat.ofDigitChars_append]
    cases hexp : lit.exponent with
    | none => simp
    | some e =>
      simp only [ExponentPart.chars]
      rw [if_pos (by cases e.upper <;> simp), readExponent_chars]
      rfl
  | none =>
    simp only [List.nil_append, List.append_nil]
    cases hexp : lit.exponent with
    | none => simp [hlen]
    | some e =>
      -- the exponent mark follows the digits before the point at once
      cases hu : e.upper with
      | false =>
        simp only [ExponentPart.chars, hu, Bool.false_eq_true, if_false]
        simp [hlen, readExponent_chars]
      | true =>
        simp only [ExponentPart.chars, hu, if_true]
        simp [hlen, readExponent_chars]

/-- A sign followed by a text that starts with a digit reads as a decimal: never as an infinity
or `nan`, whose words start with a letter. -/
theorem readFloat_sign_digits (s : SignMark) {d : Char} {rest : List Char} (hd : d.isDigit = true) :
    readFloat (String.ofList (s.chars ++ d :: rest)) =
      (readUnsignedDecimal (decide (s = .minus)) (d :: rest)).map .decimal := by
  have hi : d ≠ 'i' := by
    rintro rfl
    exact absurd hd (by decide)
  have hn : d ≠ 'n' := by
    rintro rfl
    exact absurd hd (by decide)
  unfold readFloat
  rw [String.toList_ofList]
  cases s <;>
    simp [SignMark.chars, ne_plus_of_isDigit hd, ne_minus_of_isDigit hd, toLower_of_isDigit hd, hi, hn]

/-- **A literal reads as its exact value.** -/
theorem readFloat_text (lit : DecimalLiteral) : readFloat lit.text = some (.decimal lit.decimal) := by
  obtain ⟨d, ds, hds, hd⟩ := lit.whole.exists_cons
  have hsplit : lit.whole.chars ++ lit.tailChars = d :: (ds ++ lit.tailChars) := by
    rw [hds, List.cons_append]
  unfold DecimalLiteral.text
  rw [hsplit, readFloat_sign_digits lit.sign hd, ← hsplit, readUnsignedDecimal_chars]
  rfl

/-- A sign followed by digits reads as an integer, unless the sign is a minus and the reader
takes no minus. -/
theorem readInteger_sign_run (s : SignMark) (r : DigitRun) (signed : Bool) :
    readInteger signed (String.ofList (s.chars ++ r.chars)) =
      if s = .minus ∧ signed = false then none else some (s.apply r.value) := by
  obtain ⟨d, ds, hds, hd⟩ := r.exists_cons
  unfold readInteger SignMark.apply
  rw [String.toList_ofList]
  cases s with
  | none =>
    rw [SignMark.chars, List.nil_append, hds]
    simp [ne_plus_of_isDigit hd, ne_minus_of_isDigit hd]
    rw [← hds, readNatDigits_run]
    rfl
  | plus => simp [SignMark.chars, readNatDigits_run]
  | minus => cases signed <;> simp [SignMark.chars, readNatDigits_run]

/-- A literal written with a fraction or an exponent is no integer literal: its point or exponent
mark comes after a digit. -/
theorem readInteger_text_of_not_isInteger {lit : DecimalLiteral} (h : lit.isInteger = false)
    (signed : Bool) : readInteger signed lit.text = none := by
  obtain ⟨d, ds, hds, -⟩ := lit.whole.exists_cons
  have htail : lit.tailChars ≠ [] := by
    unfold DecimalLiteral.isInteger at h
    unfold DecimalLiteral.tailChars
    cases hf : lit.fraction with
    | some f => simp
    | none =>
      cases hexp : lit.exponent with
      | some e => simp [ExponentPart.chars]
      | none => simp [hf, hexp] at h
  obtain ⟨c, cs, hcs⟩ := List.exists_cons_of_ne_nil htail
  have hmark := lit.tailChars_head c (by rw [hcs]; rfl)
  apply readInteger_eq_none_of_mem (c := c) _ (not_isDigit_of_mark hmark)
  -- the mark follows the first digit, so it is past the first character
  have hmem : c ∈ (ds ++ lit.tailChars) := List.mem_append_right ds (hcs ▸ List.mem_cons_self)
  unfold DecimalLiteral.text
  rw [String.toList_ofList, hds]
  cases lit.sign with
  | none => exact hmem
  | plus => exact List.mem_cons_of_mem d hmem
  | minus => exact List.mem_cons_of_mem d hmem

theorem DecimalLiteral.text_of_isInteger {lit : DecimalLiteral} (h : lit.isInteger = true) :
    lit.text = String.ofList (lit.sign.chars ++ lit.whole.chars) := by
  unfold DecimalLiteral.isInteger at h
  unfold DecimalLiteral.text DecimalLiteral.tailChars
  cases hf : lit.fraction with
  | some f => simp [hf] at h
  | none =>
    cases hexp : lit.exponent with
    | some e => simp [hf, hexp] at h
    | none => simp

/-- A reader of integers within a window that takes a minus reads a literal exactly when it is
written as an integer within the window. -/
theorem readIntegerIn_text_signed (lit : DecimalLiteral) {lo hi : Int} (hlo : lo < 0) :
    readIntegerIn lo hi lit.text =
      if lit.isInteger ∧ lo ≤ lit.intValue ∧ lit.intValue ≤ hi then some lit.intValue else none := by
  unfold readIntegerIn
  cases hint : lit.isInteger with
  | false => simp [readInteger_text_of_not_isInteger hint]
  | true =>
    rw [DecimalLiteral.text_of_isInteger hint, readInteger_sign_run, if_neg (by simp [hlo])]
    simp [DecimalLiteral.intValue]

/-- An unsigned reader of integers up to `hi` reads a literal exactly when it is written as an
integer without a minus, up to `hi`. -/
theorem readIntegerIn_text_unsigned (lit : DecimalLiteral) (hi : Int) :
    readIntegerIn 0 hi lit.text =
      if lit.isInteger ∧ lit.sign ≠ .minus ∧ lit.intValue ≤ hi then some lit.intValue else none := by
  unfold readIntegerIn
  cases hint : lit.isInteger with
  | false => simp [readInteger_text_of_not_isInteger hint]
  | true =>
    rw [DecimalLiteral.text_of_isInteger hint, readInteger_sign_run]
    by_cases hs : lit.sign = .minus
    · simp [hs]
    · have hnonneg := DecimalLiteral.intValue_nonneg hs
      unfold DecimalLiteral.intValue at hnonneg ⊢
      simp [hs, hnonneg]

/-- A JSON number written as a literal is, as a double, the double nearest to its value when
that is finite. -/
theorem asDouble?_text (lit : DecimalLiteral) :
    (⟨lit.text⟩ : Number).asDouble? = if lit.nearest.isFinite then some lit.nearest else none := by
  unfold Number.asDouble?
  rw [readFloat_text]
  rfl

/-! ## The integer read -/

/-- What an integer reader does with the integer `v` a raw value stands for (none when it stands
for none): it gives the integer when it lies within the kind `k`, and otherwise refuses the value
as invalid for the data type `t`. -/
def ReadsInteger (t : DataType) (k : IntKind) (v : Option Int) (result : Except CoercionError Int) : Prop :=
  (∀ n, result = .ok n ↔ v = some n ∧ k.lo ≤ n ∧ n ≤ k.hi) ∧
    ∀ e, result = .error e → ∃ text reason, e = .invalidValue t.name text reason

/-- What an integer reader has read before it checks the kind: the integer `v` stands for, held
within 128 bits, or a refusal of a value that stands for none. -/
def WideRead (t : DataType) (v : Option Int) (wide : Except CoercionError Int) : Prop :=
  (∃ n, v = some n ∧ wide = .ok (clampInt (-Int.pow 2 127) (Int.pow 2 127 - 1) n)) ∨
    (v = none ∧ ∃ text reason, wide = .error (.invalidValue t.name text reason))

theorem clampInt_of_within {n : Int} (h : -Int.pow 2 127 ≤ n ∧ n ≤ Int.pow 2 127 - 1) :
    clampInt (-Int.pow 2 127) (Int.pow 2 127 - 1) n = n := by
  unfold clampInt
  rw [if_neg (by omega), if_neg (by omega)]

/-- The window of 64 bits, signed or unsigned, lies within 128 bits. -/
theorem within_of_window64 {n : Int} (h : -Int.pow 2 63 ≤ n ∧ n ≤ Int.pow 2 64 - 1) :
    -Int.pow 2 127 ≤ n ∧ n ≤ Int.pow 2 127 - 1 := by
  have h63 : Int.pow 2 63 = 9223372036854775808 := by decide
  have h64 : Int.pow 2 64 = 18446744073709551616 := by decide
  have h127 : Int.pow 2 127 = 170141183460469231731687303715884105728 := by decide
  rw [h63, h64] at h
  rw [h127]
  omega

/-- The bound of 128 bits cuts no integer of a kind: an integer held within it lies in the kind
exactly when the integer does. -/
theorem clampInt_mem_kind (k : IntKind) (n : Int) :
    (k.lo ≤ clampInt (-Int.pow 2 127) (Int.pow 2 127 - 1) n ∧
        clampInt (-Int.pow 2 127) (Int.pow 2 127 - 1) n ≤ k.hi) ↔ (k.lo ≤ n ∧ n ≤ k.hi) := by
  have hk := k.bounds_within
  have h63 : Int.pow 2 63 = 9223372036854775808 := by decide
  have h64 : Int.pow 2 64 = 18446744073709551616 := by decide
  have h127 : Int.pow 2 127 = 170141183460469231731687303715884105728 := by decide
  unfold clampInt
  rw [h127]
  rw [h63, h64] at hk
  split_ifs <;> omega

/-- An integer reader ends by checking the kind of the integer it has read. -/
theorem readsInteger_check {t : DataType} {k : IntKind} {v : Option Int} {wide : Except CoercionError Int}
    (hwide : WideRead t v wide) :
    ReadsInteger t k v (wide >>= fun w =>
      if k.lo ≤ w ∧ w ≤ k.hi then pure w else invalid t (toString w) .outOfRange) := by
  rcases hwide with ⟨n, rfl, rfl⟩ | ⟨rfl, text, reason, rfl⟩
  · rw [ok_bind]
    by_cases hn : k.lo ≤ n ∧ n ≤ k.hi
    · have hwithin := within_of_window64
        ⟨Int.le_trans k.bounds_within.1 hn.1, Int.le_trans hn.2 k.bounds_within.2⟩
      rw [if_pos ((clampInt_mem_kind k n).mpr hn), clampInt_of_within hwithin]
      refine ⟨fun m => ?_, fun e he => ?_⟩
      · simp only [pure, Except.pure, Except.ok.injEq, Option.some.injEq]
        constructor
        · rintro rfl
          exact ⟨rfl, hn⟩
        · rintro ⟨rfl, -⟩
          rfl
      · cases he
    · rw [if_neg (mt (clampInt_mem_kind k n).mp hn)]
      refine ⟨fun m => ?_, fun e he => ?_⟩
      · simp only [invalid, Option.some.injEq]
        constructor
        · intro he
          cases he
        · rintro ⟨rfl, hm⟩
          exact absurd hm hn
      · cases he
        exact ⟨_, _, rfl⟩
  · rw [error_bind]
    refine ⟨fun m => ?_, fun e he => ?_⟩
    · simp
    · cases he
      exact ⟨text, reason, rfl⟩

/-- A double, if any, is read as its whole part held within 128 bits, or refused. -/
theorem wideRead_wholeInteger (t : DataType) (x : Option Binary) (raw : Value) :
    WideRead t (x.bind wholePart) (wholeInteger t x raw) := by
  unfold wholeInteger
  cases x with
  | none => exact .inr ⟨rfl, _, _, rfl⟩
  | some b =>
    dsimp only [Option.bind_some]
    by_cases hb : Format.double.isWhole b = true
    · exact .inl ⟨Format.double.truncate b, by unfold wholePart; rw [if_pos hb], by rw [if_pos hb]⟩
    · exact .inr ⟨by unfold wholePart; rw [if_neg hb], _, _, by rw [if_neg hb]; rfl⟩

theorem wideRead_exact (t : DataType) {n : Int} (h : -Int.pow 2 127 ≤ n ∧ n ≤ Int.pow 2 127 - 1) :
    WideRead t (some n) (pure n) :=
  .inl ⟨n, rfl, by rw [clampInt_of_within h]; rfl⟩

theorem isWhole_of_not_isFinite {x : Binary} (h : x.isFinite = false) : Format.double.isWhole x = false := by
  cases x with
  | finite neg u => cases h
  | infinite neg => rfl
  | nan => rfl

/-- Only a finite double has a whole part. -/
theorem bind_wholePart_finite (x : Binary) :
    (if x.isFinite then some x else none).bind wholePart = wholePart x := by
  cases hx : x.isFinite with
  | true => rfl
  | false =>
    rw [if_neg (by simp), Option.bind_none]
    unfold wholePart
    rw [isWhole_of_not_isFinite hx, if_neg (by simp)]

/-- **A JSON number is read for an integer as its literal says.** An integer literal within 64
bits is read exactly, any other literal as the double nearest to its value. -/
theorem readKindInteger_num (t : DataType) (k : IntKind) (lit : DecimalLiteral) :
    ReadsInteger t k (lit.integerRead (-Int.pow 2 63) (Int.pow 2 64 - 1))
      (readKindInteger t k (.num ⟨lit.text⟩)) := by
  unfold readKindInteger
  dsimp only
  unfold DecimalLiteral.integerRead
  by_cases hexact : lit.isInteger ∧ -Int.pow 2 63 ≤ lit.intValue ∧ lit.intValue ≤ Int.pow 2 64 - 1
  · rw [if_pos hexact]
    have hwithin := within_of_window64 hexact.2
    by_cases hsigned : lit.intValue ≤ Int.pow 2 63 - 1
    · -- read as a signed integer
      rw [Number.asInt64?, readIntegerIn_text_signed lit (by decide), if_pos ⟨hexact.1, hexact.2.1, hsigned⟩]
      exact readsInteger_check (wideRead_exact t hwithin)
    · -- too large for a signed integer, so without a minus: read as an unsigned one
      have hsign : lit.sign ≠ .minus := fun hs =>
        hsigned (Int.le_trans (DecimalLiteral.intValue_nonpos hs) (by decide))
      rw [Number.asInt64?, readIntegerIn_text_signed lit (by decide), if_neg (fun h => hsigned h.2.2),
        Number.asUInt64?, readIntegerIn_text_unsigned, if_pos ⟨hexact.1, hsign, hexact.2.2⟩]
      exact readsInteger_check (wideRead_exact t hwithin)
  · have hunsigned : ¬(lit.isInteger ∧ lit.sign ≠ .minus ∧ lit.intValue ≤ Int.pow 2 64 - 1) := fun h =>
      hexact ⟨h.1, Int.le_trans (by decide) (DecimalLiteral.intValue_nonneg h.2.1), h.2.2⟩
    rw [if_neg hexact, Number.asInt64?, readIntegerIn_text_signed lit (by decide),
      if_neg (fun h => hexact ⟨h.1, h.2.1, Int.le_trans h.2.2 (by decide)⟩), Number.asUInt64?,
      readIntegerIn_text_unsigned, if_neg hunsigned, asDouble?_text]
    have hread := wideRead_wholeInteger t (if lit.nearest.isFinite then some lit.nearest else none)
      (.num ⟨lit.text⟩)
    rw [bind_wholePart_finite] at hread
    exact readsInteger_check hread

/-- **A text is read for an integer as its trimmed literal says.** An integer literal within 128
bits is read exactly, any other literal as the double nearest to its value. -/
theorem readKindInteger_str (t : DataType) (k : IntKind) (lit : DecimalLiteral) {s : String}
    (hs : trim s = lit.text) :
    ReadsInteger t k (lit.integerRead (-Int.pow 2 127) (Int.pow 2 127 - 1))
      (readKindInteger t k (.str s)) := by
  unfold readKindInteger
  dsimp only
  rw [hs, readIntegerIn_text_signed lit (by decide)]
  unfold DecimalLiteral.integerRead
  by_cases hexact : lit.isInteger ∧ -Int.pow 2 127 ≤ lit.intValue ∧ lit.intValue ≤ Int.pow 2 127 - 1
  · rw [if_pos hexact, if_pos hexact]
    exact readsInteger_check (wideRead_exact t hexact.2)
  · rw [if_neg hexact, if_neg hexact, readFloat_text]
    exact readsInteger_check (wideRead_wholeInteger t (some lit.nearest) (.str s))

/-- A JSON number is true exactly when the double nearest to it is finite and not zero. -/
theorem readBoolean_num (t : DataType) (lit : DecimalLiteral) :
    readBoolean t (.num ⟨lit.text⟩) = .ok (lit.nearest.isFinite && !lit.nearest.isZero) := by
  unfold readBoolean
  dsimp only
  rw [asDouble?_text]
  cases lit.nearest.isFinite <;> rfl

/-! ## Coercing a literal -/

/-- **A number is coerced as its literal says.** An integer kind reads a literal exactly when it
is written as an integer within 64 bits (a JSON number) or 128 bits (a text, once trimmed), and
otherwise as the whole part of the double nearest to its value; it takes the integer read when it
lies within the kind, and refuses the value as invalid otherwise. This holds of every integer the
coercions read: a scalar, an element of an array, a byte of a byte string. As a boolean, a JSON
number is true exactly when the double nearest to it is finite and not zero. -/
theorem coerce_decimalLiteral (lit : DecimalLiteral) :
    (∀ t k, ReadsInteger t k (lit.integerRead (-Int.pow 2 63) (Int.pow 2 64 - 1))
      (readKindInteger t k (.num ⟨lit.text⟩))) ∧
    (∀ t k s, trim s = lit.text →
      ReadsInteger t k (lit.integerRead (-Int.pow 2 127) (Int.pow 2 127 - 1))
        (readKindInteger t k (.str s))) ∧
    coerceScalar .boolean (.num ⟨lit.text⟩) =
      .ok (.boolean (lit.nearest.isFinite && !lit.nearest.isZero)) := by
  refine ⟨fun t k => readKindInteger_num t k lit, fun t k s hs => readKindInteger_str t k lit hs, ?_⟩
  simp only [coerceScalar, readBoolean_num, map_ok]

/-- The text ` -42 ` is the literal `-42` once trimmed. -/
theorem coerce_decimalLiteral_padded :
    let lit : DecimalLiteral := ⟨.minus, ⟨['4', '2'], by simp, by simp⟩, none, none⟩
    trim " -42 " = lit.text ∧
      ReadsInteger (.integer .int32) .int32 (lit.integerRead (-Int.pow 2 127) (Int.pow 2 127 - 1))
        (readKindInteger (.integer .int32) .int32 (.str " -42 ")) :=
  ⟨by decide, (coerce_decimalLiteral _).2.1 _ _ _ (by decide)⟩

/-- A fraction too small for a double is lost before the integer is read: `1.00000000000000001`
is taken for the integer `1`. -/
theorem coerceScalar_int32_fraction_rounded :
    coerceScalar (.integer .int32) (.str "1.00000000000000001") = .ok (.integer .int32 1) := by
  let lit : DecimalLiteral :=
    ⟨.none, ⟨['1'], by simp, by simp⟩, some ⟨List.replicate 16 '0' ++ ['1'], by simp, by simp⟩, none⟩
  have htext : trim "1.00000000000000001" = lit.text := by decide
  have hnear : lit.nearest = .finite false (Nat.pow 2 1074) := by decide +kernel
  have hread : lit.integerRead (-Int.pow 2 127) (Int.pow 2 127 - 1) = some 1 := by
    unfold DecimalLiteral.integerRead wholePart
    rw [if_neg (by decide), hnear]
    decide +kernel
  have hok := ((readKindInteger_str (.integer .int32) .int32 lit htext).1 1).mpr ⟨hread, by decide, by decide⟩
  simp only [coerceScalar, hok, map_ok]

end UaFlow.Ua
