/-!
Binary floating-point values, computed exactly.

A binary format has a number of significant bits and a least positive value `2 ^ (-scale)`;
every finite value of the format is a whole number of these units, with at most `precision`
significant bits, and lies below `2 ^ limit`. Keeping a finite value as its count of units
(and a sign) makes every value of a format a natural number, so rounding is integer
arithmetic: `Format.roundRatio` picks the units nearest to a ratio of natural numbers, a tie going
to the neighbour whose last significant bit is zero, and reports an overflow when the nearest
value is past the largest finite one.

Main statements: `roundHalfEven_spec` (the rounded integer is within half of the ratio) and
`ofDecimal_zero` (a zero decimal reads as a zero of the same sign).
-/

namespace UaFlow.Float

/-- A binary floating-point format: `precision` significant bits, least positive value
`2 ^ (-scale)`, every finite value below `2 ^ limit`. -/
structure Format where
  precision : Nat
  scale : Nat
  limit : Nat

/-- Double precision: 53 bits, least value `2 ^ (-1074)`, below `2 ^ 1024`. -/
def Format.double : Format := ⟨53, 1074, 1024⟩

/-- Single precision: 24 bits, least value `2 ^ (-149)`, below `2 ^ 128`. -/
def Format.single : Format := ⟨24, 149, 128⟩

/-- The largest finite value, in units. -/
def Format.maxUnits (f : Format) : Nat :=
  (Nat.pow 2 f.precision - 1) * Nat.pow 2 (f.limit + f.scale - f.precision)

/-- A value of a binary format: a signed whole number of units, a signed infinity, or not a
number. -/
inductive Binary where
  | finite (negative : Bool) (units : Nat)
  | infinite (negative : Bool)
  | nan
  deriving DecidableEq, Inhabited

/-- An exact decimal `digits × 10 ^ exponent`, with a sign. -/
structure Decimal where
  negative : Bool
  digits : Nat
  exponent : Int
  deriving DecidableEq, Inhabited

/-- `q + r / d` rounded to a whole number, a half going to the even neighbour (for `r < d`). -/
def roundHalfEven (q r d : Nat) : Nat :=
  if 2 * r < d then q
  else if d < 2 * r then q + 1
  else if q % 2 = 0 then q else q + 1

/-- The number of binary digits of a positive number. -/
def bitLength (n : Nat) : Nat :=
  Nat.log2 n + 1

/-- The units of the value of the format nearest to `num / den`, a tie going to the value whose
last significant bit is zero; `none` when that value is past the largest finite value. -/
def Format.roundRatio (f : Format) (num den : Nat) : Option Nat :=
  let n := num * Nat.pow 2 f.scale
  let q := n / den
  let r := n % den
  let units :=
    if q < Nat.pow 2 f.precision then roundHalfEven q r den
    else
      let k := bitLength q - f.precision
      roundHalfEven (q / Nat.pow 2 k) (q % Nat.pow 2 k * den + r) (den * Nat.pow 2 k) * Nat.pow 2 k
  if units ≤ f.maxUnits then some units else none

/-- The number of decimal digits of a number (one for zero). -/
def decimalLength (n : Nat) : Nat :=
  (Nat.toDigits 10 n).length

/-- The value of the format nearest to a decimal. Exponents far outside the format's range are
settled without computing the decimal: its value is then certainly past the largest finite value,
or certainly below half the least positive one. -/
def Format.ofDecimal (f : Format) (d : Decimal) : Binary :=
  if d.digits = 0 then .finite d.negative 0
  else if 400 < d.exponent + decimalLength d.digits then .infinite d.negative
  else if d.exponent + decimalLength d.digits < -400 then .finite d.negative 0
  else
    let ratio : Nat × Nat :=
      if 0 ≤ d.exponent then (d.digits * Nat.pow 10 d.exponent.toNat, 1)
      else (d.digits, Nat.pow 10 (-d.exponent).toNat)
    match f.roundRatio ratio.1 ratio.2 with
    | some u => .finite d.negative u
    | none => .infinite d.negative

/-- A finite value read into another format (single precision from double precision). -/
def Format.narrow (source target : Format) : Binary → Binary
  | .finite neg u =>
    match target.roundRatio u (Nat.pow 2 source.scale) with
    | some v => .finite neg v
    | none => .infinite neg
  | b => b

/-- Whether a value is finite. -/
def Binary.isFinite : Binary → Bool
  | .finite _ _ => true
  | _ => false

/-- Whether a value is zero of either sign. -/
def Binary.isZero : Binary → Bool
  | .finite _ 0 => true
  | _ => false

/-- Whether a value is a whole number. -/
def Format.isWhole (f : Format) : Binary → Bool
  | .finite _ u => u % Nat.pow 2 f.scale == 0
  | _ => false

/-- The whole part of a finite value, toward zero. -/
def Format.truncate (f : Format) : Binary → Int
  | .finite neg u => if neg then -((u / Nat.pow 2 f.scale : Nat) : Int) else ((u / Nat.pow 2 f.scale : Nat) : Int)
  | _ => 0

/-- An integer held inside `[lo, hi]`. -/
def clampInt (lo hi i : Int) : Int :=
  if i < lo then lo else if hi < i then hi else i

theorem roundHalfEven_spec (q r d : Nat) :
    (roundHalfEven q r d = q ∧ 2 * r ≤ d) ∨ (roundHalfEven q r d = q + 1 ∧ d ≤ 2 * r) := by
  unfold roundHalfEven
  by_cases h1 : 2 * r < d
  · simp [h1]; omega
  · by_cases h2 : d < 2 * r
    · simp [h1, h2]; omega
    · have he : 2 * r = d := by omega
      by_cases h3 : q % 2 = 0 <;> simp [h1, h2, h3] <;> omega

theorem ofDecimal_zero (f : Format) (neg : Bool) (e : Int) :
    f.ofDecimal ⟨neg, 0, e⟩ = .finite neg 0 := by
  simp [Format.ofDecimal]

end UaFlow.Float
