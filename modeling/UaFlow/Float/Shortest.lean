import UaFlow.Float.Binary
/-!
The shortest decimal of a binary value.

For a positive finite value `v` of a format, `Format.shortest` finds the decimal with the fewest
significant digits that reads back as `v` (rounding to nearest, ties to even), and among the
decimals of that length the one nearest to `v`; when `v` lies exactly halfway between the two,
the tie rule picks one. Lengths are tried from one digit up: for `n`
digits the candidates are the two neighbours of `v` on the grid of decimals with `n` significant
digits, and the first length with a candidate that reads back wins. A decimal between the two
neighbours is farther from `v` than one of them, so no other decimal of that length can read back
when neither neighbour does.
-/

namespace UaFlow.Float

/-- Significant digits and the exponent of the last one: the value is `digits × 10 ^ exponent`. -/
structure Digits where
  digits : Nat
  exponent : Int
  deriving DecidableEq, Inhabited

/-- Removes trailing zero digits, raising the exponent; `fuel` bounds the number of digits. -/
def Digits.normalize : Nat → Digits → Digits
  | 0, d => d
  | fuel + 1, d =>
    if d.digits ≠ 0 ∧ d.digits % 10 = 0 then
      Digits.normalize fuel ⟨d.digits / 10, d.exponent + 1⟩
    else d

/-- The `e` with `10 ^ e ≤ units / 2 ^ scale < 10 ^ (e + 1)`, for positive `units`. -/
def decimalExponent (f : Format) (units : Nat) : Int :=
  let one := Nat.pow 2 f.scale
  if one ≤ units then (decimalLength (units / one) : Int) - 1
  else
    let j := decimalLength one - decimalLength units
    if one ≤ units * Nat.pow 10 j then -(j : Int) else -((j + 1 : Nat) : Int)

/-- `units / 2 ^ scale / 10 ^ t`, rounded down, and whether it is exact. -/
def gridFloor (f : Format) (units : Nat) (t : Int) : Nat × Bool :=
  if 0 ≤ t then
    let den := Nat.pow 2 f.scale * Nat.pow 10 t.toNat
    (units / den, units % den == 0)
  else
    let num := units * Nat.pow 10 (-t).toNat
    (num / Nat.pow 2 f.scale, num % Nat.pow 2 f.scale == 0)

/-- Whether `(2 * lo + 1) × 10 ^ t`, the midpoint of two grid neighbours, lies above `2 v`,
`v = units / 2 ^ scale`: then the lower neighbour is the nearer one. -/
def lowerIsNearer (f : Format) (units lo : Nat) (t : Int) : Ordering :=
  if 0 ≤ t then compare (2 * units) ((2 * lo + 1) * Nat.pow 10 t.toNat * Nat.pow 2 f.scale)
  else compare (2 * units * Nat.pow 10 (-t).toNat) ((2 * lo + 1) * Nat.pow 2 f.scale)

/-- Whether a positive decimal reads back as the value with these units. -/
def readsBack (f : Format) (units c : Nat) (t : Int) : Bool :=
  f.ofDecimal ⟨false, c, t⟩ == .finite false units

/-- Which of two equally near decimals is written. -/
inductive Tie where
  /-- The one whose last digit is even. -/
  | toEven
  /-- The one of larger magnitude. -/
  | up
  deriving DecidableEq, Inhabited

/-- The nearer of the two neighbours on a grid, a tie settled by the rule. -/
def nearestOnGrid (tie : Tie) (f : Format) (units lo : Nat) (t : Int) : Nat :=
  match lowerIsNearer f units lo t with
  | .lt => lo
  | .gt => lo + 1
  | .eq =>
    match tie with
    | .toEven => if lo % 2 = 0 then lo else lo + 1
    | .up => lo + 1

/-- The candidate of `n` significant digits that reads back, if any. -/
def candidate (tie : Tie) (f : Format) (units : Nat) (n : Nat) : Option Digits :=
  let t := decimalExponent f units - n + 1
  let (lo, exact) := gridFloor f units t
  if exact then some ⟨lo, t⟩
  else
    let loOk := readsBack f units lo t
    let hiOk := readsBack f units (lo + 1) t
    if loOk && hiOk then some ⟨nearestOnGrid tie f units lo t, t⟩
    else if loOk then some ⟨lo, t⟩
    else if hiOk then some ⟨lo + 1, t⟩
    else none

/-- Tries lengths `n, n + 1, …`; after `fuel` lengths the nearest decimal of the last length is
taken. -/
def searchDigits (tie : Tie) (f : Format) (units : Nat) : Nat → Nat → Digits
  | n, 0 =>
    let t := decimalExponent f units - n + 1
    ⟨nearestOnGrid tie f units (gridFloor f units t).1 t, t⟩
  | n, fuel + 1 =>
    match candidate tie f units n with
    | some d => d
    | none => searchDigits tie f units (n + 1) fuel

/-- The shortest decimal that reads back as the positive value with these units, without
trailing zeros. -/
def Format.shortest (f : Format) (tie : Tie) (units : Nat) : Digits :=
  Digits.normalize 800 (searchDigits tie f units 1 (f.precision / 3 + 2))

end UaFlow.Float
