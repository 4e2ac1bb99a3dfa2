import UaFlow.Float.Shortest
/-!
Numbers as text.

Reading: `readFloat` accepts an optional sign followed by `inf`, `infinity` or `nan` in any
case, or by decimal digits with an optional point (a digit on at least one side of it) and an
optional exponent `e` or `E` with an optional sign and at least one digit; nothing else may
follow. `readInteger` accepts an optional sign (a minus only for signed types) and at least one
decimal digit.

Writing a finite value uses its shortest decimal (see `Format.shortest`) in one of two layouts.
The *shortest* layout writes values from `10 ^ (-5)` up to below `10 ^ 16` positionally with at
least one digit after the point, and others as `d.ddde±x`, where a positive exponent has a plus
only in the text of a JSON number (`numberText`); an exact tie between two shortest decimals goes
to the even one. The *plain* layout always writes positionally and omits the point for whole
numbers; such a tie goes to the one of larger magnitude.
-/

namespace UaFlow.Float

/-- A number literal as read: an exact decimal, an infinity, or not a number. -/
inductive Literal where
  | decimal (d : Decimal)
  | infinity (negative : Bool)
  | nan
  deriving DecidableEq, Inhabited

/-- Reads decimal digits, adding them to `acc`; gives the value, the count and the rest. -/
def readDigits : List Char → Nat → Nat → Nat × Nat × List Char
  | c :: rest, acc, n =>
    if c.isDigit then readDigits rest (acc * 10 + (c.toNat - 48)) (n + 1) else (acc, n, c :: rest)
  | [], acc, n => (acc, n, [])

/-- Reads an optionally signed exponent with at least one digit and nothing after it. -/
def readExponent (cs : List Char) : Option Int :=
  let (neg, body) : Bool × List Char :=
    match cs with
    | '+' :: r => (false, r)
    | '-' :: r => (true, r)
    | r => (false, r)
  match readDigits body 0 0 with
  | (v, n, []) => if n = 0 then none else some (if neg then -(v : Int) else (v : Int))
  | _ => none

/-- Reads the unsigned part of a decimal literal. -/
def readUnsignedDecimal (neg : Bool) (cs : List Char) : Option Decimal :=
  let (whole, ni, r1) := readDigits cs 0 0
  let (digits, nf, r2) : Nat × Nat × List Char :=
    match r1 with
    | '.' :: r => readDigits r whole 0
    | r => (whole, 0, r)
  if ni + nf = 0 then none
  else
    match r2 with
    | [] => some ⟨neg, digits, -(nf : Int)⟩
    | c :: r =>
      if c = 'e' ∨ c = 'E' then
        (readExponent r).map fun e => ⟨neg, digits, e - nf⟩
      else none

/-- Reads a floating-point literal. -/
def readFloat (s : String) : Option Literal :=
  let (neg, body) : Bool × List Char :=
    match s.toList with
    | '+' :: r => (false, r)
    | '-' :: r => (true, r)
    | r => (false, r)
  let lower := body.map Char.toLower
  if lower = "inf".toList ∨ lower = "infinity".toList then some (.infinity neg)
  else if lower = "nan".toList then some .nan
  else (readUnsignedDecimal neg body).map .decimal

/-- The value of a literal in a format. -/
def Format.ofLiteral (f : Format) : Literal → Binary
  | .decimal d => f.ofDecimal d
  | .infinity neg => .infinite neg
  | .nan => .nan

/-- Reads a non-empty run of decimal digits and nothing else. -/
def readNatDigits (cs : List Char) : Option Nat :=
  match readDigits cs 0 0 with
  | (v, n, []) => if n = 0 then none else some v
  | _ => none

/-- Reads an integer literal: an optional sign (a minus only when `signed`) and digits. -/
def readInteger (signed : Bool) (s : String) : Option Int :=
  match s.toList with
  | '+' :: r => (readNatDigits r).map fun n => (n : Int)
  | '-' :: r => if signed then (readNatDigits r).map fun n => -(n : Int) else none
  | r => (readNatDigits r).map fun n => (n : Int)

/-- Reads an integer literal whose value lies in `[lo, hi]`. -/
def readIntegerIn (lo hi : Int) (s : String) : Option Int :=
  match readInteger (decide (lo < 0)) s with
  | some i => if lo ≤ i ∧ i ≤ hi then some i else none
  | none => none

/-- `n` zero characters. -/
def zeros (n : Nat) : List Char :=
  List.replicate n '0'

/-- The decimal digits of a number. -/
def digitChars (n : Nat) : List Char :=
  Nat.toDigits 10 n

/-- The exponent after `e`: a minus for a negative one, and a plus for any other when `signed`. -/
def exponentText (signed : Bool) (e : Int) : String :=
  if signed ∧ 0 ≤ e then "+" ++ toString e else toString e

/-- Shortest layout of `digits × 10 ^ exponent`; `signed` writes the plus of a positive exponent. -/
def Digits.shortestLayout (signed : Bool) (d : Digits) : String :=
  let ds := digitChars d.digits
  let len : Int := ds.length
  let kk := len + d.exponent
  if 0 ≤ d.exponent ∧ kk ≤ 16 then
    String.ofList (ds ++ zeros d.exponent.toNat ++ ['.', '0'])
  else if 0 < kk ∧ kk ≤ 16 then
    String.ofList (ds.take kk.toNat ++ '.' :: ds.drop kk.toNat)
  else if -5 < kk ∧ kk ≤ 0 then
    String.ofList (['0', '.'] ++ zeros (-kk).toNat ++ ds)
  else
    let mant := match ds with
      | [c] => [c]
      | c :: rest => c :: '.' :: rest
      | [] => []
    String.ofList mant ++ "e" ++ exponentText signed (kk - 1)

/-- Plain layout of `digits × 10 ^ exponent`. -/
def Digits.plainLayout (d : Digits) : String :=
  let ds := digitChars d.digits
  let len : Int := ds.length
  let kk := len + d.exponent
  if 0 ≤ d.exponent then String.ofList (ds ++ zeros d.exponent.toNat)
  else if 0 < kk then String.ofList (ds.take kk.toNat ++ '.' :: ds.drop kk.toNat)
  else String.ofList (['0', '.'] ++ zeros (-kk).toNat ++ ds)

/-- A finite value in the shortest layout (`0.0` for zero), an exponent without a plus. -/
def Format.shortestText (f : Format) : Binary → String
  | .finite neg u =>
    (if neg then "-" else "") ++
      (if u = 0 then "0.0" else (f.shortest .toEven u).shortestLayout false)
  | .infinite neg => if neg then "-inf" else "inf"
  | .nan => "NaN"

/-- A finite value as the text of a JSON number: the shortest layout with the plus of a positive
exponent written, as the text of a number is kept once it has been read. -/
def Format.numberText (f : Format) : Binary → String
  | .finite neg u =>
    (if neg then "-" else "") ++
      (if u = 0 then "0.0" else (f.shortest .toEven u).shortestLayout true)
  | .infinite neg => if neg then "-inf" else "inf"
  | .nan => "NaN"

/-- A finite value in the plain layout (`0` for zero). -/
def Format.plainText (f : Format) : Binary → String
  | .finite neg u =>
    (if neg then "-" else "") ++ (if u = 0 then "0" else (f.shortest .up u).plainLayout)
  | .infinite neg => if neg then "-inf" else "inf"
  | .nan => "NaN"

/-- The double nearest to the shortest decimal of a single-precision value: the value a
single-precision number has once written in plain layout and read back as a double. -/
def widenThroughText (b : Binary) : Binary :=
  match b with
  | .finite neg u =>
    if u = 0 then .finite neg 0
    else
      let d := Format.single.shortest .up u
      Format.double.ofDecimal ⟨neg, d.digits, d.exponent⟩
  | b => b

end UaFlow.Float
