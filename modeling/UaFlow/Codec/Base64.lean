/-!
Base64 with the standard alphabet and strict padding.

Encoding writes three bytes as four symbols and pads the last group with `=` to four symbols.
Decoding accepts exactly what encoding writes. The input is read as bytes; it is checked in this
order, and the first fault wins:

1. when the length leaves one byte over a multiple of four and that last byte is neither a symbol
   nor `=`, that byte is a bad symbol;
2. every byte before the last group (the last one to four bytes) must be a symbol;
3. in the last group, `=` may not stand first or second, and no symbol may follow `=`;
4. the last group needs at least two symbols (else the length is wrong);
5. symbols and padding together must fill the group (else the padding is wrong);
6. the bits of the last symbol that no output byte takes must be zero.
-/

namespace UaFlow.Codec

/-- Why a text is not strict standard base64. Offsets count bytes from zero. -/
inductive Base64Error where
  | invalidSymbol (byte : Nat) (offset : Nat)
  | invalidLength (length : Nat)
  | invalidLastSymbol (byte : Nat) (offset : Nat)
  | invalidPadding
  deriving DecidableEq, Inhabited

/-- The message of a base64 error. -/
def Base64Error.message : Base64Error → String
  | .invalidSymbol b o => "Invalid symbol " ++ toString b ++ ", offset " ++ toString o ++ "."
  | .invalidLength n => "Invalid input length: " ++ toString n
  | .invalidLastSymbol b o =>
    "Invalid last symbol " ++ toString b ++ ", offset " ++ toString o ++ "."
  | .invalidPadding => "Invalid padding"

/-- The padding byte `=`. -/
def padByte : Nat := 61

/-- The symbol of a six-bit value. -/
def symbolOf (v : Nat) : Char :=
  if v < 26 then Char.ofNat (65 + v)
  else if v < 52 then Char.ofNat (71 + v)
  else if v < 62 then Char.ofNat (v - 4)
  else if v = 62 then '+' else '/'

/-- The six-bit value of a symbol byte. -/
def symbolValue? (b : Nat) : Option Nat :=
  if 65 ≤ b ∧ b ≤ 90 then some (b - 65)
  else if 97 ≤ b ∧ b ≤ 122 then some (b - 71)
  else if 48 ≤ b ∧ b ≤ 57 then some (b + 4)
  else if b = 43 then some 62
  else if b = 47 then some 63
  else none

/-- Encodes bytes, three at a time. -/
def encodeBytes : List Nat → List Char
  | a :: b :: c :: rest =>
    let n := (a * 256 + b) * 256 + c
    symbolOf (n / 262144) :: symbolOf (n / 4096 % 64) :: symbolOf (n / 64 % 64) ::
      symbolOf (n % 64) :: encodeBytes rest
  | [a, b] =>
    let n := (a * 256 + b) * 4
    [symbolOf (n / 4096), symbolOf (n / 64 % 64), symbolOf (n % 64), '=']
  | [a] =>
    let n := a * 16
    [symbolOf (n / 64), symbolOf (n % 64), '=', '=']
  | [] => []

/-- The base64 text of bytes. -/
def encode (bytes : List Nat) : String :=
  String.ofList (encodeBytes bytes)

/-- Decodes the groups of four symbols before the last group; `offset` is the position of the
first byte. -/
def decodeBody : List Nat → Nat → Except Base64Error (List Nat)
  | a :: b :: c :: d :: rest, offset =>
    match symbolValue? a, symbolValue? b, symbolValue? c, symbolValue? d with
    | some w, some x, some y, some z => do
      let n := ((w * 64 + x) * 64 + y) * 64 + z
      let tail ← decodeBody rest (offset + 4)
      .ok (n / 65536 :: n / 256 % 256 :: n % 256 :: tail)
    | none, _, _, _ => .error (.invalidSymbol a offset)
    | _, none, _, _ => .error (.invalidSymbol b (offset + 1))
    | _, _, none, _ => .error (.invalidSymbol c (offset + 2))
    | _, _, _, none => .error (.invalidSymbol d (offset + 3))
  | _, _ => .ok []

/-- What the last group holds: its symbol values in order, the number of padding bytes, the
position of the first padding byte, and the byte of the last symbol. -/
structure LastGroup where
  values : List Nat
  pads : Nat
  firstPad : Nat
  lastSymbol : Nat

/-- Reads the last group; `start` is its position and `j` the position within it. -/
def scanLast (start : Nat) : List Nat → Nat → LastGroup → Except Base64Error LastGroup
  | [], _, g => .ok g
  | b :: rest, j, g =>
    if b = padByte then
      if j < 2 then .error (.invalidSymbol b (start + j))
      else
        let g' := if g.pads = 0 then { g with pads := 1, firstPad := j } else { g with pads := g.pads + 1 }
        scanLast start rest (j + 1) g'
    else if 0 < g.pads then .error (.invalidSymbol padByte (start + g.firstPad))
    else
      match symbolValue? b with
      | none => .error (.invalidSymbol b (start + j))
      | some v => scanLast start rest (j + 1) { g with values := g.values ++ [v], lastSymbol := b }

/-- The bytes of the last group's symbol values, or the fault in its unused bits. -/
def lastBytes (start : Nat) (g : LastGroup) : Except Base64Error (List Nat) :=
  let m := g.values.length
  let n := g.values.foldl (fun acc v => acc * 64 + v) 0
  let count := m * 6 / 8
  let spare := m * 6 - count * 8
  if n % Nat.pow 2 spare ≠ 0 then .error (.invalidLastSymbol g.lastSymbol (start + m - 1))
  else
    let v := n / Nat.pow 2 spare
    .ok ((List.range count).map fun i => v / Nat.pow 256 (count - 1 - i) % 256)

/-- Decodes strict standard base64, given as bytes. -/
def decodeBytes (input : List Nat) : Except Base64Error (List Nat) := do
  let len := input.length
  let rem := len % 4
  if rem = 1 then
    match input.getLast? with
    | some last =>
      if last ≠ padByte ∧ symbolValue? last = none then
        throw (.invalidSymbol last (len - 1))
      else pure ()
    | none => pure ()
  let bodyLen := if rem = 0 then len - 4 else len - rem
  let body ← decodeBody (input.take bodyLen) 0
  let g ← scanLast bodyLen (input.drop bodyLen) 0 ⟨[], 0, 0, 0⟩
  if len ≠ 0 ∧ g.values.length < 2 then throw (.invalidLength (bodyLen + g.values.length))
  if (g.pads + g.values.length) % 4 ≠ 0 then throw .invalidPadding
  let tail ← lastBytes bodyLen g
  pure (body ++ tail)

/-- Decodes the UTF-8 bytes of a text as strict standard base64. -/
def decode (s : String) : Except Base64Error (List Nat) :=
  decodeBytes (s.toUTF8.toList.map (·.toNat))

end UaFlow.Codec
