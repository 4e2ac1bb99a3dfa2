import UaFlow.Json.Shape
/-!
Reading JSON text.

The reader walks the text once, left to right, and stops at the first fault, which it places by
byte index. A fault found by looking at the next character, without taking it, is placed one
byte past where reading stands; a fault found in a character already taken is placed where
reading stands after it. Blanks between tokens are space, tab, line feed and carriage return.
Arrays and objects nest at most 127 deep. A number keeps its text, with the exponent mark written
`e` and an unsigned exponent given a `+`; a later member of an object replaces an earlier one with
the same key.

An object whose first key is `numberMarker` stands for a number: its value must be a string that
holds exactly one number, and the object must end there. A fault in that number is placed in the
string's own text. The members that an open record keeps are first buffered as read and turned
into values only once the record's closing brace is reached and no required field is missing
(`Value.rereadBy`); a fault met then is placed after that brace. In a buffered value a number
that is no 64-bit integer is held as an object with `numberMarker`, so it is named a map, and
members after the number's own make the object too long.

`readText` reads a whole text into a shape (`Shape`), checking the data against the shape while
reading: a value of the wrong kind is described (an integer by its value) and the fault placed after
that value, or at an opening bracket. A record reports a repeated known field after its key and
any blanks, and after the closing brace when that follows at once; a missing required field is
reported after the closing brace. The value of a member that a closed record does not keep is
skipped rather than read: its strings are not decoded (so a lone surrogate passes, and a control
character is reported where it stands), its numbers not converted, and a number that stops at
the end of the text is invalid rather than cut short.
-/

namespace UaFlow.Json

open UaFlow.Float

/-- Where reading stands: the characters still to read and the number of bytes read. -/
structure Cursor where
  rest : List Char
  index : Nat

/-- A fault and the byte index where it is reported. -/
structure Located where
  fault : Fault
  index : Nat

/-- A syntax fault at a byte index. -/
def failAt {α : Type} (s : Malformed) (i : Nat) : Except Located α :=
  .error ⟨.malformed s, i⟩

/-- A mismatch at a byte index. -/
def mismatchAt {α : Type} (m : Mismatch) (i : Nat) : Except Located α :=
  .error ⟨.data m, i⟩

/-- Where a fault found by looking at the next character is reported. -/
def Cursor.ahead (len : Nat) (c : Cursor) : Nat :=
  min (c.index + 1) len

/-- The blanks allowed between tokens. -/
def isTokenBlank (ch : Char) : Bool :=
  ch == ' ' || ch == '\n' || ch == '\t' || ch == '\r'

/-- Skips blanks from the given characters on. -/
def skipBlankFrom : List Char → Nat → Cursor
  | ch :: r, i => if isTokenBlank ch then skipBlankFrom r (i + 1) else ⟨ch :: r, i⟩
  | [], i => ⟨[], i⟩

/-- The cursor past any blanks. -/
def Cursor.skipBlank (c : Cursor) : Cursor :=
  skipBlankFrom c.rest c.index

/-- Reads the expected characters of a literal name. -/
def readIdent : List Char → Cursor → Except Located Cursor
  | [], c => .ok c
  | e :: es, c =>
    match c.rest with
    | [] => failAt .eofValue c.index
    | ch :: r => if ch = e then readIdent es ⟨r, c.index + 1⟩ else failAt .expectedIdent (c.index + 1)

/-- The value of a hex digit. -/
def hexValue? (ch : Char) : Option Nat :=
  if '0' ≤ ch ∧ ch ≤ '9' then some (ch.toNat - 48)
  else if 'a' ≤ ch ∧ ch ≤ 'f' then some (ch.toNat - 87)
  else if 'A' ≤ ch ∧ ch ≤ 'F' then some (ch.toNat - 55)
  else none

/-- Reads the four hex digits of a `\u` escape. -/
def readHex4 (len : Nat) (c : Cursor) : Except Located (Nat × Cursor) :=
  if len < c.index + 4 then failAt .eofString len
  else
    match c.rest with
    | a :: b :: d :: e :: r =>
      match hexValue? a, hexValue? b, hexValue? d, hexValue? e with
      | some w, some x, some y, some z => .ok (((w * 16 + x) * 16 + y) * 16 + z, ⟨r, c.index + 4⟩)
      | _, _, _, _ => failAt .invalidEscape (c.index + 4)
    | _ => failAt .invalidEscape (c.index + 4)

/-- Reads a `\u` escape after the `u`: a character below the surrogates or above them, or a
leading surrogate escaped together with a trailing one. -/
def readUnicodeEscape (len : Nat) (c : Cursor) : Except Located (Char × Cursor) := do
  let (n, c1) ← readHex4 len c
  if 0xDC00 ≤ n ∧ n ≤ 0xDFFF then failAt .loneSurrogate c1.index
  else if n < 0xD800 ∨ 0xDBFF < n then .ok (Char.ofNat n, c1)
  else
    match c1.rest with
    | [] => failAt .eofString c1.index
    | '\\' :: r2 =>
      match r2 with
      | [] => failAt .eofString (c1.index + 1)
      | 'u' :: r3 => do
        let (n2, c3) ← readHex4 len ⟨r3, c1.index + 2⟩
        if 0xDC00 ≤ n2 ∧ n2 ≤ 0xDFFF then
          .ok (Char.ofNat ((n - 0xD800) * 0x400 + (n2 - 0xDC00) + 0x10000), c3)
        else failAt .loneSurrogate c3.index
      | _ :: _ => failAt .unexpectedEndOfHexEscape (c1.index + 2)
    | _ :: _ => failAt .unexpectedEndOfHexEscape (c1.index + 1)

/-- The character of a one-letter escape. -/
def shortEscape? : Char → Option Char
  | '"' => some '"'
  | '\\' => some '\\'
  | '/' => some '/'
  | 'b' => some '\x08'
  | 'f' => some '\x0c'
  | 'n' => some '\n'
  | 'r' => some '\r'
  | 't' => some '\t'
  | _ => none

/-- Reads an escape after its backslash. -/
def readEscape (len : Nat) (c : Cursor) : Except Located (Char × Cursor) :=
  match c.rest with
  | [] => failAt .eofString c.index
  | 'u' :: r => readUnicodeEscape len ⟨r, c.index + 1⟩
  | ch :: r =>
    match shortEscape? ch with
    | some e => .ok (e, ⟨r, c.index + 1⟩)
    | none => failAt .invalidEscape (c.index + 1)

/-- Reads the characters of a string after its opening quote, up to and including the closing
quote. -/
def readStringBody (len : Nat) : Nat → List Char → Cursor → Except Located (String × Cursor)
  | 0, _, _ => failAt .eofString len
  | fuel + 1, acc, c =>
    match c.rest with
    | [] => failAt .eofString c.index
    | '"' :: r => .ok (String.ofList acc.reverse, ⟨r, c.index + 1⟩)
    | '\\' :: r =>
      match readEscape len ⟨r, c.index + 1⟩ with
      | .ok (e, c') => readStringBody len fuel (e :: acc) c'
      | .error err => .error err
    | ch :: r =>
      if ch.toNat < 0x20 then failAt .controlCharacter (c.index + 1)
      else readStringBody len fuel (ch :: acc) ⟨r, c.index + ch.utf8Size⟩

/-- Reads a string after its opening quote. -/
def readString (len : Nat) (c : Cursor) : Except Located (String × Cursor) :=
  readStringBody len (c.rest.length + 1) [] c

/-- Takes decimal digits, adding them to the reversed text `acc`. -/
def takeDigits : List Char → Nat → List Char → List Char × Cursor
  | ch :: r, i, acc => if ch.isDigit then takeDigits r (i + 1) (ch :: acc) else (acc, ⟨ch :: r, i⟩)
  | [], i, acc => (acc, ⟨[], i⟩)

/-- Reads an exponent at its mark; an unsigned exponent is written with `+`. -/
def readExponentText (acc : List Char) (c : Cursor) :
    Except Located (List Char × Cursor) :=
  match c.rest with
  | [] => .ok (acc, c)
  | _ :: r =>
    let acc := 'e' :: acc
    let (acc, c) : List Char × Cursor :=
      match r with
      | '+' :: r' => ('+' :: acc, ⟨r', c.index + 2⟩)
      | '-' :: r' => ('-' :: acc, ⟨r', c.index + 2⟩)
      | r' => ('+' :: acc, ⟨r', c.index + 1⟩)
    match c.rest with
    | [] => failAt .eofValue c.index
    | d :: r' =>
      if d.isDigit then .ok (takeDigits r' (c.index + 1) (d :: acc))
      else failAt .invalidNumber (c.index + 1)

/-- Reads what may follow the integer part of a number: a fraction and an exponent. -/
def readNumberTail (len : Nat) (acc : List Char) (c : Cursor) :
    Except Located (List Char × Cursor) :=
  match c.rest with
  | '.' :: r =>
    let (acc', c') := takeDigits r (c.index + 1) ('.' :: acc)
    if acc'.length = acc.length + 1 then
      match c'.rest with
      | [] => failAt .eofValue (c'.ahead len)
      | _ => failAt .invalidNumber (c'.ahead len)
    else
      match c'.rest with
      | 'e' :: _ | 'E' :: _ => readExponentText acc' c'
      | _ => .ok (acc', c')
  | 'e' :: _ | 'E' :: _ => readExponentText acc c
  | _ => .ok (acc, c)

/-- Reads a number after its optional minus, keeping its text. -/
def readNumberText (len : Nat) (neg : Bool) (c : Cursor) :
    Except Located (String × Cursor) :=
  let acc0 : List Char := if neg then ['-'] else []
  let finish (r : Except Located (List Char × Cursor)) : Except Located (String × Cursor) :=
    r.map fun p => (String.ofList p.1.reverse, p.2)
  match c.rest with
  | [] => failAt .eofValue c.index
  | '0' :: r =>
    let c1 : Cursor := ⟨r, c.index + 1⟩
    match r with
    | d :: _ => if d.isDigit then failAt .invalidNumber (c1.ahead len)
      else finish (readNumberTail len ('0' :: acc0) c1)
    | [] => finish (readNumberTail len ('0' :: acc0) c1)
  | d :: r =>
    if d.isDigit then
      let (acc, c1) := takeDigits r (c.index + 1) (d :: acc0)
      finish (readNumberTail len acc c1)
    else failAt .invalidNumber (c.index + 1)

/-- How a number literal is described in a mismatch: an integer literal that fits 64 bits by its
value (a negative one only when it is below zero, so `-0` is no integer), anything else only as a
number. -/
def describeNumber (text : String) : Found :=
  match readInteger true text with
  | some n =>
    if (0 ≤ n ∧ n ≤ Int.pow 2 64 - 1 ∧ !text.startsWith "-") ∨ (-Int.pow 2 63 ≤ n ∧ n < 0) then
      .integer n
    else .number
  | none => .number

/-- Reads the next value only to describe it in a mismatch. Brackets are not taken. -/
def readFound (len : Nat) (c : Cursor) : Except Located (Found × Cursor) :=
  match c.rest with
  | 'n' :: r => (readIdent ['u', 'l', 'l'] ⟨r, c.index + 1⟩).map fun c' => (.null, c')
  | 't' :: r => (readIdent ['r', 'u', 'e'] ⟨r, c.index + 1⟩).map fun c' => (.bool true, c')
  | 'f' :: r => (readIdent ['a', 'l', 's', 'e'] ⟨r, c.index + 1⟩).map fun c' => (.bool false, c')
  | '-' :: r => do
    let (t, c') ← readNumberText len true ⟨r, c.index + 1⟩
    .ok (describeNumber t, c')
  | '"' :: r => (readString len ⟨r, c.index + 1⟩).map fun p => (.string p.1, p.2)
  | '[' :: _ => .ok (.sequence, c)
  | '{' :: _ => .ok (.map, c)
  | ch :: _ =>
    if ch.isDigit then do
      let (t, c') ← readNumberText len false c
      .ok (describeNumber t, c')
    else failAt .expectedValue (c.ahead len)
  | [] => failAt .expectedValue (c.ahead len)

/-- A mismatch for the next value, placed after it (or at its opening bracket). -/
def mismatchFound {α : Type} (len : Nat) (expected : String) (c : Cursor) : Except Located α := do
  let (found, c') ← readFound len c
  mismatchAt (.invalidType found expected) c'.index

/-- The line and byte column of a byte index in a text. -/
def positionOf (cs : List Char) (idx : Nat) : Position :=
  go cs 0 1 0
where
  go : List Char → Nat → Nat → Nat → Position
    | ch :: r, off, line, lineStart =>
      if off < idx then
        if ch = '\n' then go r (off + 1) (line + 1) (off + 1)
        else go r (off + ch.utf8Size) line lineStart
      else ⟨line, idx - lineStart⟩
    | [], _, line, lineStart => ⟨line, idx - lineStart⟩

/-- The key of the one member of an object that stands for a number written in a string. -/
def numberMarker : String := "$serde_json::private::Number"

/-- Whether a number that failed at byte `i` failed at a character it had already taken: the
character after a leading minus, after an exponent mark and after the exponent's sign is taken
before it is looked at; every other character is only looked at. -/
def takenBeforeFault (cs : List Char) (i : Nat) : Bool :=
  2 ≤ i && match cs[i - 2]? with
    | some ch => ch == '-' || ch == '+' || ch == 'e' || ch == 'E'
    | none => false

/-- Reads a whole string as exactly one number: its text, or the fault and the byte index in
the string where it is reported. A character left after the number, or after a taken character
where the number failed, makes the number invalid one byte past where reading stands. -/
def readNumberString (s : String) : Except (Malformed × Nat) String :=
  let cs := s.toList
  let len := s.utf8ByteSize
  let read : Except Located (String × Cursor) :=
    match cs with
    | [] => failAt .eofValue 0
    | '-' :: r => readNumberText len true ⟨r, 1⟩
    | ch :: _ =>
      if ch.isDigit then readNumberText len false ⟨cs, 0⟩ else failAt .invalidNumber (min len 1)
  match read with
  | .ok (t, c) => if c.rest.isEmpty then .ok t else .error (.invalidNumber, c.ahead len)
  | .error ⟨.malformed m, i⟩ =>
    if m = .invalidNumber ∧ i < len ∧ takenBeforeFault cs i then .error (.invalidNumber, i + 1)
    else .error (m, i)
  | .error ⟨.data _, i⟩ => .error (.invalidNumber, i)

/-- Reads the value of the member that stands for a number: a string that holds exactly one
number. A fault in the number is placed in the string's own text. -/
def readNumberMember (len : Nat) (c0 : Cursor) : Except Located (Number × Cursor) :=
  let c := c0.skipBlank
  match c.rest with
  | '"' :: r => do
    let (s, c') ← readString len ⟨r, c.index + 1⟩
    match readNumberString s with
    | .ok t => .ok (⟨t⟩, c')
    | .error (m, i) => mismatchAt (.nested m (positionOf s.toList i)) c'.index
  | [] => failAt .eofValue (c.ahead len)
  | _ => mismatchFound len "string containing a number" c

/-- The number that an object whose first key is `numberMarker` stands for, from the value of
that key: a string that holds exactly one number, a fault in which is placed in the string's own
text. Any other value is a mismatch, named by `found`. -/
def markedNumber (found : Value → Found) : Value → Except Mismatch Number
  | .str s =>
    match readNumberString s with
    | .ok t => .ok ⟨t⟩
    | .error (m, i) => .error (.nested m (positionOf s.toList i))
  | v => .error (.invalidType (found v) "string containing a number")

/-- How a buffered value is named in a mismatch: an integer that fits 64 bits by its value, and
any other number as the map that holds its text. -/
def Value.bufferedFound : Value → Found
  | .num n =>
    match describeNumber n.text with
    | .integer i => .integer i
    | _ => .map
  | v => v.found

/-- A way of reading a value again into a value. Every way takes an object whose first key is
`numberMarker` for the number in that key's string; the ways differ in how they name another
value found there, in what they expect of the object's other members, and in how they read the
numbers of the value. -/
structure Rereading where
  /-- How a value other than a string under the marker is named. -/
  found : Value → Found
  /-- What is expected of an object with the marker that holds more than it. -/
  room : String
  /-- How a number is read again. -/
  number : Number → Number

/-- The members an open record buffered while reading a text, in the order read: numbers stay as
written, a number that is no 64-bit integer was buffered as a map, and the marker's object
holds one member. -/
def Rereading.buffered : Rereading := ⟨Value.bufferedFound, "1 element in map", id⟩

/-- An already-read value read as a value: its objects are met in key order, its numbers are
read back, any number is named a number, and the marker's object may hold nothing more. -/
def Rereading.direct : Rereading := ⟨Value.found, "fewer elements in map", Number.reread⟩

/-- The members an open record buffered from an already-read value, in key order: numbers are
read back, and the marker's object holds one member. -/
def Rereading.held : Rereading := ⟨Value.heldFound, "1 element in map", Number.reread⟩

mutual

/-- The value that a value stands for when read again: an object whose first key is
`numberMarker` becomes its number, the members of any other object are kept by key (a later one
replacing an earlier one), and the first fault met in order is the one reported. -/
def Value.rereadBy (r : Rereading) : Value → Except Mismatch Value
  | .num n => .ok (.num (r.number n))
  | .arr items => (rereadItems r items).map .arr
  | .obj members =>
    match members with
    | (k, v) :: rest =>
      if k = numberMarker then do
        let n ← markedNumber r.found v
        if rest.isEmpty then .ok (.num n) else .error (.invalidLength (rest.length + 1) r.room)
      else rereadMembers r members []
    | [] => .ok (.obj [])
  | v => .ok v

/-- The values that items stand for when read again. -/
def rereadItems (r : Rereading) : List Value → Except Mismatch (List Value)
  | [] => .ok []
  | v :: rest => do
    let w ← v.rereadBy r
    let ws ← rereadItems r rest
    pure (w :: ws)

/-- The object that members, in order, stand for when read again. -/
def rereadMembers (r : Rereading) :
    List (String × Value) → List (String × Value) → Except Mismatch Value
  | [], acc => .ok (.obj acc)
  | (k, v) :: rest, acc => do
    let w ← v.rereadBy r
    rereadMembers r rest (Members.insert k w acc)

end

/-- Adds buffered members, in order, read again to the members of a record. -/
def addReread (r : Rereading) : List (String × Value) → List (String × Value) →
    Except Mismatch (List (String × Value))
  | [], acc => .ok acc
  | (k, v) :: rest, acc => do
    let w ← v.rereadBy r
    addReread r rest (Members.insert k w acc)

/-- Reads a colon between a key and its value. -/
def readColon (len : Nat) (c0 : Cursor) : Except Located Cursor :=
  let c := c0.skipBlank
  match c.rest with
  | ':' :: r => .ok ⟨r, c.index + 1⟩
  | [] => failAt .eofObject (c.ahead len)
  | _ => failAt .expectedColon (c.ahead len)

/-- Reads the closing bracket of an array. -/
def closeList (len : Nat) (c0 : Cursor) : Except Located Cursor :=
  let c := c0.skipBlank
  match c.rest with
  | ']' :: r => .ok ⟨r, c.index + 1⟩
  | ',' :: r =>
    let c1 := skipBlankFrom r (c.index + 1)
    match c1.rest with
    | ']' :: _ => failAt .trailingComma (c1.ahead len)
    | _ => failAt .trailingCharacters (c1.ahead len)
  | [] => failAt .eofList (c.ahead len)
  | _ => failAt .trailingCharacters (c.ahead len)

/-- Reads the closing brace of an object. -/
def closeObject (len : Nat) (c0 : Cursor) : Except Located Cursor :=
  let c := c0.skipBlank
  match c.rest with
  | '}' :: r => .ok ⟨r, c.index + 1⟩
  | ',' :: _ => failAt .trailingComma (c.ahead len)
  | [] => failAt .eofObject (c.ahead len)
  | _ => failAt .trailingCharacters (c.ahead len)

/-- Where the next array item starts: `none` at the closing bracket. -/
def nextItem (len : Nat) (first : Bool) (c0 : Cursor) : Except Located (Option Cursor) :=
  let c := c0.skipBlank
  match c.rest with
  | [] => failAt .eofList (c.ahead len)
  | ']' :: _ => .ok none
  | ch :: r =>
    if first then .ok (some c)
    else if ch = ',' then
      let c1 := skipBlankFrom r (c.index + 1)
      match c1.rest with
      | ']' :: _ => failAt .trailingComma (c1.ahead len)
      | [] => failAt .eofValue (c1.ahead len)
      | _ => .ok (some c1)
    else failAt .expectedListCommaOrEnd (c.ahead len)

/-- Reads the next member key: `none` at the closing brace. -/
def nextKey (len : Nat) (first : Bool) (c0 : Cursor) : Except Located (Option (String × Cursor)) :=
  let c := c0.skipBlank
  let atKey (k : Cursor) : Except Located (Option (String × Cursor)) :=
    match k.rest with
    | '"' :: r => (readString len ⟨r, k.index + 1⟩).map some
    | '}' :: _ => failAt .trailingComma (k.ahead len)
    | [] => failAt .eofValue (k.ahead len)
    | _ => failAt .keyMustBeString (k.ahead len)
  match c.rest with
  | '}' :: _ => .ok none
  | [] => failAt .eofObject (c.ahead len)
  | ch :: r =>
    if ch = ',' ∧ !first then atKey (skipBlankFrom r (c.index + 1))
    else if first then atKey c
    else failAt .expectedObjectCommaOrEnd (c.ahead len)

mutual

/-- Reads one value. `depth` is how many more brackets may open, plus one. A *buffered* value is
held before it is known what it stands for: its objects keep their members in the order read,
repeated keys included, and an object with `numberMarker` stays an object (see
`Value.rereadBy`). -/
def readValue (len : Nat) (buffered : Bool) : Nat → Nat → Cursor → Except Located (Value × Cursor)
  | 0, _, _ => failAt .eofValue len
  | fuel + 1, depth, c0 =>
    let c := c0.skipBlank
    match c.rest with
    | [] => failAt .eofValue (c.ahead len)
    | 'n' :: r => (readIdent ['u', 'l', 'l'] ⟨r, c.index + 1⟩).map fun c' => (.null, c')
    | 't' :: r => (readIdent ['r', 'u', 'e'] ⟨r, c.index + 1⟩).map fun c' => (.bool true, c')
    | 'f' :: r => (readIdent ['a', 'l', 's', 'e'] ⟨r, c.index + 1⟩).map fun c' => (.bool false, c')
    | '-' :: r =>
      (readNumberText len true ⟨r, c.index + 1⟩).map fun p => (.num ⟨p.1⟩, p.2)
    | '"' :: r => (readString len ⟨r, c.index + 1⟩).map fun p => (.str p.1, p.2)
    | '[' :: r =>
      if depth ≤ 1 then failAt .recursionLimit (c.ahead len)
      else do
        let (items, c') ← readItems len buffered fuel (depth - 1) true [] ⟨r, c.index + 1⟩
        let c'' ← closeList len c'
        .ok (.arr items, c'')
    | '{' :: r =>
      if depth ≤ 1 then failAt .recursionLimit (c.ahead len)
      else do
        let c1 : Cursor := ⟨r, c.index + 1⟩
        let (v, c') ← match ← nextKey len true c1 with
          | none => pure (.obj [], c1.skipBlank)
          | some (k, c2) => do
            let c3 ← readColon len c2
            if k = numberMarker ∧ !buffered then
              let (n, c4) ← readNumberMember len c3
              pure (.num n, c4)
            else
              let (x, c4) ← readValue len buffered fuel (depth - 1) c3
              let first := if buffered then [(k, x)] else Members.insert k x []
              let (members, c5) ← readMembers len buffered fuel (depth - 1) false first c4
              pure (.obj (if buffered then members.reverse else members), c5)
        let c'' ← closeObject len c'
        .ok (v, c'')
    | ch :: _ =>
      if ch.isDigit then
        (readNumberText len false c).map fun p => (.num ⟨p.1⟩, p.2)
      else failAt .expectedValue (c.ahead len)

/-- Reads the items of an array up to its closing bracket. -/
def readItems (len : Nat) (buffered : Bool) : Nat → Nat → Bool → List Value → Cursor →
    Except Located (List Value × Cursor)
  | 0, _, _, _, _ => failAt .eofValue len
  | fuel + 1, depth, first, acc, c => do
    match ← nextItem len first c with
    | none => .ok (acc.reverse, c.skipBlank)
    | some c1 => do
      let (v, c2) ← readValue len buffered fuel depth c1
      readItems len buffered fuel depth false (v :: acc) c2

/-- Reads the members of an object up to its closing brace; buffered members are gathered last
one first, the others by key. -/
def readMembers (len : Nat) (buffered : Bool) : Nat → Nat → Bool → List (String × Value) →
    Cursor → Except Located (List (String × Value) × Cursor)
  | 0, _, _, _, _ => failAt .eofValue len
  | fuel + 1, depth, first, acc, c => do
    match ← nextKey len first c with
    | none => .ok (acc, c.skipBlank)
    | some (k, c1) => do
      let c2 ← readColon len c1
      let (v, c3) ← readValue len buffered fuel depth c2
      let acc' := if buffered then (k, v) :: acc else Members.insert k v acc
      readMembers len buffered fuel depth false acc' c3

end

/-- Takes the rest of a string after its opening quote without reading it: only the closing
quote, escapes and control characters are looked at, a `\u` escape may name any code unit, and a
control character is reported where it stands. -/
def skipStringBody (len : Nat) : Nat → Cursor → Except Located Cursor
  | 0, _ => failAt .eofString len
  | fuel + 1, c =>
    match c.rest with
    | [] => failAt .eofString c.index
    | '"' :: r => .ok ⟨r, c.index + 1⟩
    | '\\' :: r =>
      match r with
      | [] => failAt .eofString (c.index + 1)
      | 'u' :: r' => do
        let (_, c') ← readHex4 len ⟨r', c.index + 2⟩
        skipStringBody len fuel c'
      | ch :: r' =>
        if (shortEscape? ch).isSome then skipStringBody len fuel ⟨r', c.index + 2⟩
        else failAt .invalidEscape (c.index + 2)
    | ch :: r =>
      if ch.toNat < 0x20 then failAt .controlCharacter c.index
      else skipStringBody len fuel ⟨r, c.index + ch.utf8Size⟩

/-- Takes an exponent at its mark without reading it; a missing digit, even at the end of the
text, makes the number invalid. -/
def skipExponent (c : Cursor) : Except Located Cursor :=
  let c1 : Cursor := match c.rest with
    | _ :: '+' :: r | _ :: '-' :: r => ⟨r, c.index + 2⟩
    | _ :: r => ⟨r, c.index + 1⟩
    | [] => c
  match c1.rest with
  | d :: r => if d.isDigit then .ok (takeDigits r (c1.index + 1) []).2 else failAt .invalidNumber (c1.index + 1)
  | [] => failAt .invalidNumber c1.index

/-- Takes what may follow the integer part of a number without reading it. -/
def skipNumberTail (len : Nat) (c : Cursor) : Except Located Cursor :=
  match c.rest with
  | '.' :: r =>
    let (ds, c1) := takeDigits r (c.index + 1) []
    if ds.isEmpty then failAt .invalidNumber (c1.ahead len)
    else
      match c1.rest with
      | 'e' :: _ | 'E' :: _ => skipExponent c1
      | _ => .ok c1
  | 'e' :: _ | 'E' :: _ => skipExponent c
  | _ => .ok c

/-- Takes a number after its optional minus without reading it; a missing digit, even at the end
of the text, makes the number invalid. -/
def skipNumber (len : Nat) (c : Cursor) : Except Located Cursor :=
  match c.rest with
  | '0' :: r =>
    let c1 : Cursor := ⟨r, c.index + 1⟩
    match r with
    | d :: _ => if d.isDigit then failAt .invalidNumber (c1.ahead len) else skipNumberTail len c1
    | [] => .ok c1
  | d :: r =>
    if d.isDigit then skipNumberTail len (takeDigits r (c.index + 1) []).2
    else failAt .invalidNumber (c.index + 1)
  | [] => failAt .invalidNumber c.index

mutual

/-- Takes one value without reading it, as the value of a member that is not kept: strings are
not decoded, numbers not converted, and brackets nest without limit. -/
def skipValue (len : Nat) : Nat → Cursor → Except Located Cursor
  | 0, _ => failAt .eofValue len
  | fuel + 1, c0 =>
    let c := c0.skipBlank
    match c.rest with
    | [] => failAt .eofValue (c.ahead len)
    | 'n' :: r => readIdent ['u', 'l', 'l'] ⟨r, c.index + 1⟩
    | 't' :: r => readIdent ['r', 'u', 'e'] ⟨r, c.index + 1⟩
    | 'f' :: r => readIdent ['a', 'l', 's', 'e'] ⟨r, c.index + 1⟩
    | '-' :: r => skipNumber len ⟨r, c.index + 1⟩
    | '"' :: r => skipStringBody len (r.length + 1) ⟨r, c.index + 1⟩
    | '[' :: r => skipItems len fuel true ⟨r, c.index + 1⟩
    | '{' :: r => skipMembers len fuel true ⟨r, c.index + 1⟩
    | ch :: _ => if ch.isDigit then skipNumber len c else failAt .expectedValue (c.ahead len)

/-- Takes the items of an array up to and including its closing bracket. -/
def skipItems (len : Nat) : Nat → Bool → Cursor → Except Located Cursor
  | 0, _, _ => failAt .eofValue len
  | fuel + 1, first, c0 =>
    let c := c0.skipBlank
    match c.rest with
    | [] => failAt .eofList (c.ahead len)
    | ']' :: r => .ok ⟨r, c.index + 1⟩
    | ch :: r =>
      if first then do skipItems len fuel false (← skipValue len fuel c)
      else if ch = ',' then do skipItems len fuel false (← skipValue len fuel ⟨r, c.index + 1⟩)
      else failAt .expectedListCommaOrEnd (c.ahead len)

/-- Takes the members of an object up to and including its closing brace. -/
def skipMembers (len : Nat) : Nat → Bool → Cursor → Except Located Cursor
  | 0, _, _ => failAt .eofValue len
  | fuel + 1, first, c0 =>
    let c := c0.skipBlank
    match c.rest with
    | [] => failAt .eofObject (c.ahead len)
    | '}' :: r => .ok ⟨r, c.index + 1⟩
    | ch :: r =>
      if first then skipMember len fuel c
      else if ch = ',' then skipMember len fuel ⟨r, c.index + 1⟩
      else failAt .expectedObjectCommaOrEnd (c.ahead len)

/-- Takes one member of an object, key, colon and value, then the members after it. -/
def skipMember (len : Nat) : Nat → Cursor → Except Located Cursor
  | 0, _ => failAt .eofValue len
  | fuel + 1, c0 =>
    let c := c0.skipBlank
    match c.rest with
    | '"' :: r => do
      let c1 ← skipStringBody len (r.length + 1) ⟨r, c.index + 1⟩
      let c2 ← readColon len c1
      let c3 ← skipValue len fuel c2
      skipMembers len fuel false c3
    | [] => failAt .eofObject (c.ahead len)
    | _ => failAt .keyMustBeString (c.ahead len)

end

mutual

/-- Reads one value into a shape; `none` is an absent optional value. -/
def readShape (len : Nat) : Nat → Nat → Shape → Cursor → Except Located (Option Value × Cursor)
  | 0, _, _, _ => failAt .eofValue len
  | fuel + 1, depth, shape, c0 =>
    let c := c0.skipBlank
    match shape with
    | .any => (readValue len false fuel depth c).map fun p => (some p.1, p.2)
    | .text =>
      match c.rest with
      | [] => failAt .eofValue (c.ahead len)
      | '"' :: r => (readString len ⟨r, c.index + 1⟩).map fun p => (some (.str p.1), p.2)
      | _ => mismatchFound len "a string" c
    | .optional inner =>
      match c.rest with
      | 'n' :: r => (readIdent ['u', 'l', 'l'] ⟨r, c.index + 1⟩).map fun c' => (none, c')
      | _ => readShape len fuel depth inner c
    | .list item =>
      match c.rest with
      | [] => failAt .eofValue (c.ahead len)
      | '[' :: r =>
        if depth ≤ 1 then failAt .recursionLimit (c.ahead len)
        else do
          let (items, c') ← readShapeItems len fuel (depth - 1) item true [] ⟨r, c.index + 1⟩
          let c'' ← closeList len c'
          .ok (some (.arr items), c'')
      | _ => mismatchFound len "a sequence" c
    | .record name fields isOpen =>
      match c.rest with
      | [] => failAt .eofValue (c.ahead len)
      | '{' :: r =>
        if depth ≤ 1 then failAt .recursionLimit (c.ahead len)
        else do
          let ((seen, acc, kept), c') ←
            readRecordMembers len fuel (depth - 1) fields isOpen true [] [] [] ⟨r, c.index + 1⟩
          match firstMissing fields seen with
          | some f => mismatchAt (.missingField f) (c'.index + 1)
          | none =>
            match addReread .buffered kept.reverse acc with
            | .error m => mismatchAt m (c'.index + 1)
            | .ok members => do
              let c'' ← closeObject len c'
              .ok (some (.obj members), c'')
      | '[' :: r =>
        if isOpen then mismatchFound len ("struct " ++ name) c
        else if depth ≤ 1 then failAt .recursionLimit (c.ahead len)
        else do
          let (acc, c') ← readPositional len fuel (depth - 1) name fields.length fields true 0 []
            ⟨r, c.index + 1⟩
          let c'' ← closeList len c'
          .ok (some (.obj acc), c'')
      | _ => mismatchFound len ("struct " ++ name) c
    | .convert read => do
      let (v, c') ← readValue len false fuel depth c
      match read v with
      | .ok w => .ok (some w, c')
      | .error msg => mismatchAt (.custom msg) c'.index

/-- Reads the items of an array into one shape, up to its closing bracket. -/
def readShapeItems (len : Nat) : Nat → Nat → Shape → Bool → List Value → Cursor →
    Except Located (List Value × Cursor)
  | 0, _, _, _, _, _ => failAt .eofValue len
  | fuel + 1, depth, item, first, acc, c => do
    match ← nextItem len first c with
    | none => .ok (acc.reverse, c.skipBlank)
    | some c1 => do
      let (v, c2) ← readShape len fuel depth item c1
      readShapeItems len fuel depth item false (v.getD .null :: acc) c2

/-- Reads the members of an object into a record, up to its closing brace; gives the known
fields seen, the members read into them, and the members an open record keeps, buffered and
last one first. -/
def readRecordMembers (len : Nat) : Nat → Nat → List (String × Shape × Bool) → Bool → Bool →
    List String → List (String × Value) → List (String × Value) → Cursor →
    Except Located ((List String × List (String × Value) × List (String × Value)) × Cursor)
  | 0, _, _, _, _, _, _, _, _ => failAt .eofValue len
  | fuel + 1, depth, fields, isOpen, first, seen, acc, kept, c => do
    match ← nextKey len first c with
    | none => .ok ((seen, acc, kept), c.skipBlank)
    | some (k, c1) =>
      match fieldShape? fields k with
      | some s =>
        if seen.contains k then
          let c := c1.skipBlank
          mismatchAt (.duplicateField k) (match c.rest with
            | '}' :: _ => c.index + 1
            | _ => c.index)
        else do
          let c2 ← readColon len c1
          let (x, c3) ← readShape len fuel depth s c2
          let acc' := match x with
            | some y => Members.insert k y acc
            | none => acc
          readRecordMembers len fuel depth fields isOpen false (k :: seen) acc' kept c3
      | none => do
        let c2 ← readColon len c1
        if isOpen then
          let (v, c3) ← readValue len true fuel depth c2
          readRecordMembers len fuel depth fields isOpen false seen acc ((k, v) :: kept) c3
        else
          let c3 ← skipValue len fuel c2
          readRecordMembers len fuel depth fields isOpen false seen acc kept c3

/-- Reads the items of an array into the fields of a closed record, in order. -/
def readPositional (len : Nat) : Nat → Nat → String → Nat → List (String × Shape × Bool) →
    Bool → Nat → List (String × Value) → Cursor →
    Except Located (List (String × Value) × Cursor)
  | 0, _, _, _, _, _, _, _, _ => failAt .eofValue len
  | _ + 1, _, _, _, [], _, _, acc, c => .ok (acc, c)
  | fuel + 1, depth, name, count, (k, s, req) :: fs, first, i, acc, c => do
    match ← nextItem len first c with
    | none =>
      if req then
        mismatchAt (.invalidLength i ("struct " ++ name ++ " with " ++ toString count ++ " elements"))
          (c.skipBlank.index + 1)
      else readPositional len fuel depth name count fs first (i + 1) acc c
    | some c1 => do
      let (x, c2) ← readShape len fuel depth s c1
      let acc' := match x with
        | some y => Members.insert k y acc
        | none => acc
      readPositional len fuel depth name count fs false (i + 1) acc' c2

end

/-- Reads a whole text into a shape: one value, then nothing but blanks. -/
def readText (shape : Shape) (s : String) : Except DecodeError (Option Value) :=
  let cs := s.toList
  let len := s.utf8ByteSize
  let place (e : Located) : DecodeError :=
    match e.fault with
    | .data (.nested _ _) => ⟨e.fault, none⟩
    | _ => ⟨e.fault, some (positionOf cs e.index)⟩
  match readShape len (4 * cs.length + 8) 128 shape ⟨cs, 0⟩ with
  | .error e => .error (place e)
  | .ok (v, c) =>
    let c' := c.skipBlank
    if c'.rest.isEmpty then .ok v
    else .error (place ⟨.malformed .trailingCharacters, c'.ahead len⟩)

/-- Reads a whole text as one value. -/
def readValueText (s : String) : Except DecodeError Value :=
  (readText .any s).map fun v => v.getD .null

end UaFlow.Json
