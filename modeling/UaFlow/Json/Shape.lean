import UaFlow.Json.Value
import UaFlow.Json.Error
import UaFlow.Float.Text
/-!
Shapes of JSON data, and how the numbers of an already-read value are read back.

A shape says what data is expected: any value, a string, an optional value (`null` reads as
absent), an array of one shape, a record of named fields, or any value passed through a reader
that converts it or refuses it with a message. A record is *open* when it keeps
the members it does not know, and *closed* when it skips them; a closed record may also be
written as an array of its fields in declaration order.

A number that is read again is read back from its text (`Number.reading`): an integer literal
that fits 64 bits is rewritten in canonical decimal (so `-0` becomes `0`), and a literal that is
exactly the shortest or the plain text of a double is rewritten as that double's number text
(the shortest layout, a positive exponent with its plus). Members kept by an open record are
first buffered, and a buffer holds integers of at most 64 bits: a wider integer literal there is
a mismatch (`Number.checkBuffered`).
-/

namespace UaFlow.Json

open UaFlow.Float

/-- The shape that data is read into. -/
inductive Shape where
  /-- Any value. -/
  | any
  /-- A string. -/
  | text
  /-- A value of the inner shape, or `null` for absent. -/
  | optional (inner : Shape)
  /-- An array whose items have one shape. -/
  | list (item : Shape)
  /-- Named fields `(name, shape, required)`; an open record keeps unknown members. -/
  | record (name : String) (fields : List (String × Shape × Bool)) (isOpen : Bool)
  /-- Any value, turned into another by a reader that may refuse it with a message. -/
  | convert (read : Value → Except String Value)
  deriving Inhabited

/-- How a value is named when it is found where data of another kind was expected. -/
def Value.found : Value → Found
  | .null => .null
  | .bool b => .bool b
  | .num _ => .number
  | .str s => .string s
  | .arr _ => .sequence
  | .obj _ => .map

/-- `2 ^ 64 - 1`, the largest unsigned 64-bit integer. -/
def maxU64 : Int := Int.pow 2 64 - 1

/-- How the text of a number is read back: as an integer of 64 bits (unsigned, or signed
below zero), as a wider integer of at most 128 bits, as the double whose shortest or plain text
it is, or as nothing but its text. -/
inductive NumberReading where
  | word (i : Int)
  | wide (i : Int) (unsigned : Bool)
  | double (b : Binary)
  | exact

/-- How a number is read back: the narrowest integer that holds it, else the double it writes
exactly, else its text. -/
def Number.reading (n : Number) : NumberReading :=
  match readIntegerIn 0 maxU64 n.text with
  | some i => .word i
  | none =>
    match readIntegerIn (-Int.pow 2 63) (Int.pow 2 63 - 1) n.text with
    | some i => .word i
    | none =>
      match readIntegerIn 0 (Int.pow 2 128 - 1) n.text with
      | some i => .wide i true
      | none =>
        match readIntegerIn (-Int.pow 2 127) (Int.pow 2 127 - 1) n.text with
        | some i => .wide i false
        | none =>
          match readFloat n.text with
          | some lit =>
            let b := Format.double.ofLiteral lit
            if b.isFinite && (Format.double.shortestText b == n.text ||
                Format.double.plainText b == n.text) then .double b
            else .exact
          | none => .exact

/-- The number as it is written again after being read back: integers that fit 64 bits in
canonical decimal, the exact shortest or plain text of a double as that double's number text,
anything else unchanged. -/
def Number.reread (n : Number) : Number :=
  match n.reading with
  | .word i => Number.ofInt i
  | .double b => ⟨Format.double.numberText b⟩
  | _ => n

/-- A buffered member holds integers of at most 64 bits; a wider integer literal fails. -/
def Number.checkBuffered (n : Number) : Except Mismatch Unit :=
  match n.reading with
  | .wide i true => .error (.invalidType (.other ("integer `" ++ toString i ++ "` as u128")) "any value")
  | .wide i false => .error (.invalidType (.other ("integer `" ++ toString i ++ "` as i128")) "any value")
  | _ => .ok ()

/-- How a buffered copy of an already-read value names it in a mismatch: a 64-bit integer by its
value, a double by its shortest text, and any other number as the map that holds its text. -/
def Value.heldFound : Value → Found
  | .num n =>
    match n.reading with
    | .word i => .integer i
    | .double b => .float (Format.double.shortestText b)
    | _ => .map
  | v => v.found

mutual

/-- Whether a value can be buffered: its first integer too wide for 64 bits fails. -/
def Value.checkBuffered : Value → Except Mismatch Unit
  | .num n => n.checkBuffered
  | .arr items => checkBufferedItems items
  | .obj members => checkBufferedMembers members
  | _ => .ok ()

/-- Items checked in order. -/
def checkBufferedItems : List Value → Except Mismatch Unit
  | [] => .ok ()
  | v :: rest => do v.checkBuffered; checkBufferedItems rest

/-- Members checked in key order. -/
def checkBufferedMembers : List (String × Value) → Except Mismatch Unit
  | [] => .ok ()
  | (_, v) :: rest => do v.checkBuffered; checkBufferedMembers rest

end

/-- The field names of a record shape. -/
def fieldNames (fields : List (String × Shape × Bool)) : List String :=
  fields.map (·.1)

/-- The first required field that has not been seen. -/
def firstMissing (fields : List (String × Shape × Bool)) (seen : List String) : Option String :=
  (fields.find? fun f => f.2.2 && !seen.contains f.1).map (·.1)

/-- The shape of a named field. -/
def fieldShape? (fields : List (String × Shape × Bool)) (k : String) : Option Shape :=
  (fields.find? fun f => f.1 == k).map (·.2.1)

end UaFlow.Json
