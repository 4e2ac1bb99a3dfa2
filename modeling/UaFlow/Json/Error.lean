import UaFlow.Text.Quoted
/-!
Why a JSON text or value could not be read.

A syntax fault stops the reading of the text itself; a mismatch is well-formed data of the
wrong shape. A fault found while reading text is placed at a line (counted from one) and a
column (counted in bytes from the start of the line); a fault found in an already-read value has
no place, and a fault in a text held in a string is placed in that inner text. Each fault has
one message, and the message of a placed fault ends with `at line L column C`. Faults fall into
three classes: the end of the text came too early (`Eof`), the text is not JSON (`Syntax`), or
the data has the wrong shape (`Data`, which includes faults in a text held in a string).
-/

namespace UaFlow.Json

open UaFlow.Text

/-- A fault in the text of a JSON document. -/
inductive Malformed where
  | eofList
  | eofObject
  | eofString
  | eofValue
  | expectedColon
  | expectedListCommaOrEnd
  | expectedObjectCommaOrEnd
  | expectedIdent
  | expectedValue
  | invalidEscape
  | invalidNumber
  | controlCharacter
  | keyMustBeString
  | loneSurrogate
  | trailingComma
  | trailingCharacters
  | unexpectedEndOfHexEscape
  | recursionLimit
  deriving DecidableEq, Inhabited

/-- The message of a syntax fault. -/
def Malformed.message : Malformed → String
  | .eofList => "EOF while parsing a list"
  | .eofObject => "EOF while parsing an object"
  | .eofString => "EOF while parsing a string"
  | .eofValue => "EOF while parsing a value"
  | .expectedColon => "expected `:`"
  | .expectedListCommaOrEnd => "expected `,` or `]`"
  | .expectedObjectCommaOrEnd => "expected `,` or `\x7d`"
  | .expectedIdent => "expected ident"
  | .expectedValue => "expected value"
  | .invalidEscape => "invalid escape"
  | .invalidNumber => "invalid number"
  | .controlCharacter => "control character (\\u0000-\\u001F) found while parsing a string"
  | .keyMustBeString => "key must be a string"
  | .loneSurrogate => "lone leading surrogate in hex escape"
  | .trailingComma => "trailing comma"
  | .trailingCharacters => "trailing characters"
  | .unexpectedEndOfHexEscape => "unexpected end of hex escape"
  | .recursionLimit => "recursion limit exceeded"

/-- Whether the fault is an early end of the text. -/
def Malformed.isEof : Malformed → Bool
  | .eofList | .eofObject | .eofString | .eofValue => true
  | _ => false

/-- What was found where data of another kind was expected. -/
inductive Found where
  | null
  | bool (b : Bool)
  | integer (i : Int)
  | float (text : String)
  | number
  | string (s : String)
  | sequence
  | map
  | other (text : String)
  deriving Inhabited

/-- How a found kind of data is named in a message. -/
def Found.describe : Found → String
  | .null => "null"
  | .bool b => "boolean `" ++ (if b then "true" else "false") ++ "`"
  | .integer i => "integer `" ++ toString i ++ "`"
  | .float t => "floating point `" ++ t ++ "`"
  | .number => "number"
  | .string s => "string " ++ debugQuote s
  | .sequence => "sequence"
  | .map => "map"
  | .other t => t

/-- A place in a text: line from one, column in bytes. -/
structure Position where
  line : Nat
  column : Nat
  deriving DecidableEq, Inhabited

/-- Well-formed data of the wrong shape. -/
inductive Mismatch where
  | invalidType (found : Found) (expected : String)
  | invalidLength (n : Nat) (expected : String)
  | missingField (name : String)
  | duplicateField (name : String)
  | custom (text : String)
  /-- A syntax fault in a text held in a string, placed in that text. -/
  | nested (fault : Malformed) (place : Position)
  deriving Inhabited

/-- The message of a mismatch; a nested fault's message ends with its place in its own text. -/
def Mismatch.message : Mismatch → String
  | .invalidType f e => "invalid type: " ++ f.describe ++ ", expected " ++ e
  | .invalidLength n e => "invalid length " ++ toString n ++ ", expected " ++ e
  | .missingField n => "missing field `" ++ n ++ "`"
  | .duplicateField n => "duplicate field `" ++ n ++ "`"
  | .custom t => t
  | .nested f p =>
    f.message ++ " at line " ++ toString p.line ++ " column " ++ toString p.column

/-- A fault: in the text, or in the shape of the data. -/
inductive Fault where
  | malformed (s : Malformed)
  | data (m : Mismatch)
  deriving Inhabited

/-- A fault with its place, when it was found in a text. -/
structure DecodeError where
  fault : Fault
  position : Option Position
  deriving Inhabited

/-- The message of a decode error. -/
def DecodeError.message (e : DecodeError) : String :=
  let base := match e.fault with
    | .malformed s => s.message
    | .data m => m.message
  match e.position with
  | some p => base ++ " at line " ++ toString p.line ++ " column " ++ toString p.column
  | none => base

/-- The class of a decode error: `Eof`, `Syntax` or `Data`. -/
def DecodeError.category (e : DecodeError) : String :=
  match e.fault with
  | .malformed s => if s.isEof then "Eof" else "Syntax"
  | .data _ => "Data"

/-- A decode error without a place. -/
def DecodeError.ofMismatch (m : Mismatch) : DecodeError :=
  ⟨.data m, none⟩

end UaFlow.Json
