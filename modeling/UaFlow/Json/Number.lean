import UaFlow.Json.Value
import UaFlow.Float.Text
/-!
# Reading JSON numbers

A JSON number keeps the text it was written with; these views read that text as a 64-bit signed
or unsigned integer (only a text of an integer reads so: `2.0` and `1e2` do not), or as a finite
double. A value's text is a string itself, or the JSON text of anything else.
-/

namespace UaFlow.Json

open UaFlow.Float

/-- The number as a 64-bit signed integer, when its text is one. -/
def Number.asInt64? (n : Number) : Option Int :=
  readIntegerIn (-Int.pow 2 63) (Int.pow 2 63 - 1) n.text

/-- The number as a 64-bit unsigned integer, when its text is one. -/
def Number.asUInt64? (n : Number) : Option Int :=
  readIntegerIn 0 (Int.pow 2 64 - 1) n.text

/-- The number as a finite double, when its text reads as one. -/
def Number.asDouble? (n : Number) : Option Binary :=
  match readFloat n.text with
  | some lit =>
    let x := Format.double.ofLiteral lit
    if x.isFinite then some x else none
  | none => none

/-- A value as text: a string as itself, anything else as its JSON text. -/
def Value.asText : Value → String
  | .str s => s
  | v => v.render

end UaFlow.Json
