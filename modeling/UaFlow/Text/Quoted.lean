import UaFlow.Text.Printable
/-!
Quoted text in two styles.

* `jsonQuote` writes a JSON string literal the compact way: a quote and a backslash get a
  backslash, backspace, form feed, line feed, carriage return and tab their short escapes, the
  other controls below `0x20` a `\u00xx` escape with lower-case hex digits, and every other
  character stands for itself.
* `debugQuote` writes the quoted form used inside diagnostics: a quote and a backslash get a
  backslash, the null character, tab, line feed and carriage return their short escapes, and
  a character that attaches to the one before it or is not printable (see `isPrintable`) a
  `\u{x}` escape with the fewest lower-case hex digits.
-/

namespace UaFlow.Text

/-- The lower-case hex digit of a number below sixteen. -/
def hexDigit (n : Nat) : Char :=
  if n < 10 then Char.ofNat (48 + n) else Char.ofNat (87 + n)

/-- The lower-case hex digits of a number, without leading zeros (`0` for zero). -/
def hexDigits (n : Nat) : List Char :=
  (Nat.toDigits 16 n)

/-- The escaped form of one character inside a JSON string literal. -/
def jsonEscape (c : Char) : List Char :=
  match c with
  | '"' => ['\\', '"']
  | '\\' => ['\\', '\\']
  | '\x08' => ['\\', 'b']
  | '\x0c' => ['\\', 'f']
  | '\n' => ['\\', 'n']
  | '\r' => ['\\', 'r']
  | '\t' => ['\\', 't']
  | c =>
    if c.toNat < 0x20 then
      ['\\', 'u', '0', '0', hexDigit (c.toNat / 16), hexDigit (c.toNat % 16)]
    else [c]

/-- A JSON string literal for the text. -/
def jsonQuote (s : String) : String :=
  String.ofList ('"' :: (s.toList.flatMap jsonEscape ++ ['"']))

/-- Whether a character is written as a code point escape in a diagnostic: one that attaches to
the character before it would be lost in that character, and one that is not printable would
not be seen. -/
def isEscapedInDiagnostic (c : Char) : Bool :=
  isExtendingMark c || !isPrintable c

/-- The escaped form of one character inside a quoted diagnostic. -/
def debugEscape (c : Char) : List Char :=
  match c with
  | '"' => ['\\', '"']
  | '\\' => ['\\', '\\']
  | '\x00' => ['\\', '0']
  | '\n' => ['\\', 'n']
  | '\r' => ['\\', 'r']
  | '\t' => ['\\', 't']
  | c =>
    if isEscapedInDiagnostic c then ['\\', 'u', '{'] ++ hexDigits c.toNat ++ ['}'] else [c]

/-- The text between double quotes, as diagnostics quote it. -/
def debugQuote (s : String) : String :=
  String.ofList ('"' :: (s.toList.flatMap debugEscape ++ ['"']))

theorem jsonEscape_of_plain {c : Char} (h1 : 0x20 ≤ c.toNat) (h2 : c ≠ '"') (h3 : c ≠ '\\') :
    jsonEscape c = [c] := by
  unfold jsonEscape
  split <;> simp_all

end UaFlow.Text
