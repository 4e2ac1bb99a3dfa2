import UaFlow.Time.Instant
/-!
# Reading RFC 3339 stamps

A stamp is `YYYY-MM-DD`, a `T`, `t` or space, `hh:mm:ss`, an optional fraction of one or more
digits (past the ninth they are skipped), and a zone: `Z`, `z`, or a sign (`+`, `-` or the minus
sign U+2212) with `hh:mm` no further than 23:59 from universal time.

The text is read byte by byte from the left, and the first fault met is the one reported. A text
shorter than the shortest possible stamp (19 bytes) ends too soon before anything is read. The
date is checked as soon as it has been read: a month or day that the calendar does not have is
out of range, before the rest is looked at. The time of day is read as digits, with its fraction,
and then checked against its ranges. The zone is read as digits too: text after it is trailing
input, and only then is the zone checked against its range.
-/

namespace UaFlow.Time

/-- Why a text is not a stamp. -/
inductive StampError where
  | tooShort
  | invalid
  | outOfRange
  | trailing
  deriving DecidableEq, Inhabited

/-- The message of a stamp error. -/
def StampError.message : StampError → String
  | .tooShort => "premature end of input"
  | .invalid => "input contains invalid characters"
  | .outOfRange => "input is out of range"
  | .trailing => "trailing input"

/-- A byte that is an ASCII digit. -/
def isDigitByte (b : UInt8) : Bool :=
  48 ≤ b ∧ b ≤ 57

/-- The value of a run of ASCII digits. -/
def digitsValue (bs : List UInt8) : Nat :=
  bs.foldl (fun n b => n * 10 + (b.toNat - 48)) 0

/-- Reads at least `least` and at most `most` digits. -/
def readNumber (least most : Nat) (bs : List UInt8) : Except StampError (Nat × List UInt8) :=
  if bs.length < least then .error .tooShort
  else
    let ds := (bs.take most).takeWhile isDigitByte
    if ds.length < least then .error .invalid else .ok (digitsValue ds, bs.drop ds.length)

/-- Reads one given byte. -/
def readByte (c : UInt8) : List UInt8 → Except StampError (List UInt8)
  | [] => .error .tooShort
  | b :: rest => if b = c then .ok rest else .error .invalid

/-- Fails as out of range unless a field is within its bounds. -/
def checkRange (lo hi n : Nat) : Except StampError Unit :=
  if lo ≤ n ∧ n ≤ hi then .ok () else .error .outOfRange

/-- Reads the digits of a fraction as nanoseconds, skipping those past the ninth. -/
def readFraction (bs : List UInt8) : Except StampError (Nat × List UInt8) := do
  let (n, rest) ← readNumber 1 9 bs
  let used := bs.length - rest.length
  return (n * Nat.pow 10 (9 - used), rest.dropWhile isDigitByte)

/-- The bytes of the minus sign U+2212. -/
def minusSignBytes : List UInt8 := [0xE2, 0x88, 0x92]

/-- The largest distance of a zone from universal time, in seconds. -/
def maxZoneSeconds : Nat := (23 * 60 + 59) * 60

/-- Reads a zone as its signed offset in seconds east of universal time. -/
def readZone (bs : List UInt8) : Except StampError (Int × List UInt8) := do
  match bs with
  | [] => .error .tooShort
  | b :: rest =>
    if b = 90 ∨ b = 122 then return (0, rest)
    let (negative, afterSign) ←
      if b = 43 then pure (false, rest)
      else if b = 45 then pure (true, rest)
      else if minusSignBytes.isPrefixOf bs then pure (true, bs.drop 3)
      else .error .invalid
    match afterSign with
    | h1 :: h2 :: afterHours =>
      unless isDigitByte h1 ∧ isDigitByte h2 do .error .invalid
      let hours := digitsValue [h1, h2]
      let afterColon ← readByte 58 afterHours
      match afterColon with
      | m1 :: m2 :: afterMinutes =>
        unless isDigitByte m1 ∧ isDigitByte m2 do .error .invalid
        if m1 ≥ 54 then .error .outOfRange
        let seconds := hours * 3600 + digitsValue [m1, m2] * 60
        return (if negative then -(seconds : Int) else seconds, afterMinutes)
      | _ => .error .tooShort
    | _ => .error .tooShort

/-- Reads an RFC 3339 stamp as the instant it names. -/
def Instant.ofRfc3339 (s : String) : Except StampError Instant := do
  let bs := s.toUTF8.toList
  if bs.length < 19 then .error .tooShort
  let (year, bs) ← readNumber 4 4 bs
  let bs ← readByte 45 bs
  let (month, bs) ← readNumber 2 2 bs
  let bs ← readByte 45 bs
  let (day, bs) ← readNumber 2 2 bs
  let date : CivilDate := ⟨year, month, day⟩
  unless date.isValid do .error .outOfRange
  let bs ← match bs with
    | [] => .error .tooShort
    | b :: rest => if b = 84 ∨ b = 116 ∨ b = 32 then pure rest else .error .invalid
  let (hour, bs) ← readNumber 2 2 bs
  let bs ← readByte 58 bs
  let (minute, bs) ← readNumber 2 2 bs
  let bs ← readByte 58 bs
  let (second, bs) ← readNumber 2 2 bs
  let (nanos, bs) ← match bs with
    | 46 :: rest => readFraction rest
    | _ => pure (0, bs)
  checkRange 0 23 hour
  checkRange 0 59 minute
  checkRange 0 60 second
  let (zone, bs) ← readZone bs
  unless bs.isEmpty do .error .trailing
  if zone.natAbs > maxZoneSeconds then .error .outOfRange
  let leap := second = 60
  let wallClock := date.toDays * 86400 + (hour * 3600 + minute * 60 + (if leap then 59 else second) : Nat)
  return ⟨wallClock - zone, if leap then nanos + 1000000000 else nanos⟩

end UaFlow.Time
