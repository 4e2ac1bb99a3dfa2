import UaFlow.Time.Civil
/-!
# Instants of universal time

An instant is a count of seconds from 1970-01-01T00:00:00Z and a count of nanoseconds into that
second. A leap second is held as the second before it with a nanosecond count of a billion or
more, so it is written as second `60` of its minute.

Instants are held from the first day of year -262143 to the last day of year 262142. They are
written in the RFC 3339 layout with milliseconds and the zone `Z`; a year outside `0..9999` gets
its sign and at least four digits.
-/

namespace UaFlow.Time

/-- Seconds since the epoch, and nanoseconds into the second (a billion or more in a leap second). -/
structure Instant where
  seconds : Int
  nanos : Nat
  deriving DecidableEq, Inhabited

/-- Milliseconds in a day. -/
def millisPerDay : Int := 86400000

/-- The first millisecond an instant can hold: the start of year -262143. -/
def minMillis : Int := (CivilDate.mk (-262143) 1 1).toDays * millisPerDay

/-- The last millisecond an instant can hold: the end of year 262142. -/
def maxMillis : Int := (CivilDate.mk 262143 1 1).toDays * millisPerDay - 1

/-- The instant a number of milliseconds after the epoch, when it can be held. -/
def Instant.ofMillis? (ms : Int) : Option Instant :=
  if minMillis ≤ ms ∧ ms ≤ maxMillis then
    some ⟨ms.fdiv 1000, (ms.fmod 1000).toNat * 1000000⟩
  else none

/-- The decimal digits of `n`, padded with zeros to `width`. -/
def padded (width n : Nat) : String :=
  let ds := (Nat.repr n).toList
  String.ofList (List.replicate (width - ds.length) '0' ++ ds)

/-- A year: four digits in `0..9999`, else a sign and at least four digits. -/
def yearText (y : Int) : String :=
  if 0 ≤ y ∧ y ≤ 9999 then padded 4 y.toNat
  else (if y < 0 then "-" else "+") ++ padded 4 y.natAbs

/-- The RFC 3339 text of an instant, with milliseconds (truncated) and the zone `Z`. -/
def Instant.render (t : Instant) : String :=
  let date := CivilDate.ofDays (t.seconds.fdiv 86400)
  let ofDay := (t.seconds.fmod 86400).toNat
  let leap := if t.nanos ≥ 1000000000 then 1 else 0
  yearText date.year ++ "-" ++ padded 2 date.month ++ "-" ++ padded 2 date.day ++ "T" ++
    padded 2 (ofDay / 3600) ++ ":" ++ padded 2 (ofDay / 60 % 60) ++ ":" ++
    padded 2 (ofDay % 60 + leap) ++ "." ++ padded 3 (t.nanos % 1000000000 / 1000000) ++ "Z"

end UaFlow.Time
