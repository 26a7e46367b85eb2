/-!
# Instants, calendar dates and their text

An `Instant` is a count of nanoseconds from 1970-01-01T00:00:00Z; all instants are read and
written in UTC. `Civil` is the same point as calendar fields of the proleptic Gregorian calendar.

Text forms:

* `Instant.rfc3339` — `2024-03-01T08:00:00Z`, whole seconds;
* `Instant.rfc3339Nano` — `2024-03-01T08:00:00.5Z`, the fraction without trailing zeros, as
  JSON writes a time;
* `Instant.stored` — `2024-03-01T08:00:00.000000Z`, fixed width, so that text order is time order;
* `Instant.dateText` — `2024-03-01`;
* `Instant.spaced` — `2024-03-01 08:00:00`.
-/

namespace CreditExtraction.Time

/-- Nanoseconds since 1970-01-01T00:00:00Z. -/
structure Instant where
  nanos : Int
deriving Repr, DecidableEq, Inhabited, Ord

instance : LT Instant := ⟨fun a b => a.nanos < b.nanos⟩
instance : LE Instant := ⟨fun a b => a.nanos ≤ b.nanos⟩
instance (a b : Instant) : Decidable (a < b) := inferInstanceAs (Decidable (a.nanos < b.nanos))
instance (a b : Instant) : Decidable (a ≤ b) := inferInstanceAs (Decidable (a.nanos ≤ b.nanos))

/-- Nanoseconds in a second. -/
def nanosPerSecond : Int := 1000000000

/-- A span of time in nanoseconds. -/
abbrev Duration := Int

/-- `n` seconds as a duration. -/
def seconds (n : Int) : Duration := n * nanosPerSecond

/-- A count of nanoseconds wrapped to 64 bits, as arithmetic on durations wraps. -/
def wrapNanos (n : Int) : Int := (n + Int.pow 2 63) % Int.pow 2 64 - Int.pow 2 63

/-- The instant `d` after `t`. -/
def Instant.add (t : Instant) (d : Duration) : Instant := ⟨t.nanos + d⟩

/-- The duration from `a` to `b`. -/
def Instant.sub (b a : Instant) : Duration := b.nanos - a.nanos

/-- The zero instant of the calendar's reckoning, 0001-01-01T00:00:00Z. -/
def Instant.zero : Instant := ⟨-62135596800 * 1000000000⟩

/-- Calendar fields of an instant. -/
structure Civil where
  year : Int
  month : Nat
  day : Nat
  hour : Nat
  minute : Nat
  second : Nat
  nano : Nat
deriving Repr, DecidableEq, Inhabited

/-- Is `y` a leap year? -/
def isLeap (y : Int) : Bool := y % 4 == 0 && (y % 100 != 0 || y % 400 == 0)

/-- The number of days of month `m` in year `y`. -/
def daysIn (m : Nat) (y : Int) : Nat :=
  if m == 2 then (if isLeap y then 29 else 28)
  else if m == 4 || m == 6 || m == 9 || m == 11 then 30
  else 31

/-- Days from 1970-01-01 to the given date. Years are counted from March, so that the leap day
ends a year, and grouped in eras of 400 years (146097 days); `/` rounds down, so that years
before 0 fall into negative eras. -/
def daysFromCivil (y : Int) (m d : Nat) : Int :=
  let y := if m ≤ 2 then y - 1 else y
  let era := y / 400
  let yoe := y - era * 400
  let mp : Int := ((m : Int) + 9) % 12
  let doy := (153 * mp + 2) / 5 + (d : Int) - 1
  let doe := yoe * 365 + yoe / 4 - yoe / 100 + doy
  era * 146097 + doe - 719468

/-- The date of a day count from 1970-01-01: the inverse of `daysFromCivil`. -/
def civilFromDays (z : Int) : Int × Nat × Nat :=
  let z := z + 719468
  let era := z / 146097
  let doe := z - era * 146097
  let yoe := (doe - doe / 1460 + doe / 36524 - doe / 146096) / 365
  let y := yoe + era * 400
  let doy := doe - (365 * yoe + yoe / 4 - yoe / 100)
  let mp := (5 * doy + 2) / 153
  let d := doy - (153 * mp + 2) / 5 + 1
  let m := if mp < 10 then mp + 3 else mp - 9
  (if m ≤ 2 then y + 1 else y, m.toNat, d.toNat)

/-- The calendar fields of an instant (UTC). -/
def Instant.toCivil (t : Instant) : Civil :=
  let secs := Int.fdiv t.nanos nanosPerSecond
  let nano := Int.fmod t.nanos nanosPerSecond
  let days := Int.fdiv secs 86400
  let rem := Int.fmod secs 86400
  let (y, m, d) := civilFromDays days
  ⟨y, m, d, (rem / 3600).toNat, (rem % 3600 / 60).toNat, (rem % 60).toNat, nano.toNat⟩

/-- The instant of calendar fields (UTC). -/
def Civil.toInstant (c : Civil) : Instant :=
  let days := daysFromCivil c.year c.month c.day
  let secs := days * 86400 + (c.hour : Int) * 3600 + (c.minute : Int) * 60 + c.second
  ⟨secs * nanosPerSecond + c.nano⟩

/-- `n` as at least `width` decimal digits. -/
def padNat (width n : Nat) : String :=
  let s := toString n
  String.ofList (List.replicate (width - s.length) '0') ++ s

/-- A year as at least four digits, with a sign when negative. -/
def yearText (y : Int) : String :=
  if y < 0 then "-" ++ padNat 4 y.natAbs else padNat 4 y.toNat

/-- `2024-03-01`. -/
def Civil.dateText (c : Civil) : String :=
  yearText c.year ++ "-" ++ padNat 2 c.month ++ "-" ++ padNat 2 c.day

/-- `08:00:00`. -/
def Civil.clockText (c : Civil) : String :=
  padNat 2 c.hour ++ ":" ++ padNat 2 c.minute ++ ":" ++ padNat 2 c.second

/-- RFC 3339 in UTC with whole seconds: `2024-03-01T08:00:00Z`. -/
def Instant.rfc3339 (t : Instant) : String :=
  let c := t.toCivil
  c.dateText ++ "T" ++ c.clockText ++ "Z"

/-- A fraction of a second as RFC 3339 with nanoseconds writes it: nine digits with the
trailing zeros dropped, and nothing for a whole second. -/
def fractionText (nano : Nat) : String :=
  let ds := ((padNat 9 nano).toList.reverse.dropWhile (· == '0')).reverse
  if ds.isEmpty then "" else "." ++ String.ofList ds

/-- RFC 3339 in UTC with the fraction of a second: `2024-03-01T08:00:00.5Z`. -/
def Instant.rfc3339Nano (t : Instant) : String :=
  let c := t.toCivil
  c.dateText ++ "T" ++ c.clockText ++ fractionText c.nano ++ "Z"

/-- The stored form with microseconds: `2024-03-01T08:00:00.000000Z`. -/
def Instant.stored (t : Instant) : String :=
  let c := t.toCivil
  c.dateText ++ "T" ++ c.clockText ++ "." ++ padNat 6 (c.nano / 1000) ++ "Z"

/-- The calendar date: `2024-03-01`. -/
def Instant.dateText (t : Instant) : String := t.toCivil.dateText

/-- Date and time separated by a blank: `2024-03-01 08:00:00`. -/
def Instant.spaced (t : Instant) : String :=
  let c := t.toCivil
  c.dateText ++ " " ++ c.clockText

/-- The instant truncated to whole microseconds (towards the past). -/
def Instant.truncMicros (t : Instant) : Instant := ⟨Int.fdiv t.nanos 1000 * 1000⟩

end CreditExtraction.Time
