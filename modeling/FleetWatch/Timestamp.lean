import FleetWatch.Binary64.Decimal

/-! # Points in time

A timestamp counts seconds from the start of 1970 in Coordinated Universal Time, with a fraction
in nanoseconds. A fraction of a whole second or more stands for the leap second that follows the
counted one. Dates are those of the proleptic Gregorian calendar and reach from the year -262143
to the year 262142.
-/

namespace FleetWatch

structure Timestamp where
  /-- Seconds since the start of 1970, leap seconds not counted. -/
  seconds : Int
  /-- Nanoseconds behind that second; `10^9` and more are inside a leap second. -/
  nanos : Nat
  deriving Repr, DecidableEq, Inhabited

namespace Timestamp

def nanosPerSecond : Nat := 1000000000

def secondsPerDay : Nat := 86400

/-- Days since the start of 1970. -/
def day (t : Timestamp) : Int := t.seconds.fdiv secondsPerDay

def secondOfDay (t : Timestamp) : Nat := (t.seconds.fmod secondsPerDay).toNat

def le (a b : Timestamp) : Bool :=
  decide (a.seconds < b.seconds) || (a.seconds == b.seconds && decide (a.nanos ≤ b.nanos))

/-- The earlier of two, the first when they are equal. -/
def earlier (a b : Timestamp) : Timestamp := if le a b then a else b

/-- Nanoseconds from `b` to `a`. A leap second that lies between the two times of day counts,
whichever days they belong to. -/
def since (a b : Timestamp) : Int :=
  let leap : Int :=
    if b.secondOfDay < a.secondOfDay then (if nanosPerSecond ≤ b.nanos then 1 else 0)
    else if a.secondOfDay < b.secondOfDay then (if nanosPerSecond ≤ a.nanos then -1 else 0)
    else 0
  (a.seconds - b.seconds + leap) * nanosPerSecond + ((a.nanos : Int) - b.nanos)

structure Date where
  year : Int
  month : Nat
  day : Nat
  deriving Repr, DecidableEq

/-- The date of a day counted from the start of 1970. Years are taken from March to February, so
that the leap day is the last of its year; 400 of them make 146097 days. -/
def Date.ofDay (day : Int) : Date :=
  let shifted := day + 719468
  let era := shifted.fdiv 146097
  let dayOfEra := (shifted.fmod 146097).toNat
  let yearOfEra :=
    (dayOfEra - dayOfEra / 1460 + dayOfEra / 36524 - dayOfEra / 146096) / 365
  let dayOfYear := dayOfEra - (365 * yearOfEra + yearOfEra / 4 - yearOfEra / 100)
  let fromMarch := (5 * dayOfYear + 2) / 153
  let month := if fromMarch < 10 then fromMarch + 3 else fromMarch - 9
  let year := era * 400 + yearOfEra
  ⟨if month ≤ 2 then year + 1 else year, month, dayOfYear - (153 * fromMarch + 2) / 5 + 1⟩

/-- The first day of the calendar, 1 January of the year -262143. -/
def firstDay : Int := -96465292

/-- The last day of the calendar, 31 December of the year 262142. -/
def lastDay : Int := 95026236

/-- The time so many nanoseconds later, if the calendar reaches it. A move that stays inside a
leap second keeps it; any other leaves it behind. -/
def add? (t : Timestamp) (nanos : Int) : Option Timestamp :=
  let whole := nanos.tdiv nanosPerSecond
  let part := nanos.tmod nanosPerSecond
  let inLeap := nanosPerSecond ≤ t.nanos
  if inLeap ∧ whole = 0 ∧ ¬(0 < part ∧ 2 * (nanosPerSecond : Int) - part ≤ t.nanos) then
    let moved := (t.nanos : Int) + part
    some ⟨t.seconds, moved.toNat⟩
  else
    let leaves := if inLeap ∧ whole < 0 then t.seconds + 1 else t.seconds
    let base : Int := if inLeap then (t.nanos : Int) - nanosPerSecond else t.nanos
    let total := base + part
    let moved : Timestamp :=
      ⟨leaves + whole + total.fdiv nanosPerSecond, (total.fmod nanosPerSecond).toNat⟩
    if firstDay ≤ moved.day ∧ moved.day ≤ lastDay then some moved else none

/-- Hours, minutes and seconds of the day; a leap second is the sixtieth. -/
def clock (t : Timestamp) : Nat × Nat × Nat :=
  let s := t.secondOfDay
  (s / 3600, s / 60 % 60, s % 60 + t.nanos / nanosPerSecond)

/-- The time of day as `HH:MM:SS`. -/
def clockText (t : Timestamp) : String :=
  let (h, m, s) := t.clock
  String.ofList (Digits.padded 2 h ++ ':' :: Digits.padded 2 m ++ ':' :: Digits.padded 2 s)

/-- A year with four digits, beyond 0 to 9999 with a sign and as many digits as it takes. -/
def yearText (year : Int) : List Char :=
  if 0 ≤ year ∧ year ≤ 9999 then Digits.padded 4 year.toNat
  else (if year < 0 then '-' else '+') :: Digits.padded 4 year.natAbs

/-- A fraction of a second with three, six or nine digits, the fewest that are exact; a whole
second has none. -/
def fractionText (nanos : Nat) : List Char :=
  if nanos = 0 then []
  else if nanos % 1000000 = 0 then '.' :: Digits.padded 3 (nanos / 1000000)
  else if nanos % 1000 = 0 then '.' :: Digits.padded 6 (nanos / 1000)
  else '.' :: Digits.padded 9 nanos

/-- The text of RFC 3339, with the given mark for the zone at its end. -/
def rfc3339 (zone : String) (t : Timestamp) : String :=
  let date := Date.ofDay t.day
  String.ofList
    (yearText date.year ++ '-' :: Digits.padded 2 date.month ++ '-' :: Digits.padded 2 date.day ++
      'T' :: t.clockText.toList ++ fractionText (t.nanos % nanosPerSecond) ++ zone.toList)

end Timestamp

end FleetWatch
