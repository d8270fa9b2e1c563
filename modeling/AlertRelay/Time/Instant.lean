/-!
# Instants

An instant is a second of the UTC day count and a fraction in nanoseconds; during a leap second the
fraction is a thousand million or more. Dates follow the proleptic Gregorian calendar, for the years
`-262143` to `262142`.
-/

namespace AlertRelay

/-- A calendar date. -/
structure Date where
  year : Int
  month : Nat
  day : Nat
  deriving DecidableEq, Inhabited

/-- A point in time: seconds since 1970-01-01T00:00:00Z, and a fraction. -/
structure Instant where
  seconds : Int
  nanos : Nat
  deriving DecidableEq, Inhabited

namespace Date

/-- The first year that dates reach. -/
def minYear : Int := -262143

/-- The last year that dates reach. -/
def maxYear : Int := 262142

/-- Whether a year has a 29th of February. -/
def isLeap (year : Int) : Bool :=
  year % 4 == 0 && (year % 100 != 0 || year % 400 == 0)

/-- The number of days of a month. -/
def monthLength (year : Int) (month : Nat) : Nat :=
  if month = 2 then (if isLeap year then 29 else 28)
  else if month = 4 ∨ month = 6 ∨ month = 9 ∨ month = 11 then 30
  else 31

/-- The date of a year, month and day, if there is one. -/
def ofParts? (year : Int) (month day : Nat) : Option Date :=
  if minYear ≤ year ∧ year ≤ maxYear ∧ 1 ≤ month ∧ month ≤ 12 ∧ 1 ≤ day ∧
      day ≤ monthLength year month then
    some ⟨year, month, day⟩
  else none

/-- The days from 1970-01-01 to a date. Years are counted from March, so that the leap day is the
last of its year. -/
def dayNumber (d : Date) : Int :=
  let year := if d.month ≤ 2 then d.year - 1 else d.year
  let era := year / 400
  let yearOfEra := year % 400
  let month : Int := if 2 < d.month then (d.month : Int) - 3 else (d.month : Int) + 9
  let dayOfYear := (153 * month + 2) / 5 + d.day - 1
  let dayOfEra := yearOfEra * 365 + yearOfEra / 4 - yearOfEra / 100 + dayOfYear
  era * 146097 + dayOfEra - 719468

/-- The date a number of days after 1970-01-01. -/
def ofDayNumber (days : Int) : Date :=
  let shifted := days + 719468
  let era := shifted / 146097
  let dayOfEra := shifted % 146097
  let yearOfEra := (dayOfEra - dayOfEra / 1460 + dayOfEra / 36524 - dayOfEra / 146096) / 365
  let dayOfYear := dayOfEra - (365 * yearOfEra + yearOfEra / 4 - yearOfEra / 100)
  let month := (5 * dayOfYear + 2) / 153
  let day := dayOfYear - (153 * month + 2) / 5 + 1
  let civilMonth := if month < 10 then month + 3 else month - 9
  let year := yearOfEra + era * 400 + (if civilMonth ≤ 2 then 1 else 0)
  ⟨year, civilMonth.toNat, day.toNat⟩

end Date

namespace Instant

/-- The first second that instants reach. -/
def minSeconds : Int := (Date.mk Date.minYear 1 1).dayNumber * 86400

/-- The last second that instants reach. -/
def maxSeconds : Int := (Date.mk Date.maxYear 12 31).dayNumber * 86400 + 86399

/-- The instant of a second and a fraction, if instants reach it. -/
def ofSeconds? (seconds : Int) (nanos : Nat) : Option Instant :=
  if minSeconds ≤ seconds ∧ seconds ≤ maxSeconds then some ⟨seconds, nanos⟩ else none

/-- The instant a number of milliseconds after 1970, if instants reach it. -/
def ofMillis? (millis : Int) : Option Instant :=
  ofSeconds? (millis / 1000) ((millis % 1000).toNat * 1000000)

/-- The seconds from 1970 to 2000. -/
def millennium : Int := 946684800

/-- The whole microseconds from 2000 to an instant; finer digits are dropped towards zero. -/
def microsSinceMillennium (i : Instant) : Int :=
  Int.tdiv ((i.seconds - millennium) * 1000000000 + i.nanos) 1000

/-- The instant a number of microseconds after 2000. -/
def ofMicrosSinceMillennium (micros : Int) : Instant :=
  ⟨millennium + micros / 1000000, (micros % 1000000).toNat * 1000⟩

end Instant

end AlertRelay
