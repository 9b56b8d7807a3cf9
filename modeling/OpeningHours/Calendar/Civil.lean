import OpeningHours.Calendar.Zone
import OpeningHours.Text

/-!
# OpeningHours — dates and instants

Dates of the Gregorian calendar, carried back before its introduction, and their distance in days
from 1 January 1970. The journal and the audit write the date and time of an instant in UTC.

In RFC 3339 notation an instant is a date with four-digit year, one of `T`, `t` and a space, a time
with seconds and perhaps a fraction, and the offset from UTC: `Z`, `z`, or a sign with hours and
minutes, where the minus sign may also be `U+2212`. A sixtieth second stands for the second before
it.

* `stamp`     — for the journal, to the second.
* `timestamp` — for the audit, in RFC 3339 notation.
-/

namespace OpeningHours.Calendar

-- ---------------------------------------------------------------------------
-- Dates
-- ---------------------------------------------------------------------------

/-- The year has a 29 February. -/
def isLeapYear (y : Nat) : Bool :=
  y % 4 = 0 && (y % 100 ≠ 0 || y % 400 = 0)

/-- The days of a month, none for a number that is no month. -/
def daysInMonth (y m : Nat) : Nat :=
  match m with
  | 1 | 3 | 5 | 7 | 8 | 10 | 12 => 31
  | 4 | 6 | 9 | 11 => 30
  | 2 => if isLeapYear y then 29 else 28
  | _ => 0

/-- The date is one of the calendar. -/
def isDate (y m d : Nat) : Bool :=
  1 ≤ d && d ≤ daysInMonth y m

/-- The days from 1 January of year 0 to 1 January of a year. -/
def daysBeforeYear (y : Nat) : Nat :=
  365 * y + (y + 3) / 4 - (y + 99) / 100 + (y + 399) / 400

/-- The days from 1 January to the first of a month of one year. -/
def daysBeforeMonth (y m : Nat) : Nat :=
  (List.range (m - 1)).foldl (fun days k => days + daysInMonth y (k + 1)) 0

/-- The days from 1 January 1970 to a date. -/
def epochDay (y m d : Nat) : Int :=
  -- the days before 1970, and one more because days are counted from one
  (daysBeforeYear y + daysBeforeMonth y m + d : Nat) - (719529 : Int)

example : epochDay 1970 1 1 = 0 := by decide

/-- A year is followed by the next one after 365 days, or 366 in a leap year. -/
theorem daysBeforeYear_succ (y : Nat) :
    daysBeforeYear (y + 1) = daysBeforeYear y + if isLeapYear y then 366 else 365 := by
  have h4 : (y + 1 + 3) / 4 = (y + 3) / 4 + if y % 4 = 0 then 1 else 0 := by split <;> omega
  have h100 : (y + 1 + 99) / 100 = (y + 99) / 100 + if y % 100 = 0 then 1 else 0 := by
    split <;> omega
  have h400 : (y + 1 + 399) / 400 = (y + 399) / 400 + if y % 400 = 0 then 1 else 0 := by
    split <;> omega
  have hle : (y + 99) / 100 ≤ 365 * y + (y + 3) / 4 := by omega
  simp only [daysBeforeYear, isLeapYear, h4, h100, h400]
  by_cases d4 : y % 4 = 0
  · by_cases d100 : y % 100 = 0
    · by_cases d400 : y % 400 = 0 <;> simp [d4, d100, d400] <;> omega
    · have d400 : y % 400 ≠ 0 := by omega
      simp [d4, d100, d400]
      omega
  · have d100 : y % 100 ≠ 0 := by omega
    have d400 : y % 400 ≠ 0 := by omega
    simp [d4, d100, d400]
    omega

-- ---------------------------------------------------------------------------
-- Stamps
-- ---------------------------------------------------------------------------

/-- A date of the Gregorian calendar. -/
structure Date where
  year : Int
  month : Nat
  day : Nat
deriving DecidableEq

/-- The year of a day in an era of 400 years that begins on 1 March. -/
def yearOfEra (day : Nat) : Nat :=
  (day - day / 1460 + day / 36524 - day / 146096) / 365

/-- The month of a day in a year that begins on 1 March, counted from March. -/
def monthFromMarch (day : Nat) : Nat :=
  (5 * day + 2) / 153

/-- The days from 1 March to the first of a month, counted from March. -/
def daysFromMarch (month : Nat) : Nat :=
  -- five months from March or August on have 153 days
  (153 * month + 2) / 5

/-- The date so many days after 1 January 1970. Years are counted from March on, so that a leap day
ends its year. -/
def dateOfDay (epochDay : Int) : Date :=
  -- days since 1 March of year 0, in eras of 400 years
  let day := epochDay + 719468
  let dayOfEra := (day % 146097).toNat
  let year := yearOfEra dayOfEra
  let dayOfYear := dayOfEra - (365 * year + year / 4 - year / 100)
  let fromMarch := monthFromMarch dayOfYear
  let month := if fromMarch < 10 then fromMarch + 3 else fromMarch - 9
  { year := year + day / 146097 * 400 + if month ≤ 2 then 1 else 0
    month := month
    day := dayOfYear - daysFromMarch fromMarch + 1 }

example : dateOfDay 0 = ⟨1970, 1, 1⟩ := by decide

/-- A number with zeros in front of it up to a width. -/
def padded (width n : Nat) : String :=
  let ds := Nat.toDigits 10 n
  String.ofList (List.replicate (width - ds.length) '0' ++ ds)

/-- A year of four digits, with a sign where that is not enough. -/
def yearText (y : Int) : String :=
  if y < 0 then "-" ++ padded 4 y.natAbs
  else if 9999 < y then "+" ++ padded 4 y.natAbs
  else padded 4 y.natAbs

/-- The date of an instant in UTC. -/
def dateText (t : Instant) : String :=
  let d := dateOfDay (t.seconds / 86400)
  yearText d.year ++ "-" ++ padded 2 d.month ++ "-" ++ padded 2 d.day

/-- The time of an instant in UTC, to the second. -/
def clockText (t : Instant) : String :=
  let second := (t.seconds % 86400).toNat
  padded 2 (second / 3600) ++ ":" ++ padded 2 (second / 60 % 60) ++ ":" ++ padded 2 (second % 60)

/-- The fraction of a second, where there is one. -/
def fractionText (t : Instant) : String :=
  let ms := (t.millis % 1000).toNat
  if ms = 0 then "" else "." ++ padded 3 ms

/-- The stamp of an entry of the journal. -/
def stamp (t : Instant) : String :=
  dateText t ++ " " ++ clockText t ++ " UTC"

/-- The stamp of an audit. -/
def timestamp (t : Instant) : String :=
  dateText t ++ "T" ++ clockText t ++ fractionText t ++ "+00:00"

-- ---------------------------------------------------------------------------
-- RFC 3339 notation
-- ---------------------------------------------------------------------------

open OpeningHours.Text (readDigits expect leadingDigits afterDigits number)

/-- Reads the mark between date and time. -/
def readDateMark : List Char → Option (List Char)
  | [] => none
  | c :: rest => if c = 'T' ∨ c = 't' ∨ c = ' ' then some rest else none

/-- The milliseconds that the digits of a fraction of a second write, cut after the third. -/
def fractionMillis (digits : List Char) : Nat :=
  number ((digits ++ ['0', '0', '0']).take 3)

/-- Reads the fraction of a second, none written being zero. -/
def readFraction : List Char → Option (Nat × List Char)
  | '.' :: rest =>
    match leadingDigits rest with
    | [] => none
    | digits => some (fractionMillis digits, afterDigits rest)
  | rest => some (0, rest)

/-- Reads hours and minutes of an offset, as minutes. -/
def readOffsetSize (cs : List Char) : Option (Int × List Char) := do
  let (hours, rest) ← readDigits 2 cs
  let rest ← expect ':' rest
  let (minutes, rest) ← readDigits 2 rest
  if hours < 24 ∧ minutes < 60 then some (hours * 60 + minutes, rest) else none

/-- Reads an offset from UTC, as minutes. -/
def readOffset : List Char → Option (Int × List Char)
  | [] => none
  | c :: rest =>
    if c = 'Z' ∨ c = 'z' then some (0, rest)
    else if c = '+' then readOffsetSize rest
    else if c = '-' ∨ c = '\u2212' then (readOffsetSize rest).map fun (m, rest) => (-m, rest)
    else none

/-- Reads a date and a time with its offset, as milliseconds since 1970. -/
def readRfc3339 (cs : List Char) : Option (Int × List Char) := do
  let (year, rest) ← readDigits 4 cs
  let rest ← expect '-' rest
  let (month, rest) ← readDigits 2 rest
  let rest ← expect '-' rest
  let (day, rest) ← readDigits 2 rest
  let rest ← readDateMark rest
  let (hour, rest) ← readDigits 2 rest
  let rest ← expect ':' rest
  let (minute, rest) ← readDigits 2 rest
  let rest ← expect ':' rest
  let (second, rest) ← readDigits 2 rest
  let (fraction, rest) ← readFraction rest
  let (offset, rest) ← readOffset rest
  if isDate year month day ∧ hour < 24 ∧ minute < 60 ∧ second ≤ 60 then
    let clock : Int := (hour * 60 + minute : Nat)
    let minutes : Int := epochDay year month day * 1440 + clock - offset
    some ((minutes * 60 + (min second 59 : Nat)) * 1000 + fraction, rest)
  else none

/-- The instant that a whole text names in RFC 3339 notation. -/
def instantOfRfc3339? (cs : List Char) : Option Instant :=
  match readRfc3339 cs with
  | some (ms, []) => Instant.ofMillis? ms
  | _ => none

end OpeningHours.Calendar
