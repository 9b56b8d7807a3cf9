import OpeningHours.Calendar.Civil
import OpeningHours.Journal
import OpeningHours.Json.Value
import OpeningHours.Schedule.Notation
import OpeningHours.Text

/-!
# OpeningHours — structured hours

A provider may publish a schedule as records, one per day, with up to four boundaries. A boundary is
an instant, given in milliseconds, or a text: a clock with or without seconds, or a date and time in
RFC 3339 notation. An instant stands for the time that clocks in the agency's zone show.

The records are written as a schedule text, Monday first: the first record of a day counts, a day
without one is closed, and a record whose day is not known is passed over with a warning.

* `Boundary.time?`      — the time of day that a boundary stands for.
* `DayRecord.ranges`    — the ranges that a record gives.
* `textOfRecords`       — the schedule text of records.
* `unknownDayEntries`   — the warnings about records without a day.
-/

namespace OpeningHours.Schedule

-- ---------------------------------------------------------------------------
-- Boundaries
-- ---------------------------------------------------------------------------

/-- A boundary as it is recorded. -/
inductive Boundary where
  | millis (ms : Int)
  | text (s : String)
deriving DecidableEq

/-- Reads a number of one or two digits, blanks in front of it allowed. -/
def readClockNumber (cs : List Char) : Option (Nat × List Char) :=
  Text.readUpTo 2 (Text.trimStart cs)

/-- The time of a clock without seconds. -/
def timeOfShortClock? (cs : List Char) : Option TimeOfDay := do
  let (hour, rest) ← readClockNumber cs
  let (minute, rest) ← readClockNumber (← Text.expect ':' rest)
  if rest.isEmpty then TimeOfDay.ofClock? hour minute else none

/-- The time of a clock with seconds, sixty of them allowed. -/
def timeOfLongClock? (cs : List Char) : Option TimeOfDay := do
  let (hour, rest) ← readClockNumber cs
  let (minute, rest) ← readClockNumber (← Text.expect ':' rest)
  let (second, rest) ← readClockNumber (← Text.expect ':' rest)
  if rest.isEmpty ∧ second ≤ 60 then TimeOfDay.ofClock? hour minute else none

/-- The time that a text without blanks around it stands for. -/
def timeOfText? (zone : Zone) (cs : List Char) : Option TimeOfDay :=
  match timeOfShortClock? cs with
  | some t => some t
  | none =>
    match timeOfLongClock? cs with
    | some t => some t
    | none => (Calendar.instantOfRfc3339? cs).bind zone.timeAt?

namespace Boundary

/-- The time of day that a boundary stands for in a zone. -/
def time? (zone : Zone) : Boundary → Option TimeOfDay
  | millis ms => (Instant.ofMillis? ms).bind zone.timeAt?
  | text s => timeOfText? zone (Text.trim s.toList)

/-- The boundary that a JSON value gives: an integer of one word, or a text. -/
def ofValue? : Json.Value → Option Boundary
  | .number (.integer n) => if Decimal.fitsSigned n then some (millis n) else none
  | .string s => some (text s)
  | _ => none

end Boundary

-- ---------------------------------------------------------------------------
-- Records
-- ---------------------------------------------------------------------------

/-- The hours of one day as they are recorded. -/
structure DayRecord where
  day : String
  firstStart : Option Boundary
  firstStop : Option Boundary
  secondStart : Option Boundary
  secondStop : Option Boundary
deriving DecidableEq

namespace DayRecord

/-- The names of a record's fields. -/
def fieldNames : List (List String) :=
  [["day", "jour", "JOUR"],
   ["first_start", "debut_matin", "DEBUT_MATIN"],
   ["first_end", "fin_matin", "FIN_MATIN"],
   ["second_start", "debut_apres_midi", "DEBUT_APRES_MIDI"],
   ["second_end", "fin_apres_midi", "FIN_APRES_MIDI"]]

/-- The day of a record, empty if it is left out. -/
def day? : Option Json.Value → Option String
  | none => some ""
  | some v => v.string?

/-- The record that a JSON value gives. -/
def ofValue? (v : Json.Value) : Option DayRecord := do
  match ← v.fields? 0 fieldNames with
  | [day, firstStart, firstStop, secondStart, secondStop] =>
    some ⟨← day? day,
      ← Json.optional? Boundary.ofValue? firstStart, ← Json.optional? Boundary.ofValue? firstStop,
      ← Json.optional? Boundary.ofValue? secondStart, ← Json.optional? Boundary.ofValue? secondStop⟩
  | _ => none

/-- The ranges between boundaries: from the first to the last one on a day without a break, else
the halves of the day that have both boundaries. -/
def rangesBetween :
    (firstStart firstStop secondStart secondStop : Option TimeOfDay) → List (TimeOfDay × TimeOfDay)
  | some a, none, none, some d => [(a, d)]
  | some a, some b, some c, some d => [(a, b), (c, d)]
  | some a, some b, _, _ => [(a, b)]
  | _, _, some c, some d => [(c, d)]
  | _, _, _, _ => []

/-- The ranges of a record, whether or not their times are in order. -/
def ranges (zone : Zone) (r : DayRecord) : List (TimeOfDay × TimeOfDay) :=
  rangesBetween (r.firstStart.bind (Boundary.time? zone)) (r.firstStop.bind (Boundary.time? zone))
    (r.secondStart.bind (Boundary.time? zone)) (r.secondStop.bind (Boundary.time? zone))

/-- The weekday that a record is for. -/
def weekday? (r : DayRecord) : Option Weekday :=
  Weekday.ofKey? r.day.toList

end DayRecord

/-- The first record of a day. -/
def recordOf? (records : List DayRecord) (d : Weekday) : Option DayRecord :=
  records.find? fun r => decide (r.weekday? = some d)

/-- The ranges that records give for a day. -/
def rangesOf (zone : Zone) (records : List DayRecord) (d : Weekday) :
    List (TimeOfDay × TimeOfDay) :=
  match recordOf? records d with
  | some r => r.ranges zone
  | none => []

/-- The schedule text of records. -/
def textOfRecords (zone : Zone) (records : List DayRecord) : List Char :=
  ofLines (Weekday.mondayFirst.map fun d => dayLine d (rangesOf zone records d))

/-- The warning about a record whose day is not known. -/
def unknownDayEntry (r : DayRecord) : Journal.Entry where
  level := .warning
  source := .schedule
  subject := none
  message := "Skipping structured hours with unknown day '" ++ r.day ++ "'"

/-- The warnings about records whose days are not known, in order. -/
def unknownDayEntries (records : List DayRecord) : List Journal.Entry :=
  (records.filter fun r => r.weekday?.isNone).map unknownDayEntry

end OpeningHours.Schedule
