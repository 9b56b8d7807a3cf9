import OpeningHours.TimeOfDay

/-!
# OpeningHours — instants and time zones

An instant is a count of milliseconds since 1970 within the range of dates that can be shown. A time
zone gives every instant an offset from UTC, and with it a day and a clock. The moment of the local
week is read off these two: the weekday by its short name, the time from hours and minutes. Which
zones there are is a table that is given; of its zones only that of New Caledonia is described here,
where the directory's agencies are.

* `Zone.momentAt` — the local moment of the week at an instant.
* `ZoneTable`     — the zones that may be named.

## Results

* `Zone.weekdayAt_eq`, `Zone.timeAt?_eq` — the name and the numbers that a clock shows are
  understood.
* `Zone.momentAt_eq` — the moment at an instant is the local minute of the week, where the count of
  the week's minutes began on a Thursday.
-/

namespace OpeningHours

/-- Milliseconds since the start of 1970 in UTC. -/
structure Instant where
  millis : Int
  inRange : -8334601228800000 ≤ millis ∧ millis ≤ 8210266876799999

namespace Instant

/-- The instant of a count of milliseconds, if it can be shown as a date. -/
def ofMillis? (ms : Int) : Option Instant :=
  if h : -8334601228800000 ≤ ms ∧ ms ≤ 8210266876799999 then some ⟨ms, h⟩ else none

/-- The full seconds since the start of 1970, rounded down. -/
def seconds (t : Instant) : Int :=
  t.millis / 1000

end Instant

/-- A time zone: its offset from UTC in seconds, at first and from each change on. -/
structure Zone where
  name : String
  initialOffset : Int
  changes : List (Int × Int)

namespace Zone

/-- The offset that holds at a second, where `offset` holds before the changes. -/
def offsetFrom (offset : Int) (seconds : Int) : List (Int × Int) → Int
  | [] => offset
  | (start, next) :: rest => if start ≤ seconds then offsetFrom next seconds rest else offset

/-- The offset from UTC in seconds at an instant. -/
def offsetAt (z : Zone) (t : Instant) : Int :=
  offsetFrom z.initialOffset t.seconds z.changes

/-- The seconds that local clocks count since the start of 1970. -/
def localSeconds (z : Zone) (t : Instant) : Int :=
  t.seconds + z.offsetAt t

/-- The days since 1 January 1970 by local clocks. -/
def localDay (z : Zone) (t : Instant) : Int :=
  z.localSeconds t / 86400

/-- The hours that local clocks show. -/
def localHour (z : Zone) (t : Instant) : Nat :=
  (z.localSeconds t % 86400 / 3600).toNat

/-- The minutes that local clocks show. -/
def localMinute (z : Zone) (t : Instant) : Nat :=
  (z.localSeconds t % 3600 / 60).toNat

/-- The weekday that is so many days after 1 January 1970. -/
def weekdayOfDay (day : Int) : Weekday :=
  -- that day was a Thursday, four days after a Sunday
  Weekday.ofIndex ((day + 4) % 7).toNat

/-- The short name of the local weekday. -/
def localDayName (z : Zone) (t : Instant) : List Char :=
  (weekdayOfDay (z.localDay t)).shortName.toList

/-- The local weekday: by its short name, or by the count of days should the name not be known. -/
def weekdayAt (z : Zone) (t : Instant) : Weekday :=
  (Weekday.ofShortName? (z.localDayName t)).getD (weekdayOfDay (z.localDay t))

/-- The local time of day, if the numbers on the clock are those of one. -/
def timeAt? (z : Zone) (t : Instant) : Option TimeOfDay :=
  TimeOfDay.ofClock? (z.localHour t) (z.localMinute t)

/-- The local moment of the week at an instant, at midnight should the clock not show a time. -/
def momentAt (z : Zone) (t : Instant) : Moment where
  weekday := z.weekdayAt t
  time := (z.timeAt? t).getD TimeOfDay.midnight

/-- Coordinated universal time. -/
def utc : Zone := ⟨"UTC", 0, []⟩

/-- The zone of New Caledonia, where the directory's agencies are. -/
def noumea : Zone where
  name := "Pacific/Noumea"
  initialOffset := 39948
  changes := [(-1829387148, 39600), (250002000, 43200), (257342400, 39600), (281451600, 43200),
    (288878400, 39600), (849366000, 43200), (857228400, 39600)]

theorem localHour_lt (z : Zone) (t : Instant) : z.localHour t < 24 := by
  unfold localHour
  omega

theorem localMinute_lt (z : Zone) (t : Instant) : z.localMinute t < 60 := by
  unfold localMinute
  omega

/-- The short name of the weekday is understood. -/
theorem weekdayAt_eq (z : Zone) (t : Instant) : z.weekdayAt t = weekdayOfDay (z.localDay t) := by
  rw [weekdayAt, localDayName, Weekday.ofShortName?_shortName, Option.getD_some]

/-- The clock shows a time of day. -/
theorem timeAt?_eq (z : Zone) (t : Instant) : z.timeAt? t = some (z.momentAt t).time := by
  have hclock : z.localHour t < 24 ∧ z.localMinute t < 60 := ⟨z.localHour_lt t, z.localMinute_lt t⟩
  rw [momentAt, timeAt?, TimeOfDay.ofClock?, dif_pos hclock, Option.getD_some]

/-- The time is the local minute of the day. -/
theorem minutes_momentAt (z : Zone) (t : Instant) :
    ((z.momentAt t).time.minutes : Int) = z.localSeconds t / 60 % 1440 := by
  have hclock := (TimeOfDay.ofClock?_eq_some_iff.mp (z.timeAt?_eq t)).2
  have hhour : (z.localHour t : Int) = z.localSeconds t / 60 % 1440 / 60 := by
    unfold localHour
    omega
  have hminute : (z.localMinute t : Int) = z.localSeconds t / 60 % 1440 % 60 := by
    unfold localMinute
    omega
  omega

/-- The weekday is that of the local day. -/
theorem weekday_momentAt (z : Zone) (t : Instant) :
    ((z.momentAt t).weekday.index : Int) = (z.localSeconds t / 60 / 1440 + 4) % 7 := by
  have hday : z.localDay t = z.localSeconds t / 60 / 1440 := by
    unfold localDay
    omega
  rw [momentAt, weekdayAt_eq, weekdayOfDay, Weekday.index_ofIndex, hday]
  omega

/-- The week's minutes are counted from a Thursday. -/
theorem momentAt_eq (z : Zone) (t : Instant) :
    ((z.momentAt t).weekMinute : Int) = (z.localSeconds t / 60 + 4 * 1440) % 10080 := by
  have hday := z.weekday_momentAt t
  have htime := z.minutes_momentAt t
  unfold Moment.weekMinute minutesPerDay
  omega

end Zone

/-- The time zones that may be named. -/
structure ZoneTable where
  zone? : String → Option Zone
  /-- The zone that is used where none is named is among them. -/
  noumea_known : (zone? Zone.noumea.name).isSome

/-- The table of some zones and that of New Caledonia. -/
def ZoneTable.ofZones (zones : List Zone) : ZoneTable where
  zone? name := (Zone.noumea :: zones).find? fun z => z.name = name
  noumea_known := by simp

end OpeningHours
