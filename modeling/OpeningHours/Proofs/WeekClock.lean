import OpeningHours.Calendar.Zone

/-!
# OpeningHours — clocks count the minutes of the week

What the clocks of a zone show depends on the local seconds alone, and these are the seconds of the
instant moved by the offset. So a zone with an offset shows at an instant what universal time shows
that much later. And as long as the offset stays, the moment of the week goes on by one minute with
every minute that passes, before 1970 as after it. Day, hour and minute are all rounded down from
the same count, so they roll over together.

* `Moment.advance m k` — the moment that is so many minutes later, or earlier.

## Results

* `Moment.weekMinute_advance` — advancing counts the minutes modulo the week.
* `Zone.momentAt_congr`       — clocks that count the same seconds show the same moment.
* `Zone.momentAt_advance`     — under one offset the moment advances with the instant.
* `Zone.momentAt_counts`      — the clock of a zone is the week's minute counter.
-/

namespace OpeningHours

namespace Moment

/-- The moment so many minutes later: past midnight it goes on with the next weekday. -/
def advance (m : Moment) (k : Int) : Moment where
  -- the midnights that are passed; none, or fewer than none, if the minutes lead back
  weekday := m.weekday.addDays ((m.time.minutes + k) / 1440 % 7).toNat
  time := ⟨((m.time.minutes + k) % 1440).toNat, by unfold minutesPerDay; omega⟩

/-- A moment is known by its minute of the week. -/
theorem ext_weekMinute {m n : Moment} (h : m.weekMinute = n.weekMinute) : m = n := by
  rw [← ofWeekMinute_weekMinute m, h, ofWeekMinute_weekMinute]

/-- Advancing counts the minutes modulo the week. -/
theorem weekMinute_advance (m : Moment) (k : Int) :
    ((m.advance k).weekMinute : Int) = (m.weekMinute + k) % 10080 := by
  have hday : ((m.advance k).weekday.index : Int) =
      (m.weekday.index + (m.time.minutes + k) / 1440) % 7 := by
    rw [advance, Weekday.index_addDays]
    omega
  have htime : ((m.advance k).time.minutes : Int) = (m.time.minutes + k) % 1440 := by
    show (((m.time.minutes + k) % 1440).toNat : Int) = _
    omega
  unfold weekMinute minutesPerDay
  omega

/-- The week begins anew behind its last minute. -/
example : (⟨.saturday, ⟨1439, by decide⟩⟩ : Moment).advance 1 = ⟨.sunday, .midnight⟩ := by decide

end Moment

namespace Zone

/-- Clocks that count the same seconds show the same moment. -/
theorem momentAt_congr {z z' : Zone} {t t' : Instant} (h : z.localSeconds t = z'.localSeconds t') :
    z.momentAt t = z'.momentAt t' := by
  apply Moment.ext_weekMinute
  have hleft := z.momentAt_eq t
  have hright := z'.momentAt_eq t'
  rw [h, ← hright] at hleft
  exact_mod_cast hleft

theorem localSeconds_utc (t : Instant) : utc.localSeconds t = t.seconds :=
  Int.add_zero t.seconds

/-- A zone shows what universal time shows at the instant moved by the offset. -/
theorem momentAt_eq_utc {z : Zone} {t t' : Instant}
    (h : t'.millis = t.millis + z.offsetAt t * 1000) : z.momentAt t = utc.momentAt t' := by
  apply momentAt_congr
  rw [localSeconds_utc]
  unfold localSeconds Instant.seconds
  omega

/-- Under one offset the moment advances with the instant. -/
theorem momentAt_advance {z : Zone} {t t' : Instant} {k : Int}
    (h : t'.millis = t.millis + k * 60000) (hoffset : z.offsetAt t' = z.offsetAt t) :
    z.momentAt t' = (z.momentAt t).advance k := by
  have hlocal : z.localSeconds t' = z.localSeconds t + k * 60 := by
    unfold localSeconds Instant.seconds
    omega
  have hbefore := z.momentAt_eq t
  have hafter := z.momentAt_eq t'
  have hadvance := (z.momentAt t).weekMinute_advance k
  apply Moment.ext_weekMinute
  rw [hlocal] at hafter
  omega

/-- **The clock of a zone is the week's minute counter.** Universal time began 1970 on a Thursday at
midnight, every other zone shows universal time moved by its offset, and while the offset stays the
moment advances with the instant. The weekday's name and the numbers on the clock are always
understood, so neither of the ways out for unknown ones is ever taken. -/
theorem momentAt_counts :
    utc.momentAt ⟨0, by decide⟩ = ⟨.thursday, .midnight⟩ ∧
    (∀ (z : Zone) (t t' : Instant), t'.millis = t.millis + z.offsetAt t * 1000 →
      z.momentAt t = utc.momentAt t') ∧
    (∀ (z : Zone) (t t' : Instant) (k : Int), t'.millis = t.millis + k * 60000 →
      z.offsetAt t' = z.offsetAt t →
      z.momentAt t' = (z.momentAt t).advance k ∧
        ((z.momentAt t').weekMinute : Int) = ((z.momentAt t).weekMinute + k) % 10080) ∧
    ∀ (z : Zone) (t : Instant),
      Weekday.ofShortName? (z.localDayName t) = some (z.momentAt t).weekday ∧
      TimeOfDay.ofClock? (z.localHour t) (z.localMinute t) = some (z.momentAt t).time := by
  refine ⟨?_, fun z t t' h => momentAt_eq_utc h, ?_, ?_⟩
  · -- the first instant
    apply Moment.ext_weekMinute
    have hfirst := utc.momentAt_eq ⟨0, by decide⟩
    have hzero : utc.localSeconds ⟨0, by decide⟩ = 0 := by decide
    have hthursday : (⟨.thursday, .midnight⟩ : Moment).weekMinute = 4 * 1440 := by decide
    rw [hzero] at hfirst
    omega
  · -- later and earlier instants
    intro z t t' k h hoffset
    have hadvance := momentAt_advance h hoffset
    refine ⟨hadvance, ?_⟩
    rw [hadvance]
    exact Moment.weekMinute_advance _ k
  · -- what the clock shows
    intro z t
    refine ⟨?_, z.timeAt?_eq t⟩
    rw [localDayName, Weekday.ofShortName?_shortName, ← z.weekdayAt_eq t, momentAt]

/-- New York kept an offset that is no whole number of minutes until 1883. Ten days and a minute
after an instant of 1874, its clocks showed a moment three weekdays and a minute further on. -/
theorem momentAt_counts_before_1883 :
    let z : Zone := ⟨"America/New_York", -17762, [(-2717650800, -18000)]⟩
    let t : Instant := ⟨-3000000000000, by decide⟩
    let t' : Instant := ⟨-2999135940000, by decide⟩
    let u : Instant := ⟨-3000017762000, by decide⟩
    u.millis = t.millis + z.offsetAt t * 1000 ∧ z.momentAt t = utc.momentAt u ∧
      t'.millis = t.millis + 14401 * 60000 ∧ z.offsetAt t' = z.offsetAt t ∧
      z.momentAt t' = (z.momentAt t).advance 14401 ∧
      ((z.momentAt t').weekMinute : Int) = ((z.momentAt t).weekMinute + 14401) % 10080 := by
  intro z t t' u
  have hshifted : u.millis = t.millis + z.offsetAt t * 1000 := by decide
  have hmillis : t'.millis = t.millis + 14401 * 60000 := by decide
  have hoffset : z.offsetAt t' = z.offsetAt t := by decide
  exact ⟨hshifted, momentAt_counts.2.1 z t u hshifted, hmillis, hoffset,
    momentAt_counts.2.2.1 z t t' 14401 hmillis hoffset⟩

end Zone

end OpeningHours
