import OpeningHours.Weekday

/-!
# OpeningHours — times of day, spans and moments

A time of day is a count of whole minutes since midnight, a span is a part of one day from its first
open minute to its first closed one, and a moment is a minute of the week. The bounds are part of
the types, so no function has to check them again.

The spans of a day are put into one form: in ascending order, with overlapping and touching spans
made one. `Covered` says which minutes a list of spans opens, and `Separated` describes the form.

## Results

* `Moment.ofWeekMinute_weekMinute`, `Moment.weekMinute_ofWeekMinute` — moments are the minutes of
  the week, counted from Sunday 00:00.
* `Span.covers_iff` — a span holds its start but not its end.
* `Span.sortSpans_perm` — sorting keeps the spans.
-/

namespace OpeningHours

def minutesPerDay : Nat := 1440

def minutesPerWeek : Nat := 10080

/-- Whole minutes since midnight. -/
structure TimeOfDay where
  minutes : Nat
  lt_day : minutes < minutesPerDay
deriving DecidableEq

namespace TimeOfDay

/-- The time at which a day begins. -/
def midnight : TimeOfDay := ⟨0, by decide⟩

/-- The time that a 24-hour clock shows, if it can show these numbers. -/
def ofClock? (hour minute : Nat) : Option TimeOfDay :=
  if h : hour < 24 ∧ minute < 60 then
    some ⟨hour * 60 + minute, by have := h.1; have := h.2; unfold minutesPerDay; omega⟩
  else none

/-- The full hours of a time. -/
def hour (t : TimeOfDay) : Nat := t.minutes / 60

/-- The minutes of a time past the full hour. -/
def minute (t : TimeOfDay) : Nat := t.minutes % 60

/-- A number below 100 in two digits. -/
def twoDigits (n : Nat) : List Char :=
  [Nat.digitChar (n / 10), Nat.digitChar (n % 10)]

/-- The notation of schedule lines, such as `08:05`. -/
def clockText (t : TimeOfDay) : List Char :=
  twoDigits t.hour ++ ':' :: twoDigits t.minute

/-- The notation of the listing, such as `08h05`. -/
def displayText (t : TimeOfDay) : List Char :=
  twoDigits t.hour ++ 'h' :: twoDigits t.minute

@[ext] theorem ext {s t : TimeOfDay} (h : s.minutes = t.minutes) : s = t := by
  cases s
  cases t
  simpa using h

theorem hour_lt (t : TimeOfDay) : t.hour < 24 := by
  have := t.lt_day
  unfold hour minutesPerDay at *
  omega

theorem minute_lt (t : TimeOfDay) : t.minute < 60 :=
  Nat.mod_lt _ (by decide)

/-- A clock shows the time of its hour and minute. -/
@[simp] theorem ofClock?_hour_minute (t : TimeOfDay) : ofClock? t.hour t.minute = some t := by
  have h : t.hour < 24 ∧ t.minute < 60 := ⟨t.hour_lt, t.minute_lt⟩
  rw [ofClock?, dif_pos h]
  congr 1
  ext
  simp only [hour, minute]
  omega

/-- The time that a clock shows, and when it can show one. -/
theorem ofClock?_eq_some_iff {hour minute : Nat} {t : TimeOfDay} :
    ofClock? hour minute = some t ↔
      (hour < 24 ∧ minute < 60) ∧ t.minutes = hour * 60 + minute := by
  rw [ofClock?]
  split
  · rename_i h
    rw [Option.some.injEq]
    constructor
    · rintro rfl
      exact ⟨h, rfl⟩
    · rintro ⟨-, hminutes⟩
      exact ext hminutes.symm
  · rename_i h
    exact ⟨nofun, fun h' => absurd h'.1 h⟩

end TimeOfDay

/-- A part of one day: open from the minute `start` on, closed again from the minute `stop` on. -/
structure Span where
  start : TimeOfDay
  stop : TimeOfDay
  start_lt_stop : start.minutes < stop.minutes
deriving DecidableEq

namespace Span

/-- The span between two times, if the first is earlier. -/
def between? (start stop : TimeOfDay) : Option Span :=
  if h : start.minutes < stop.minutes then some ⟨start, stop, h⟩ else none

/-- The minute is one of the span's. -/
def covers (s : Span) (t : TimeOfDay) : Bool :=
  s.start.minutes ≤ t.minutes && t.minutes < s.stop.minutes

/-- The notation of schedule lines, such as `08:00-12:00`. -/
def text (s : Span) : List Char :=
  s.start.clockText ++ '-' :: s.stop.clockText

/-- A span holds its start but not its end. -/
theorem covers_iff {s : Span} {t : TimeOfDay} :
    s.covers t = true ↔ s.start.minutes ≤ t.minutes ∧ t.minutes < s.stop.minutes := by
  simp [covers]

/-- The span between two times. -/
theorem between?_eq_some_iff {start stop : TimeOfDay} {s : Span} :
    between? start stop = some s ↔ s.start = start ∧ s.stop = stop := by
  rw [between?]
  split
  · rw [Option.some.injEq]
    constructor
    · rintro rfl
      exact ⟨rfl, rfl⟩
    · rintro ⟨rfl, rfl⟩
      rfl
  · rename_i h
    constructor
    · nofun
    · rintro ⟨rfl, rfl⟩
      exact absurd s.start_lt_stop h

end Span

/-- A minute of the week. -/
structure Moment where
  weekday : Weekday
  time : TimeOfDay
deriving DecidableEq

namespace Moment

/-- The minutes since Sunday 00:00. -/
def weekMinute (m : Moment) : Nat :=
  m.weekday.index * minutesPerDay + m.time.minutes

/-- The moment so many minutes after Sunday 00:00, modulo the week. -/
def ofWeekMinute (n : Nat) : Moment where
  weekday := Weekday.ofIndex (n / minutesPerDay)
  time := ⟨n % minutesPerDay, Nat.mod_lt _ (by decide)⟩

/-- A moment is found from its minute of the week. -/
@[simp] theorem ofWeekMinute_weekMinute (m : Moment) : ofWeekMinute m.weekMinute = m := by
  obtain ⟨d, t, ht⟩ := m
  have h1 : (d.index * minutesPerDay + t) / minutesPerDay = d.index := by
    unfold minutesPerDay at *
    omega
  have h2 : (d.index * minutesPerDay + t) % minutesPerDay = t := by
    unfold minutesPerDay at *
    omega
  simp [ofWeekMinute, weekMinute, h1, h2]

/-- Minutes of the week are counted around. -/
@[simp] theorem weekMinute_ofWeekMinute (n : Nat) :
    (ofWeekMinute n).weekMinute = n % minutesPerWeek := by
  simp only [weekMinute, ofWeekMinute, Weekday.index_ofIndex]
  unfold minutesPerDay minutesPerWeek
  omega

end Moment

-- ---------------------------------------------------------------------------
-- Merged spans
-- ---------------------------------------------------------------------------

namespace Span

/-- Some span of the list holds the minute. -/
def Covered (spans : List Span) (t : TimeOfDay) : Prop :=
  ∃ s ∈ spans, s.covers t = true

/-- Every span ends before the next one starts, with a closed minute between them. -/
def Separated : List Span → Prop
  | [] => True
  | [_] => True
  | s :: t :: rest => s.stop.minutes < t.start.minutes ∧ Separated (t :: rest)

/-- Puts a span into a sorted list, in front of the spans that start with it. -/
def insertSpan (s : Span) : List Span → List Span
  | [] => [s]
  | t :: rest =>
    if s.start.minutes ≤ t.start.minutes then s :: t :: rest else t :: insertSpan s rest

/-- The spans in the order of their starts, those with one start in their given order. -/
def sortSpans (spans : List Span) : List Span :=
  spans.foldr insertSpan []

/-- The span with its end moved on to a later time, unchanged for an earlier one. -/
def extendTo (s : Span) (stop : TimeOfDay) : Span :=
  if h : s.stop.minutes < stop.minutes then
    ⟨s.start, stop, Nat.lt_trans s.start_lt_stop h⟩
  else s

/-- Merges a span with the sorted spans that follow it. -/
def mergeFrom (current : Span) : List Span → List Span
  | [] => [current]
  | next :: rest =>
    if next.start.minutes ≤ current.stop.minutes then mergeFrom (current.extendTo next.stop) rest
    else current :: mergeFrom next rest

/-- The merged form of a list of spans. -/
def merge (spans : List Span) : List Span :=
  match sortSpans spans with
  | [] => []
  | s :: rest => mergeFrom s rest

theorem insertSpan_perm (s : Span) (spans : List Span) :
    (insertSpan s spans).Perm (s :: spans) := by
  induction spans with
  | nil => exact .refl _
  | cons t rest ih =>
    rw [insertSpan]
    split
    · exact .refl _
    · exact (ih.cons t).trans (.swap s t rest)

/-- Sorting keeps the spans. -/
theorem sortSpans_perm (spans : List Span) : (sortSpans spans).Perm spans := by
  induction spans with
  | nil => exact .refl _
  | cons s rest ih => exact (insertSpan_perm s _).trans (ih.cons s)

/-- Merging leaves a list empty only if it was. -/
theorem merge_eq_nil_iff {spans : List Span} : merge spans = [] ↔ spans = [] := by
  have hne : ∀ (rest : List Span) (s : Span), mergeFrom s rest ≠ [] := by
    intro rest
    induction rest with
    | nil => simp [mergeFrom]
    | cons t rest ih =>
      intro s
      rw [mergeFrom]
      split
      · exact ih _
      · simp
  have hperm := sortSpans_perm spans
  unfold merge
  split
  · rename_i h
    rw [h] at hperm
    simp [hperm.symm.eq_nil]
  · rename_i s rest h
    constructor
    · exact fun h' => absurd h' (hne rest s)
    · rintro rfl
      simp [sortSpans] at h

end Span

end OpeningHours
