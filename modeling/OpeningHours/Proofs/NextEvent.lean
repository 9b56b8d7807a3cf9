import OpeningHours.Proofs.Evaluation

/-!
# OpeningHours — the next change comes as announced

Whatever is announced at a moment is what the clock shows when it moves on: until the announced
minute nothing changes, and at that minute the state does. A day that is announced is the first one
ahead with an open minute, and where nothing can be announced there is nothing to come: no line for
the day, or no open minute in the whole week.

The end of a span is a closed minute because merged spans leave a gap behind each of them; without
merging, an agency could be announced to close at a minute at which the next span opens it.

## Results

* `unchanged_of_within`, `unchanged_of_before`, `unchanged_of_done` — how long an evaluation holds.
* `evaluate_ofText_comes_true` — announcements against the minutes that follow.
-/

namespace OpeningHours.Week

variable {w : Week}

/-- From a moment on, the evaluation stays the same up to a minute of the day. -/
def UnchangedUntil (w : Week) (now : Moment) (stop : Nat) : Prop :=
  ∀ u : TimeOfDay, now.time.minutes ≤ u.minutes → u.minutes < stop →
    w.evaluate ⟨now.weekday, u⟩ = w.evaluate now

-- ---------------------------------------------------------------------------
-- Stretches of one evaluation
-- ---------------------------------------------------------------------------

/-- Within a span the evaluation holds to the end of the span. -/
theorem unchanged_of_within (hw : w.Merged) {now : Moment} {ss : List Span} {s : Span}
    (hday : w.day now.weekday = .opened ss) (hs : s ∈ ss) (hcov : s.covers now.time = true) :
    w.UnchangedUntil now s.stop.minutes := by
  intro u hu hstop
  have hstart := (Span.covers_iff.mp hcov).1
  have hcovu : s.covers u = true := Span.covers_iff.mpr ⟨by omega, hstop⟩
  have hthen : w.Announces ⟨now.weekday, u⟩ ⟨.opened, .closesAt s.stop⟩ := .within hday hs hcovu
  rw [(Announces.within hday hs hcov).evaluate_eq hw, hthen.evaluate_eq hw]

/-- In front of a span the evaluation holds to the start of the span. -/
theorem unchanged_of_before (hw : w.Merged) {now : Moment} {ss : List Span} {s : Span}
    (hday : w.day now.weekday = .opened ss) (hnot : ¬ Span.Covered ss now.time)
    (hup : Span.Upcoming ss now.time s) : w.UnchangedUntil now s.start.minutes := by
  intro u hu hstart
  -- no span starts between the moment and the upcoming one
  have hgap : ∀ x ∈ ss, x.start.minutes ≤ u.minutes → x.start.minutes ≤ now.time.minutes := by
    intro x hx hxu
    rcases Nat.lt_or_ge now.time.minutes x.start.minutes with hlater | hle
    · have := hup.first x hx hlater
      omega
    · exact hle
  have hnotu : ¬ Span.Covered ss u := by
    rintro ⟨x, hx, hcov⟩
    obtain ⟨hxstart, hxstop⟩ := Span.covers_iff.mp hcov
    have hxnow := hgap x hx hxstart
    exact hnot ⟨x, hx, Span.covers_iff.mpr ⟨hxnow, by omega⟩⟩
  have hupu : Span.Upcoming ss u s :=
    ⟨hup.mem, hstart, fun x hx hxu => hup.first x hx (by omega)⟩
  have hthen : w.Announces ⟨now.weekday, u⟩ ⟨.closed, .opensAt s.start⟩ :=
    .before hday hnotu hupu
  rw [(Announces.before hday hnot hup).evaluate_eq hw, hthen.evaluate_eq hw]

/-- Once the day is done the evaluation holds to the end of the day. -/
theorem unchanged_of_done {now : Moment} (hdone : w.DoneForToday now) :
    w.UnchangedUntil now minutesPerDay := by
  intro u hu _
  have hthen : w.DoneForToday ⟨now.weekday, u⟩ := by
    rcases hdone with hday | ⟨ss, hday, hover⟩
    · exact .inl hday
    · refine .inr ⟨ss, hday, ?_⟩
      intro s hs
      exact Nat.le_trans (hover s hs) hu
  rw [evaluate_of_done hdone, evaluate_of_done hthen]

-- ---------------------------------------------------------------------------
-- Days without and with opening hours
-- ---------------------------------------------------------------------------

/-- A day without opening hours is closed at every minute. -/
theorem closed_of_not_isOpen {m : Moment} (h : (w.day m.weekday).isOpen = false) :
    (w.evaluate m).state = .closed := by
  rw [evaluate_state_eq_closed_iff]
  intro ss hday
  rw [hday] at h
  simp [DaySchedule.isOpen] at h

/-- A day with opening hours has an open minute. -/
theorem exists_opened_of_isOpen (hw : w.Merged) {d : Weekday} (h : (w.day d).isOpen = true) :
    ∃ u, (w.evaluate ⟨d, u⟩).state = .opened := by
  obtain ⟨ss, hday⟩ := DaySchedule.isOpen_iff.mp h
  obtain ⟨s, hs⟩ := List.exists_mem_of_ne_nil ss (hw d ss hday).1
  exact ⟨s.start, evaluate_state_eq_opened_iff.mpr ⟨ss, hday, s, hs, s.covers_start⟩⟩

/-- A day that is done has a line. -/
theorem not_missing_of_done {now : Moment} (h : w.DoneForToday now) :
    w.day now.weekday ≠ .missing := by
  rcases h with hday | ⟨ss, hday, -⟩ <;> simp [hday]

-- ---------------------------------------------------------------------------
-- Announcements
-- ---------------------------------------------------------------------------

/-- An announced end of opening hours. -/
theorem closes_of_closesAt (hw : w.Merged) {now : Moment} {t : TimeOfDay}
    (h : (w.evaluate now).next = .closesAt t) :
    now.time.minutes < t.minutes ∧ (w.evaluate now).state = .opened ∧
      w.UnchangedUntil now t.minutes ∧ (w.evaluate ⟨now.weekday, t⟩).state = .closed := by
  -- only one situation announces an end, so the announcement gives the span that holds the minute
  have hann := announces_evaluate hw now
  generalize w.evaluate now = e at h hann ⊢
  cases hann with
  | @within ss s hday hs hcov =>
    simp only [NextEvent.closesAt.injEq] at h
    subst h
    refine ⟨(Span.covers_iff.mp hcov).2, rfl, unchanged_of_within hw hday hs hcov, ?_⟩
    -- spans that touched would have been merged, so the end of a span is a closed minute
    rw [evaluate_state_eq_closed_iff]
    intro ss' hday'
    obtain rfl : ss = ss' := by simpa [hday] using hday'
    exact Span.not_covered_stop (hw _ _ hday).2 hs
  | _ => simp at h

/-- An announced start of opening hours on the same day. -/
theorem opens_of_opensAt (hw : w.Merged) {now : Moment} {t : TimeOfDay}
    (h : (w.evaluate now).next = .opensAt t) :
    now.time.minutes < t.minutes ∧ (w.evaluate now).state = .closed ∧
      w.UnchangedUntil now t.minutes ∧ (w.evaluate ⟨now.weekday, t⟩).state = .opened := by
  have hann := announces_evaluate hw now
  generalize w.evaluate now = e at h hann ⊢
  cases hann with
  | @before ss s hday hnot hup =>
    simp only [NextEvent.opensAt.injEq] at h
    subst h
    refine ⟨hup.later, rfl, unchanged_of_before hw hday hnot hup, ?_⟩
    exact evaluate_state_eq_opened_iff.mpr ⟨ss, hday, s, hup.mem, s.covers_start⟩
  | _ => simp at h

/-- An announced day. -/
theorem opens_of_opensOn (hw : w.Merged) {now : Moment} {d : Weekday}
    (h : (w.evaluate now).next = .opensOn d) :
    (w.evaluate now).state = .closed ∧ w.UnchangedUntil now minutesPerDay ∧
      ∃ k, 1 ≤ k ∧ k ≤ 7 ∧ d = now.weekday.addDays k ∧
        (∀ j, 1 ≤ j → j < k → ∀ u, (w.evaluate ⟨now.weekday.addDays j, u⟩).state = .closed) ∧
        ∃ u, (w.evaluate ⟨d, u⟩).state = .opened := by
  have hann := announces_evaluate hw now
  generalize w.evaluate now = e at h hann ⊢
  cases hann with
  | @ahead e hdone hfirst =>
    simp only [NextEvent.opensOn.injEq] at h
    subst h
    -- the days in between have no opening hours, and so not a single open minute
    obtain ⟨k, hlo, hhi, hd, hopen, hbefore⟩ := hfirst
    refine ⟨rfl, unchanged_of_done hdone, k, hlo, hhi, hd, ?_, exists_opened_of_isOpen hw hopen⟩
    intro j hj hjk u
    exact closed_of_not_isOpen (hbefore j hj hjk)
  | _ => simp at h

/-- Where no day can be announced, the day has an entry and nothing is open all week. -/
theorem never_of_unavailable_hours (hw : w.Merged) {now : Moment}
    (h : (w.evaluate now).next = .unavailable .hours) :
    w.day now.weekday ≠ .missing ∧ ∀ m, (w.evaluate m).state = .closed := by
  have hann := announces_evaluate hw now
  generalize w.evaluate now = e at h hann
  cases hann with
  | never hdone hnone =>
    exact ⟨not_missing_of_done hdone, fun m => closed_of_not_isOpen (hnone m.weekday)⟩
  | _ => simp at h

/-- The schedule is unavailable exactly on a day without an entry. -/
theorem unavailable_schedule_iff (hw : w.Merged) {now : Moment} :
    (w.evaluate now).next = .unavailable .schedule ↔ w.day now.weekday = .missing := by
  constructor
  · intro h
    have hann := announces_evaluate hw now
    generalize w.evaluate now = e at h hann
    cases hann with
    | missing hday => exact hday
    | _ => simp at h
  · intro hday
    rw [(Announces.missing hday).evaluate_eq hw]

/-- What is announced at a moment is what the minutes after it show. -/
theorem evaluate_ofText_comes_true (text : List Char) (now : Moment) :
    let w := Week.ofText text
    (∀ t, (w.evaluate now).next = .closesAt t →
      now.time.minutes < t.minutes ∧ (w.evaluate now).state = .opened ∧
        w.UnchangedUntil now t.minutes ∧ (w.evaluate ⟨now.weekday, t⟩).state = .closed) ∧
    (∀ t, (w.evaluate now).next = .opensAt t →
      now.time.minutes < t.minutes ∧ (w.evaluate now).state = .closed ∧
        w.UnchangedUntil now t.minutes ∧ (w.evaluate ⟨now.weekday, t⟩).state = .opened) ∧
    (∀ d, (w.evaluate now).next = .opensOn d →
      (w.evaluate now).state = .closed ∧ w.UnchangedUntil now minutesPerDay ∧
        ∃ k, 1 ≤ k ∧ k ≤ 7 ∧ d = now.weekday.addDays k ∧
          (∀ j, 1 ≤ j → j < k → ∀ u, (w.evaluate ⟨now.weekday.addDays j, u⟩).state = .closed) ∧
          ∃ u, (w.evaluate ⟨d, u⟩).state = .opened) ∧
    ((w.evaluate now).next = .unavailable .hours →
      Schedule.HasLine text now.weekday ∧ ∀ m, (w.evaluate m).state = .closed) ∧
    ((w.evaluate now).next = .unavailable .schedule ↔ ¬ Schedule.HasLine text now.weekday) := by
  intro w
  have hw : w.Merged := merged_ofText text
  have hmissing : w.day now.weekday = .missing ↔ ¬ Schedule.HasLine text now.weekday :=
    Schedule.day_eq_missing_iff
  refine ⟨fun t => closes_of_closesAt hw, fun t => opens_of_opensAt hw,
    fun d => opens_of_opensOn hw, ?_, ?_⟩
  · -- nothing to come: the day has an entry, and so a line
    intro h
    obtain ⟨hday, hnever⟩ := never_of_unavailable_hours hw h
    rw [ne_eq, hmissing, Classical.not_not] at hday
    exact ⟨hday, hnever⟩
  · -- nothing known: the day has no line
    rw [← hmissing]
    exact unavailable_schedule_iff hw

end OpeningHours.Week
