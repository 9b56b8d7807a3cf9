import OpeningHours.Proofs.WeekReading
import OpeningHours.Schedule.Week

/-!
# OpeningHours — the state at every minute

An agency is open at a moment exactly when some span of the day holds the minute, and for a week
read from a text exactly when the text's own ranges, before they are sorted and merged, hold it.

What is announced beside the state depends on the situation (`Announces`): a day without a line, a
minute within a span, one in front of a later span, and a day that is done, with or without an open
day ahead. In a merged week at most one span can be the current one and one the next, so each
situation has one outcome, and the evaluation is that outcome.

## Results

* `nextOpenDay_eq_opensOn_iff`   — the day that the search names.
* `evaluate_state_eq_opened_iff` — the state of a week.
* `evaluate_eq_iff`              — the evaluation is the outcome of the situation.
* `evaluate_ofText_opened_iff`   — the state of a text, read off its raw ranges.
-/

namespace OpeningHours

-- ---------------------------------------------------------------------------
-- The days ahead
-- ---------------------------------------------------------------------------

/-- Every day is among the seven days after another one. -/
theorem Weekday.exists_addDays (today d : Weekday) :
    ∃ k, 1 ≤ k ∧ k ≤ 7 ∧ d = today.addDays k := by
  have hd := d.index_lt
  have htoday := today.index_lt
  have hofIndex : ∀ n, n % 7 = d.index → d = ofIndex n := by
    intro n hn
    rw [← ofIndex_index d, ← hn, ← index_ofIndex, ofIndex_index]
  -- a day later in the week is reached in it, any other one after the turn of the week
  rcases Nat.lt_or_ge today.index d.index with hlt | hge
  · exact ⟨d.index - today.index, by omega, by omega, hofIndex _ (by omega)⟩
  · exact ⟨d.index + 7 - today.index, by omega, by omega, hofIndex _ (by omega)⟩

theorem DaySchedule.isOpen_iff {s : DaySchedule} : s.isOpen = true ↔ ∃ ss, s = .opened ss := by
  cases s <;> simp [isOpen]

namespace Week

variable {w : Week}

/-- The day is the first one ahead with opening hours, at most a week away. -/
def FirstAhead (w : Week) (today d : Weekday) : Prop :=
  ∃ k, 1 ≤ k ∧ k ≤ 7 ∧ d = today.addDays k ∧ (w.day d).isOpen = true ∧
    ∀ j, 1 ≤ j → j < k → (w.day (today.addDays j)).isOpen = false

/-- The search over the seven days ahead, as a search over their distances. -/
theorem find?_ahead_eq_some_iff {p : Weekday → Bool} {today d : Weekday} :
    ([1, 2, 3, 4, 5, 6, 7].map today.addDays).find? p = some d ↔
      ∃ k, 1 ≤ k ∧ k ≤ 7 ∧ d = today.addDays k ∧ p d = true ∧
        ∀ j, 1 ≤ j → j < k → p (today.addDays j) = false := by
  rw [show [1, 2, 3, 4, 5, 6, 7] = List.range' 1 7 from rfl, List.find?_map]
  simp only [Option.map_eq_some_iff, List.find?_range'_eq_some, List.mem_range'_1]
  constructor
  · rintro ⟨k, ⟨hp, ⟨hlo, hhi⟩, hbefore⟩, rfl⟩
    exact ⟨k, hlo, by omega, rfl, hp, fun j hj hjk => by simpa using hbefore j hj hjk⟩
  · rintro ⟨k, hlo, hhi, rfl, hp, hbefore⟩
    exact ⟨k, ⟨hp, ⟨hlo, by omega⟩, fun j hj hjk => by simpa using hbefore j hj hjk⟩, rfl⟩

/-- The search names the first day ahead with opening hours. -/
theorem nextOpenDay_eq_opensOn_iff {today d : Weekday} :
    w.nextOpenDay today = .opensOn d ↔ w.FirstAhead today d := by
  rw [FirstAhead, ← find?_ahead_eq_some_iff (p := fun e => (w.day e).isOpen), nextOpenDay]
  split
  · rename_i e hfind
    rw [hfind]
    simp
  · rename_i hfind
    rw [hfind]
    simp

/-- The search names no day only if none has opening hours. -/
theorem nextOpenDay_eq_unavailable_iff {today : Weekday} :
    w.nextOpenDay today = .unavailable .hours ↔ ∀ d, (w.day d).isOpen = false := by
  rw [nextOpenDay]
  split
  · rename_i e hfind
    have hopen : (w.day e).isOpen = true := by simpa using List.find?_some hfind
    simp only [reduceCtorEq, false_iff]
    intro hall
    rw [hall e] at hopen
    simp at hopen
  · rename_i hfind
    simp only [true_iff]
    intro d
    -- the search went over every day of the week, this one included
    obtain ⟨k, hlo, hhi, rfl⟩ := today.exists_addDays d
    have hmem : today.addDays k ∈ [1, 2, 3, 4, 5, 6, 7].map today.addDays := by
      refine List.mem_map_of_mem ?_
      rw [show [1, 2, 3, 4, 5, 6, 7] = List.range' 1 7 from rfl, List.mem_range'_1]
      omega
    simpa using List.find?_eq_none.mp hfind _ hmem

/-- The search for an open day ends with a day or with the hours being unavailable. -/
theorem nextOpenDay_cases (w : Week) (today : Weekday) :
    (∃ d, w.nextOpenDay today = .opensOn d) ∨ w.nextOpenDay today = .unavailable .hours := by
  unfold nextOpenDay
  split
  · exact .inl ⟨_, rfl⟩
  · exact .inr rfl

-- ---------------------------------------------------------------------------
-- The state
-- ---------------------------------------------------------------------------

/-- An agency is open exactly while a span of the day holds the minute. -/
theorem evaluate_state_eq_opened_iff {now : Moment} :
    (w.evaluate now).state = .opened ↔
      ∃ ss, w.day now.weekday = .opened ss ∧ Span.Covered ss now.time := by
  unfold evaluate
  cases w.day now.weekday with
  | missing => simp
  | closed => simp
  | opened ss =>
    simp only [DaySchedule.opened.injEq, exists_eq_left']
    cases hfind : ss.find? fun s => s.covers now.time with
    | some current =>
      have hcov : Span.Covered ss now.time :=
        ⟨current, List.mem_of_find?_eq_some hfind, by simpa using List.find?_some hfind⟩
      simp [hcov]
    | none =>
      have hnot : ¬ Span.Covered ss now.time := by
        rintro ⟨s, hs, hcov⟩
        exact List.find?_eq_none.mp hfind s hs hcov
      simp only [hnot, iff_false]
      split <;> simp

/-- The state is closed exactly if no span of an open day holds the minute. -/
theorem evaluate_state_eq_closed_iff {now : Moment} :
    (w.evaluate now).state = .closed ↔
      ∀ ss, w.day now.weekday = .opened ss → ¬ Span.Covered ss now.time := by
  have h : (w.evaluate now).state = .opened ↔
      ∃ ss, w.day now.weekday = .opened ss ∧ Span.Covered ss now.time :=
    evaluate_state_eq_opened_iff
  cases hstate : (w.evaluate now).state with
  | opened =>
    obtain ⟨ss, hday, hcov⟩ := h.mp hstate
    simp only [reduceCtorEq, false_iff]
    exact fun hall => hall ss hday hcov
  | closed =>
    simp only [true_iff]
    intro ss hday hcov
    rw [h.mpr ⟨ss, hday, hcov⟩] at hstate
    simp at hstate

end Week

-- ---------------------------------------------------------------------------
-- The current and the next span
-- ---------------------------------------------------------------------------

namespace Span

/-- The span is the first one of the list that starts after the minute. -/
structure Upcoming (ss : List Span) (t : TimeOfDay) (s : Span) : Prop where
  mem : s ∈ ss
  later : t.minutes < s.start.minutes
  first : ∀ x ∈ ss, t.minutes < x.start.minutes → s.start.minutes ≤ x.start.minutes

/-- Of separated spans, the one that is found for a minute is the one that holds it. -/
theorem Separated.find?_covers_iff {ss : List Span} (h : Separated ss) {t : TimeOfDay} {s : Span} :
    (ss.find? fun x => x.covers t) = some s ↔ s ∈ ss ∧ s.covers t = true := by
  constructor
  · intro hfind
    exact ⟨List.mem_of_find?_eq_some hfind, by simpa using List.find?_some hfind⟩
  · rintro ⟨hs, hcov⟩
    induction ss with
    | nil => simp at hs
    | cons x rest ih =>
      rw [List.find?_cons]
      rcases List.mem_cons.mp hs with rfl | hs
      · rw [hcov]
      · -- a span in front of the one that holds the minute has ended before it
        have hlt := (List.pairwise_cons.mp h.pairwise).1 s hs
        have hx : x.covers t = false := by
          rw [← Bool.not_eq_true, covers_iff]
          have := (covers_iff.mp hcov).1
          omega
        rw [hx]
        exact ih h.tail hs

/-- Of separated spans, the one that is found behind a minute is the upcoming one. -/
theorem Separated.find?_later_iff {ss : List Span} (h : Separated ss) {t : TimeOfDay} {s : Span} :
    (ss.find? fun x => decide (t.minutes < x.start.minutes)) = some s ↔ Upcoming ss t s := by
  constructor
  · intro hfind
    obtain ⟨hlater, front, back, rfl, hfront⟩ := List.find?_eq_some_iff_append.mp hfind
    refine ⟨by simp, by simpa using hlater, ?_⟩
    intro x hx hxlater
    -- nothing in front of the found span starts later, and behind it the starts ascend
    rcases List.mem_append.mp hx with hx | hx
    · have := hfront x hx
      simp only [Bool.not_eq_true', decide_eq_false_iff_not] at this
      omega
    · rcases List.mem_cons.mp hx with rfl | hx
      · exact Nat.le_refl _
      · have hasc := (List.pairwise_append.mp h.ascending).2.1
        exact (List.pairwise_cons.mp hasc).1 x hx
  · intro hup
    induction ss with
    | nil => simpa using hup.mem
    | cons x rest ih =>
      rw [List.find?_cons]
      rcases List.mem_cons.mp hup.mem with rfl | hs
      · simp [hup.later]
      · have hlt := (List.pairwise_cons.mp h.pairwise).1 s hs
        have hx : ¬ t.minutes < x.start.minutes := by
          intro hxlater
          have := hup.first x (List.mem_cons_self ..) hxlater
          have := x.start_lt_stop
          omega
        simp only [hx, decide_false]
        exact ih h.tail ⟨hs, hup.later, fun y hy => hup.first y (List.mem_cons_of_mem _ hy)⟩

end Span

namespace Week

variable {w : Week}

-- ---------------------------------------------------------------------------
-- What is announced
-- ---------------------------------------------------------------------------

/-- The day has a line, and nothing opens on it from the minute on. -/
def DoneForToday (w : Week) (now : Moment) : Prop :=
  w.day now.weekday = .closed ∨
    ∃ ss, w.day now.weekday = .opened ss ∧ ∀ s ∈ ss, s.stop.minutes ≤ now.time.minutes

/-- The evaluation that fits the situation at a moment. -/
inductive Announces (w : Week) (now : Moment) : Evaluation → Prop
  /-- The day has no line. -/
  | missing (hday : w.day now.weekday = .missing) :
      Announces w now ⟨.closed, .unavailable .schedule⟩
  /-- A span holds the minute. -/
  | within {ss : List Span} {s : Span} (hday : w.day now.weekday = .opened ss) (hs : s ∈ ss)
      (hcov : s.covers now.time = true) : Announces w now ⟨.opened, .closesAt s.stop⟩
  /-- No span holds the minute, but a later one is to come. -/
  | before {ss : List Span} {s : Span} (hday : w.day now.weekday = .opened ss)
      (hnot : ¬ Span.Covered ss now.time) (hup : Span.Upcoming ss now.time s) :
      Announces w now ⟨.closed, .opensAt s.start⟩
  /-- The day is done, and a day ahead is open. -/
  | ahead {d : Weekday} (hdone : w.DoneForToday now) (hfirst : w.FirstAhead now.weekday d) :
      Announces w now ⟨.closed, .opensOn d⟩
  /-- The day has a line, but no day has opening hours. -/
  | never (hdone : w.DoneForToday now) (hnone : ∀ d, (w.day d).isOpen = false) :
      Announces w now ⟨.closed, .unavailable .hours⟩

/-- What the search finds is announced once the day is done. -/
theorem announces_of_done {now : Moment} (hdone : w.DoneForToday now) :
    w.Announces now ⟨.closed, w.nextOpenDay now.weekday⟩ := by
  rcases nextOpenDay_cases w now.weekday with ⟨d, hd⟩ | hnone
  · rw [hd]
    exact .ahead hdone (nextOpenDay_eq_opensOn_iff.mp hd)
  · rw [hnone]
    exact .never hdone (nextOpenDay_eq_unavailable_iff.mp hnone)

/-- An evaluation fits the situation that it is made in. -/
theorem announces_evaluate (hw : w.Merged) (now : Moment) : w.Announces now (w.evaluate now) := by
  unfold evaluate
  cases hday : w.day now.weekday with
  | missing => exact .missing hday
  | closed => exact announces_of_done (.inl hday)
  | opened ss =>
    have hsep := (hw _ _ hday).2
    dsimp only
    cases hcur : ss.find? fun s => s.covers now.time with
    | some current =>
      obtain ⟨hs, hcov⟩ := hsep.find?_covers_iff.mp hcur
      exact .within hday hs hcov
    | none =>
      have hnone : ∀ s ∈ ss, ¬ s.covers now.time = true := List.find?_eq_none.mp hcur
      dsimp only
      cases hnext : ss.find? fun s => decide (now.time.minutes < s.start.minutes) with
      | some upcoming =>
        refine .before hday ?_ (hsep.find?_later_iff.mp hnext)
        rintro ⟨s, hs, hcov⟩
        exact hnone s hs hcov
      | none =>
        -- a span that has started and does not hold the minute has ended
        refine announces_of_done (.inr ⟨ss, hday, ?_⟩)
        intro s hs
        have hstarted := List.find?_eq_none.mp hnext s hs
        have hheld := hnone s hs
        rw [Span.covers_iff] at hheld
        simp only [decide_eq_true_eq] at hstarted
        omega

/-- Once the day is done, the evaluation is what the search finds. -/
theorem evaluate_of_done {now : Moment} (hdone : w.DoneForToday now) :
    w.evaluate now = ⟨.closed, w.nextOpenDay now.weekday⟩ := by
  rcases hdone with hday | ⟨ss, hday, hover⟩
  · simp [evaluate, hday]
  · have hcur : (ss.find? fun x => x.covers now.time) = none := by
      refine List.find?_eq_none.mpr ?_
      intro x hx hcov
      have := hover x hx
      have := (Span.covers_iff.mp hcov).2
      omega
    have hnext : (ss.find? fun x => decide (now.time.minutes < x.start.minutes)) = none := by
      refine List.find?_eq_none.mpr ?_
      intro x hx hlater
      have := hover x hx
      have := x.start_lt_stop
      simp only [decide_eq_true_eq] at hlater
      omega
    simp [evaluate, hday, hcur, hnext]

/-- Every situation has one outcome, and that is the evaluation. -/
theorem Announces.evaluate_eq {now : Moment} {e : Evaluation} (h : w.Announces now e)
    (hw : w.Merged) : w.evaluate now = e := by
  cases h with
  | missing hday => simp [evaluate, hday]
  | within hday hs hcov =>
    have hcur := (hw _ _ hday).2.find?_covers_iff.mpr ⟨hs, hcov⟩
    simp [evaluate, hday, hcur]
  | @before ss s hday hnot hup =>
    have hcur : (ss.find? fun x => x.covers now.time) = none :=
      List.find?_eq_none.mpr fun x hx hcov => hnot ⟨x, hx, hcov⟩
    have hnext := (hw _ _ hday).2.find?_later_iff.mpr hup
    simp [evaluate, hday, hcur, hnext]
  | ahead hdone hfirst => rw [evaluate_of_done hdone, nextOpenDay_eq_opensOn_iff.mpr hfirst]
  | never hdone hnone => rw [evaluate_of_done hdone, nextOpenDay_eq_unavailable_iff.mpr hnone]

/-- The evaluation is the outcome of the situation. -/
theorem evaluate_eq_iff (hw : w.Merged) {now : Moment} {e : Evaluation} :
    w.evaluate now = e ↔ w.Announces now e := by
  constructor
  · rintro rfl
    exact announces_evaluate hw now
  · exact fun h => h.evaluate_eq hw

-- ---------------------------------------------------------------------------
-- The state of a text
-- ---------------------------------------------------------------------------

/-- An agency is open exactly while a range of its day's hours holds the minute, whatever the order
of the ranges and however they overlap, unless the hours are marked closed. -/
theorem evaluate_ofText_opened_iff (text : List Char) (now : Moment) :
    ((Week.ofText text).evaluate now).state = .opened ↔
      ∃ hours, Schedule.findHours (Text.lines text) now.weekday = some hours ∧
        Schedule.isClosedMarked hours = false ∧
        ∃ s ∈ Schedule.spans hours,
          s.start.minutes ≤ now.time.minutes ∧ now.time.minutes < s.stop.minutes := by
  -- sorting and merging keep the minutes that the raw ranges hold
  have hcovered : ∀ hours, (∃ s ∈ Schedule.spans hours,
      s.start.minutes ≤ now.time.minutes ∧ now.time.minutes < s.stop.minutes) ↔
      Span.Covered (Span.merge (Schedule.spans hours)) now.time := by
    intro hours
    rw [Span.covered_merge]
    simp only [Span.Covered, Span.covers_iff]
  rw [evaluate_state_eq_opened_iff]
  constructor
  · rintro ⟨ss, hday, hcov⟩
    obtain ⟨hours, hfind, hmark, -, rfl⟩ := Schedule.day_eq_opened_iff.mp hday
    exact ⟨hours, hfind, hmark, (hcovered hours).mpr hcov⟩
  · rintro ⟨hours, hfind, hmark, s, hs, hheld⟩
    have hne : Schedule.spans hours ≠ [] := List.ne_nil_of_mem hs
    exact ⟨_, Schedule.day_eq_opened_iff.mpr ⟨hours, hfind, hmark, hne, rfl⟩,
      (hcovered hours).mp ⟨s, hs, hheld⟩⟩

end Week

end OpeningHours
