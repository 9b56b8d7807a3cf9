import OpeningHours.Proofs.CanonicalText
import OpeningHours.Schedule.DayRecord

/-!
# OpeningHours — recorded hours survive as text

Records are written as a canonical text with a line for every day, Monday first, and the text is
read like any other. Nothing is lost on the way: a day is open in the merged spans that its first
record gives, and closed if it has no record, if the record has no usable pair of times, or if no
pair is in order. Only the last of these is an issue, since only there ranges were written that say
nothing.

Which pairs a record gives is stated by `Chosen`, with one rule for each of the cases.

## Results

* `chooses_iff`             — the rules choose exactly the ranges of a record.
* `day_textOfRecords`, `issuesFor_textOfRecords` — what a day is read as.
* `recordOf?_insert`        — records that come too late or name no day do not count.
* `ofText_textOfRecords`    — writing records and reading the text.
-/

namespace OpeningHours

namespace Schedule

-- ---------------------------------------------------------------------------
-- The choice of ranges
-- ---------------------------------------------------------------------------

/-- The ranges that four times give, where any of them may be left out. -/
inductive Chosen : (firstStart firstStop secondStart secondStop : Option TimeOfDay) →
    List (TimeOfDay × TimeOfDay) → Prop
  /-- A day without a break has its outer times only. -/
  | outer (a d : TimeOfDay) : Chosen (some a) none none (some d) [(a, d)]
  /-- Both halves of the day have both times. -/
  | halves (a b c d : TimeOfDay) : Chosen (some a) (some b) (some c) (some d) [(a, b), (c, d)]
  /-- Only the first half has both times. -/
  | first (a b : TimeOfDay) {c d : Option TimeOfDay} (h : c = none ∨ d = none) :
      Chosen (some a) (some b) c d [(a, b)]
  /-- Only the second half has both times. -/
  | second {a b : Option TimeOfDay} (c d : TimeOfDay) (h : a = none ∨ b = none) :
      Chosen a b (some c) (some d) [(c, d)]
  /-- Neither half has both times, and the outer times are not the only ones. -/
  | neither {a b c d : Option TimeOfDay} (hfirst : a = none ∨ b = none)
      (hsecond : c = none ∨ d = none) (houter : a = none ∨ b ≠ none ∨ c ≠ none ∨ d = none) :
      Chosen a b c d []

/-- The ranges that are computed are those that the rules choose. -/
theorem chosen_rangesBetween (a b c d : Option TimeOfDay) :
    Chosen a b c d (DayRecord.rangesBetween a b c d) := by
  -- the split follows the patterns of the choice, from the first start to the second stop
  cases a with
  | none =>
    cases c with
    | none => exact .neither (.inl rfl) (.inl rfl) (.inl rfl)
    | some c =>
      cases d with
      | none => exact .neither (.inl rfl) (.inr rfl) (.inl rfl)
      | some d => exact .second c d (.inl rfl)
  | some a =>
    cases b with
    | none =>
      cases c with
      | none =>
        cases d with
        | none => exact .neither (.inr rfl) (.inl rfl) (.inr (.inr (.inr rfl)))
        | some d => exact .outer a d
      | some c =>
        cases d with
        | none => exact .neither (.inr rfl) (.inr rfl) (.inr (.inr (.inr rfl)))
        | some d => exact .second c d (.inr rfl)
    | some b =>
      cases c with
      | none => exact .first a b (.inl rfl)
      | some c =>
        cases d with
        | none => exact .first a b (.inr rfl)
        | some d => exact .halves a b c d

/-- The rules never give two answers. -/
theorem Chosen.eq_rangesBetween {a b c d : Option TimeOfDay} {ranges : List (TimeOfDay × TimeOfDay)}
    (h : Chosen a b c d ranges) : DayRecord.rangesBetween a b c d = ranges := by
  cases h with
  | outer a d => rfl
  | halves a b c d => rfl
  | first a b h =>
    rcases h with rfl | rfl
    · rfl
    · cases c <;> rfl
  | second c d h =>
    rcases h with rfl | rfl
    · rfl
    · cases a <;> rfl
  | neither hfirst hsecond houter =>
    rcases hfirst with rfl | rfl
    · rcases hsecond with rfl | rfl
      · rfl
      · cases c <;> rfl
    · rcases hsecond with rfl | rfl
      · cases a with
        | none => rfl
        | some a =>
          cases d with
          | none => rfl
          | some d => simp at houter
      · cases a <;> cases c <;> rfl

/-- The record gives the ranges, once its boundaries are resolved in the zone. -/
def DayRecord.Chooses (zone : Zone) (r : DayRecord) (ranges : List (TimeOfDay × TimeOfDay)) :
    Prop :=
  Chosen (r.firstStart.bind (Boundary.time? zone)) (r.firstStop.bind (Boundary.time? zone))
    (r.secondStart.bind (Boundary.time? zone)) (r.secondStop.bind (Boundary.time? zone)) ranges

/-- The rules choose exactly the ranges of a record. -/
theorem DayRecord.chooses_iff {zone : Zone} {r : DayRecord}
    {ranges : List (TimeOfDay × TimeOfDay)} : r.Chooses zone ranges ↔ r.ranges zone = ranges := by
  constructor
  · exact fun h => h.eq_rangesBetween
  · rintro rfl
    exact chosen_rangesBetween _ _ _ _

-- ---------------------------------------------------------------------------
-- The record of a day
-- ---------------------------------------------------------------------------

/-- A record that names no day, or a day that has a record in front of it, does not count. -/
theorem recordOf?_insert {front back : List DayRecord} {r : DayRecord}
    (h : r.weekday? = none ∨ ∃ e ∈ front, e.weekday? = r.weekday?) (d : Weekday) :
    recordOf? (front ++ r :: back) d = recordOf? (front ++ back) d := by
  simp only [recordOf?, List.find?_append, List.find?_cons]
  by_cases hr : r.weekday? = some d
  · rcases h with hnone | ⟨e, he, hsame⟩
    · rw [hnone] at hr
      simp at hr
    · -- the record in front is found first
      have hfound : (front.find? fun x => decide (x.weekday? = some d)).isSome = true := by
        rw [List.find?_isSome]
        exact ⟨e, he, by simp [hsame, hr]⟩
      obtain ⟨x, hx⟩ := Option.isSome_iff_exists.mp hfound
      simp [hx]
  · simp [hr]

-- ---------------------------------------------------------------------------
-- Reading
-- ---------------------------------------------------------------------------

/-- The lines of the text of records: every day and its ranges, Monday first. -/
def recordedEntries (zone : Zone) (records : List DayRecord) :
    List (Weekday × List (TimeOfDay × TimeOfDay)) :=
  Weekday.mondayFirst.map fun d => (d, rangesOf zone records d)

/-- The text of records is a canonical one. -/
theorem textOfRecords_eq_canonicalText (zone : Zone) (records : List DayRecord) :
    textOfRecords zone records = canonicalText (recordedEntries zone records) := by
  rw [textOfRecords, canonicalText, recordedEntries, List.map_map]
  rfl

/-- Every day is read as its own ranges say. -/
theorem readEntries_recordedEntries (zone : Zone) (records : List DayRecord) (d : Weekday) :
    readEntries (recordedEntries zone records) d = readRanges d (rangesOf zone records d) := by
  have hday : (Weekday.mondayFirst.find? fun e => decide (e = d)) = some d := by
    cases d <;> rfl
  rw [readEntries, recordedEntries, List.find?_map]
  simp only [Function.comp_def, hday, Option.map_some]

/-- A day of the text is what its ranges say. -/
theorem day_textOfRecords (zone : Zone) (records : List DayRecord) (d : Weekday) :
    (Week.ofText (textOfRecords zone records)).day d =
      (readRanges d (rangesOf zone records d)).1 := by
  rw [day_ofText_eq, textOfRecords_eq_canonicalText, readDay_canonicalText,
    readEntries_recordedEntries]

/-- The issues of the text are those of its days, in order. -/
theorem issues_textOfRecords (zone : Zone) (records : List DayRecord) :
    (Week.ofText (textOfRecords zone records)).issues =
      Weekday.all.filterMap fun d => (readRanges d (rangesOf zone records d)).2 := by
  rw [textOfRecords_eq_canonicalText, ofText_canonicalText (by simp [recordedEntries,
    Weekday.mondayFirst])]
  simp only [readEntries_recordedEntries]

/-- An issue about ranges is about their day. -/
theorem eq_unreadableHours_of_readRanges {d : Weekday} {ranges : List (TimeOfDay × TimeOfDay)}
    {i : ScheduleIssue} (h : (readRanges d ranges).2 = some i) :
    i = .unreadableHours d (String.ofList (hoursText ranges)) := by
  unfold readRanges at h
  split at h
  · simp at h
  · split at h
    · exact (Option.some.inj h).symm
    · simp at h

/-- The issues about a day are those of its ranges. -/
theorem issuesFor_textOfRecords (zone : Zone) (records : List DayRecord) (d : Weekday) :
    (Week.ofText (textOfRecords zone records)).issuesFor d =
      (readRanges d (rangesOf zone records d)).2.toList := by
  rw [Week.issuesFor, issues_textOfRecords, filter_day?_filterMap]
  intro e i hi
  rw [eq_unreadableHours_of_readRanges hi]
  rfl

/-- The ranges of a day are those that its first record gives. -/
theorem rangesOf_of_chooses {zone : Zone} {records : List DayRecord} {d : Weekday} {r : DayRecord}
    {ranges : List (TimeOfDay × TimeOfDay)} (hr : recordOf? records d = some r)
    (hc : r.Chooses zone ranges) : rangesOf zone records d = ranges := by
  rw [rangesOf, hr]
  exact DayRecord.chooses_iff.mp hc

/-- Writing records as a text and reading it gives every day what its first record says. -/
theorem ofText_textOfRecords (zone : Zone) (records : List DayRecord) :
    let text := textOfRecords zone records
    let w := Week.ofText text
    ((Text.lines text).map fun line => (splitLine line).map Prod.fst) =
      Weekday.mondayFirst.map some ∧
    (∀ d, recordOf? records d = none ∨ (∃ r, recordOf? records d = some r ∧ r.Chooses zone []) →
      w.day d = .closed ∧ w.issuesFor d = []) ∧
    (∀ d r ranges, recordOf? records d = some r → r.Chooses zone ranges → spansOf ranges ≠ [] →
      w.day d = .opened (Span.merge (spansOf ranges)) ∧ w.issuesFor d = []) ∧
    (∀ d r ranges, recordOf? records d = some r → r.Chooses zone ranges → ranges ≠ [] →
      spansOf ranges = [] →
      w.day d = .closed ∧
        w.issuesFor d = [.unreadableHours d (String.ofList (hoursText ranges))]) ∧
    (∀ d, w.day d ≠ .missing) ∧
    (∀ i ∈ w.issues, ∃ d hours, i = .unreadableHours d hours) ∧
    (∀ r : DayRecord, ∃ ranges, ∀ ranges', r.Chooses zone ranges' ↔ ranges = ranges') ∧
    ∀ front r back, records = front ++ r :: back →
      (r.weekday? = none ∨ ∃ e ∈ front, e.weekday? = r.weekday?) →
      textOfRecords zone (front ++ back) = text := by
  intro text w
  have hread : ∀ d ranges, rangesOf zone records d = ranges →
      w.day d = (readRanges d ranges).1 ∧ w.issuesFor d = (readRanges d ranges).2.toList := by
    rintro d _ rfl
    exact ⟨day_textOfRecords zone records d, issuesFor_textOfRecords zone records d⟩
  refine ⟨?_, ?_, ?_, ?_, ?_, ?_, fun r => ⟨r.ranges zone, fun _ => r.chooses_iff⟩, ?_⟩
  · -- one line for every day
    show (Text.lines (textOfRecords zone records)).map _ = _
    rw [textOfRecords_eq_canonicalText, lines_canonicalText, List.map_map]
    simp only [Function.comp_def, splitLine_dayLine, Option.map_some]
    rfl
  · -- a day without ranges
    intro d h
    refine hread d [] ?_
    rcases h with hnone | ⟨r, hr, hc⟩
    · rw [rangesOf, hnone]
    · exact rangesOf_of_chooses hr hc
  · -- a day with a range in order
    intro d r ranges hr hc hspans
    have hne : ranges ≠ [] := by
      rintro rfl
      exact hspans rfl
    obtain ⟨hday, hissues⟩ := hread d ranges (rangesOf_of_chooses hr hc)
    rw [hday, hissues, readRanges, if_neg hne, if_neg hspans]
    exact ⟨rfl, rfl⟩
  · -- a day with ranges of which none is in order
    intro d r ranges hr hc hne hspans
    obtain ⟨hday, hissues⟩ := hread d ranges (rangesOf_of_chooses hr hc)
    rw [hday, hissues, readRanges, if_neg hne, if_pos hspans]
    exact ⟨rfl, rfl⟩
  · -- no day is left out
    intro d
    rw [(hread d _ rfl).1, readRanges]
    split
    · simp
    · split <;> simp
  · -- no other issue
    intro i hi
    have hi' : i ∈ (Week.ofText (textOfRecords zone records)).issues := hi
    rw [issues_textOfRecords] at hi'
    obtain ⟨d, -, hd⟩ := List.mem_filterMap.mp hi'
    exact ⟨d, _, eq_unreadableHours_of_readRanges hd⟩
  · -- records that do not count
    intro front r back hrecords hlate
    show textOfRecords zone (front ++ back) = textOfRecords zone records
    simp only [textOfRecords, rangesOf, hrecords, recordOf?_insert hlate]

end Schedule

end OpeningHours
