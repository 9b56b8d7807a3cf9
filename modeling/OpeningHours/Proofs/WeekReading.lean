import OpeningHours.Proofs.Lines
import OpeningHours.Proofs.MergedSpans
import OpeningHours.Schedule.Week

/-!
# OpeningHours — what a schedule text says of a day

A text is read day by day, and each day from its first line alone. A blank text has no line for any
day, so the rule for blank texts and the rule for all others agree on the days; they differ in the
issues only.

* `HasLine text d`  — some line of the text starts with the code of the day and a colon.
* `Week.Merged w`   — every open day has spans, and they are separated.

## Results

* `day_ofText_eq`      — every day of every text is read on its own.
* `day_eq_missing_iff` — a day is missing exactly when it has no line.
* `day_eq_opened_iff`  — when a day is open, and in which spans.
* `merged_ofText`      — the week that a text is read into is merged.
-/

namespace OpeningHours.Schedule

-- ---------------------------------------------------------------------------
-- Lines of a day
-- ---------------------------------------------------------------------------

/-- The text has a line for the day. -/
def HasLine (text : List Char) (d : Weekday) : Prop :=
  ∃ line ∈ Text.lines text, ∃ hours, splitLine line = some (d, hours)

/-- A line is for a day exactly if the day's code stands before its first colon. -/
theorem splitLine_eq_some_iff {line : List Char} {d : Weekday} {hours : List Char} :
    splitLine line = some (d, hours) ↔
      ∃ code, Text.splitOnce ':' line = some (code, hours) ∧ Weekday.ofCode? code = some d := by
  unfold splitLine
  constructor
  · intro h
    obtain ⟨⟨code, rest⟩, hcut, h⟩ := Option.bind_eq_some_iff.mp h
    obtain ⟨e, hcode, h⟩ := Option.bind_eq_some_iff.mp h
    simp only [Option.some.injEq, Prod.mk.injEq] at h
    obtain ⟨rfl, rfl⟩ := h
    exact ⟨code, hcut, hcode⟩
  · rintro ⟨code, hcut, hcode⟩
    simp [hcut, hcode]

/-- A line of a day has a colon. -/
theorem colon_mem_of_splitLine {line : List Char} {d : Weekday} {hours : List Char}
    (h : splitLine line = some (d, hours)) : ':' ∈ line := by
  obtain ⟨code, hcut, -⟩ := splitLine_eq_some_iff.mp h
  rw [(Text.splitOnce_eq_some hcut).1]
  simp

/-- No hours are found exactly when no line is the day's. -/
theorem findHours_eq_none_iff {text : List Char} {d : Weekday} :
    findHours (Text.lines text) d = none ↔ ¬ HasLine text d := by
  rw [findHours, List.findSome?_eq_none_iff]
  constructor
  · rintro h ⟨line, hline, hours, hsplit⟩
    have := h line hline
    simp [hsplit] at this
  · intro h line hline
    split
    · rename_i e hours hsplit
      rw [if_neg]
      rintro rfl
      exact h ⟨line, hline, hours, hsplit⟩
    · rfl

/-- A blank text has no line for any day. -/
theorem not_hasLine_of_blank {text : List Char} (h : Text.trim text = []) (d : Weekday) :
    ¬ HasLine text d := by
  rintro ⟨line, hline, hours, hsplit⟩
  have hcolon := Text.mem_of_mem_lines hline (colon_mem_of_splitLine hsplit)
  have hblank := Text.trim_eq_nil_iff.mp h ':' hcolon
  exact absurd hblank (by decide)

-- ---------------------------------------------------------------------------
-- Entries of a day
-- ---------------------------------------------------------------------------

/-- Every day is read on its own, whether or not the text is blank. -/
theorem day_ofText_eq (text : List Char) (d : Weekday) :
    (Week.ofText text).day d = (readDay (Text.lines text) d).1 := by
  by_cases h : Text.trim text = []
  · -- a blank text is not looked at line by line, but it has no line to be found either
    have hnone := findHours_eq_none_iff.mpr (not_hasLine_of_blank h d)
    rw [readDay, hnone, Week.ofText, if_pos (by simp [h])]
    simp [Week.day]
  · exact Week.day_ofText h d

/-- Hours close a day by a closing word, else they open it in the merged form of the spans they
name, with an issue if they name none. -/
theorem readHours_eq (d : Weekday) (hours : List Char) :
    readHours d hours =
      if isClosedMarked hours then (.closed, none)
      else if spans hours = [] then
        (.closed, some (.unreadableHours d (String.ofList (Text.trim hours))))
      else (.opened (Span.merge (spans hours)), none) := by
  have hnil : Span.merge (spans hours) = [] ↔ spans hours = [] := Span.merge_eq_nil_iff
  rw [readHours]
  split
  · rfl
  · split
    · rename_i hmerge
      rw [if_pos (hnil.mp hmerge)]
    · rename_i s rest hmerge
      rw [← hmerge, if_neg]
      rw [← hnil, hmerge]
      simp

/-- A day with a line is not missing. -/
theorem readHours_ne_missing (d : Weekday) (hours : List Char) :
    (readHours d hours).1 ≠ .missing := by
  rw [readHours_eq]
  split
  · simp
  · split <;> simp

/-- A day is missing exactly when it has no line. -/
theorem day_eq_missing_iff {text : List Char} {d : Weekday} :
    (Week.ofText text).day d = .missing ↔ ¬ HasLine text d := by
  rw [day_ofText_eq, ← findHours_eq_none_iff, readDay]
  cases findHours (Text.lines text) d with
  | none => simp
  | some hours => simpa using readHours_ne_missing d hours

/-- Hours open a day in the merged form of the spans they name, if there are any and no closing
word stands beside them. -/
theorem readHours_eq_opened_iff {d : Weekday} {hours : List Char} {ss : List Span} :
    (readHours d hours).1 = .opened ss ↔
      isClosedMarked hours = false ∧ spans hours ≠ [] ∧ ss = Span.merge (spans hours) := by
  rw [readHours_eq]
  split
  · rename_i hmark
    simp [hmark]
  · rename_i hmark
    split
    · rename_i hnone
      simp [hnone]
    · rename_i hsome
      simp [hmark, hsome, eq_comm]

/-- When a day is open, and in which spans. -/
theorem day_eq_opened_iff {text : List Char} {d : Weekday} {ss : List Span} :
    (Week.ofText text).day d = .opened ss ↔
      ∃ hours, findHours (Text.lines text) d = some hours ∧ isClosedMarked hours = false ∧
        spans hours ≠ [] ∧ ss = Span.merge (spans hours) := by
  rw [day_ofText_eq, readDay]
  cases findHours (Text.lines text) d with
  | none => simp
  | some hours => simp [readHours_eq_opened_iff]

end OpeningHours.Schedule

namespace OpeningHours

-- ---------------------------------------------------------------------------
-- Issues of a day
-- ---------------------------------------------------------------------------

/-- The day that an issue is about, if it is about one. -/
def ScheduleIssue.day? : ScheduleIssue → Option Weekday
  | missingDay d => some d
  | unreadableHours d _ => some d
  | noSchedule => none

/-- The issues about a day, in the order they were found. -/
def Week.issuesFor (w : Week) (d : Weekday) : List ScheduleIssue :=
  w.issues.filter fun i => i.day? = some d

/-- Of issues that were gathered day by day, those about a day are the ones gathered there. -/
theorem filter_day?_filterMap {f : Weekday → Option ScheduleIssue}
    (hf : ∀ e i, f e = some i → i.day? = some e) (d : Weekday) :
    ((Weekday.all.filterMap f).filter fun i => i.day? = some d) = (f d).toList := by
  -- what is kept of a day's issue depends on the day alone
  have hkeep : ∀ e, (f e).filter (fun i => decide (i.day? = some d)) =
      if e = d then f e else none := by
    intro e
    cases hfe : f e with
    | none => simp
    | some i => simp [Option.filter, hf e i hfe]
  rw [List.filter_filterMap]
  simp only [hkeep]
  cases hfd : f d with
  | none => cases d <;> simp [Weekday.all, hfd]
  | some i => cases d <;> simp [Weekday.all, hfd]

-- ---------------------------------------------------------------------------
-- Merged weeks
-- ---------------------------------------------------------------------------

/-- Every open day has spans, and they are separated. -/
def Week.Merged (w : Week) : Prop :=
  ∀ d ss, w.day d = .opened ss → ss ≠ [] ∧ Span.Separated ss

/-- The week that a text is read into is merged. -/
theorem Week.merged_ofText (text : List Char) : (Week.ofText text).Merged := by
  intro d ss h
  obtain ⟨hours, -, -, hne, rfl⟩ := Schedule.day_eq_opened_iff.mp h
  exact ⟨fun hnil => hne (Span.merge_eq_nil_iff.mp hnil), Span.separated_merge _⟩

end OpeningHours
