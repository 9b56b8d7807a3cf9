import OpeningHours.Proofs.Folding
import OpeningHours.Proofs.RangeScan
import OpeningHours.Proofs.WeekReading

/-!
# OpeningHours — reading the canonical text back

The canonical text has a line for each of some days, and each line has the ranges of its day or the
closed mark. Reading such a text takes every line apart at the colon behind the code, finds no
closing word among digits and punctuation, and scans the ranges one by one. So a day of the text
says what its ranges say (`readRanges`), and all other days are missing.

The lines may come in any order. Where a day has several lines the first one counts, as in any text.

## Results

* `splitLine_dayLine`     — a line is taken apart into its day and its hours.
* `lines_canonicalText`   — the lines of the text are the lines it was made of.
* `readHours_hoursText`   — written hours say what the ranges say.
* `ofText_canonicalText`  — the week that a canonical text is read into.
-/

namespace OpeningHours.Schedule

-- ---------------------------------------------------------------------------
-- Characters of written hours
-- ---------------------------------------------------------------------------

/-- The character is among those from the dash to the colon, which are the digits and the marks that
stand in ranges. -/
def IsRangeChar (c : Char) : Prop :=
  0x2D ≤ c.toNat ∧ c.toNat ≤ 0x3A

theorem isRangeChar_digitChar {n : Nat} (h : n < 10) : IsRangeChar (Nat.digitChar n) := by
  rw [IsRangeChar, Nat.toNat_digitChar_of_lt_ten h]
  omega

theorem IsRangeChar.not_blank {c : Char} (h : IsRangeChar c) : Text.isBlank c = false := by
  obtain ⟨hlo, hhi⟩ := h
  -- the blanks up to 0x85 are 0x9 to 0xD and 0x20, all of them in front of the dash
  have h1 : ¬ c.toNat < 0x9 := by omega
  have h2 : ¬ c.toNat ≤ 0xD := by omega
  have h3 : ¬ c.toNat < 0x20 := by omega
  have h4 : ¬ c.toNat ≤ 0x20 := by omega
  have h5 : c.toNat < 0x85 := by omega
  simp only [Text.isBlank, Text.blankRanges, Unicode.RangeTable.has, h1, h2, h3, h4, h5, if_true,
    if_false]

theorem isRangeChar_of_mem_twoDigits {n : Nat} (h : n < 100) {c : Char}
    (hc : c ∈ TimeOfDay.twoDigits n) : IsRangeChar c := by
  simp only [TimeOfDay.twoDigits, List.mem_cons, List.not_mem_nil, or_false] at hc
  rcases hc with rfl | rfl
  · exact isRangeChar_digitChar (by omega)
  · exact isRangeChar_digitChar (by omega)

theorem isRangeChar_of_mem_clockText {t : TimeOfDay} {c : Char} (hc : c ∈ t.clockText) :
    IsRangeChar c := by
  have := t.hour_lt
  have := t.minute_lt
  rcases List.mem_append.mp hc with hc | hc
  · exact isRangeChar_of_mem_twoDigits (by omega) hc
  · rcases List.mem_cons.mp hc with rfl | hc
    · exact ⟨by decide, by decide⟩
    · exact isRangeChar_of_mem_twoDigits (by omega) hc

/-- A written range holds digits, colons, blanks and dashes only. -/
theorem isRangeChar_of_mem_rangeText {start stop : TimeOfDay} {c : Char}
    (hc : c ∈ rangeText start stop) : IsRangeChar c := by
  rcases List.mem_append.mp hc with hc | hc
  · exact isRangeChar_of_mem_clockText hc
  · rcases List.mem_cons.mp hc with rfl | hc
    · exact ⟨by decide, by decide⟩
    · exact isRangeChar_of_mem_clockText hc

/-- Written ranges hold digits and the marks of ranges only. -/
theorem isRangeChar_of_mem_hoursText {ranges : List (TimeOfDay × TimeOfDay)} (hne : ranges ≠ [])
    {c : Char} (hc : c ∈ hoursText ranges) : IsRangeChar c := by
  rw [hoursText, if_neg (by simpa using hne)] at hc
  rcases Text.mem_of_mem_join hc with hc | ⟨p, hp, hc⟩
  · rw [show rangeSeparator.toList = ['/'] from rfl, List.mem_singleton] at hc
    subst hc
    exact ⟨by decide, by decide⟩
  · obtain ⟨⟨start, stop⟩, -, rfl⟩ := List.mem_map.mp hp
    exact isRangeChar_of_mem_rangeText hc

-- ---------------------------------------------------------------------------
-- Lines
-- ---------------------------------------------------------------------------

/-- A line holds nothing but the code, the separator, the closed mark and the characters of
ranges. -/
theorem not_mem_dayLine {c : Char} (hcode : ∀ d : Weekday, c ∉ d.code.toList ++ daySeparator.toList)
    (hmark : c ∉ closedMark.toList) (hrange : ¬ IsRangeChar c) (d : Weekday)
    (ranges : List (TimeOfDay × TimeOfDay)) : c ∉ dayLine d ranges := by
  rw [dayLine, List.mem_append, not_or]
  refine ⟨hcode d, ?_⟩
  intro hmem
  by_cases hne : ranges = []
  · subst hne
    exact hmark hmem
  · exact hrange (isRangeChar_of_mem_hoursText hne hmem)

/-- Neither the code of a day nor its hours can break a line. -/
theorem break_not_mem_dayLine {c : Char} (hc : c = '\n' ∨ c = '\r') (d : Weekday)
    (ranges : List (TimeOfDay × TimeOfDay)) : c ∉ dayLine d ranges := by
  refine not_mem_dayLine ?_ ?_ ?_ d ranges
  · intro d
    rcases hc with rfl | rfl <;> cases d <;> decide
  · rcases hc with rfl | rfl <;> decide
  · -- ranges hold characters from the dash on, and a line is broken by earlier ones
    have hlow : c.toNat < 0x2D := by
      rcases hc with rfl | rfl <;> decide
    exact fun h => absurd h.1 (Nat.not_le_of_lt hlow)

/-- No line opens a break tag. -/
theorem open_not_mem_dayLine (d : Weekday) (ranges : List (TimeOfDay × TimeOfDay)) :
    '<' ∉ dayLine d ranges := by
  refine not_mem_dayLine ?_ (by decide) (fun h => absurd h.2 (by decide)) d ranges
  intro d
  cases d <;> decide

/-- A written line is neither blank nor broken. -/
theorem plainLine_dayLine (d : Weekday) (ranges : List (TimeOfDay × TimeOfDay)) :
    Text.PlainLine (dayLine d ranges) where
  ne_nil := by simp [dayLine, daySeparator]
  no_feed := break_not_mem_dayLine (.inl rfl) d ranges
  no_return := break_not_mem_dayLine (.inr rfl) d ranges

/-- A line is taken apart into its day and its hours. -/
theorem splitLine_dayLine (d : Weekday) (ranges : List (TimeOfDay × TimeOfDay)) :
    splitLine (dayLine d ranges) = some (d, ' ' :: hoursText ranges) := by
  have hline : dayLine d ranges = (d.code.toList ++ [' ']) ++ ':' :: ' ' :: hoursText ranges := by
    simp [dayLine, daySeparator]
  have hcolon : ':' ∉ d.code.toList ++ [' '] := by cases d <;> decide
  have hcode : Weekday.ofCode? (d.code.toList ++ [' ']) = some d := by cases d <;> rfl
  rw [splitLine_eq_some_iff, hline]
  exact ⟨_, Text.splitOnce_append _ hcolon, hcode⟩

/-- The schedule text with a line for each entry. -/
def canonicalText (entries : List (Weekday × List (TimeOfDay × TimeOfDay))) : List Char :=
  ofLines (entries.map fun e => dayLine e.1 e.2)

/-- The lines of the text are the lines it was made of. -/
theorem lines_canonicalText (entries : List (Weekday × List (TimeOfDay × TimeOfDay))) :
    Text.lines (canonicalText entries) = entries.map fun e => dayLine e.1 e.2 := by
  refine Text.lines_join ?_
  intro l hl
  obtain ⟨e, -, rfl⟩ := List.mem_map.mp hl
  exact plainLine_dayLine e.1 e.2

/-- The hours found for a day are those of its first entry. -/
theorem findHours_canonicalText (entries : List (Weekday × List (TimeOfDay × TimeOfDay)))
    (d : Weekday) :
    findHours (Text.lines (canonicalText entries)) d =
      (entries.find? fun e => decide (e.1 = d)).map fun e => ' ' :: hoursText e.2 := by
  rw [lines_canonicalText]
  induction entries with
  | nil => rfl
  | cons e entries ih =>
    rw [findHours] at ih
    rw [findHours, List.map_cons, List.findSome?_cons, splitLine_dayLine, List.find?_cons]
    by_cases hd : e.1 = d
    · simp [hd]
    · simpa [hd] using ih

-- ---------------------------------------------------------------------------
-- Hours
-- ---------------------------------------------------------------------------

/-- What ranges say of a day: closed without ranges, else open in the merged form of the spans that
they stand for, with an issue if there is no such span. -/
def readRanges (d : Weekday) (ranges : List (TimeOfDay × TimeOfDay)) :
    DaySchedule × Option ScheduleIssue :=
  if ranges = [] then (.closed, none)
  else if spansOf ranges = [] then
    (.closed, some (.unreadableHours d (String.ofList (hoursText ranges))))
  else (.opened (Span.merge (spansOf ranges)), none)

/-- Written hours say what the ranges say. -/
theorem readHours_hoursText (d : Weekday) (ranges : List (TimeOfDay × TimeOfDay)) :
    readHours d (' ' :: hoursText ranges) = readRanges d ranges := by
  by_cases hne : ranges = []
  · subst hne
    rw [readHours_eq, show hoursText [] = closedMark.toList from rfl,
      if_pos isClosedMarked_closedMark]
    rfl
  · have hchars : ∀ c ∈ ' ' :: hoursText ranges, c.toNat < 0x41 := by
      intro c hc
      rcases List.mem_cons.mp hc with rfl | hc
      · decide
      · exact Nat.lt_of_le_of_lt (isRangeChar_of_mem_hoursText hne hc).2 (by decide)
    have htrim : Text.trim (' ' :: hoursText ranges) = hoursText ranges := by
      rw [Text.trim_cons_of_blank (by decide)]
      exact Text.trim_eq_self fun c hc => (isRangeChar_of_mem_hoursText hne hc).not_blank
    rw [readHours_eq, isClosedMarked_eq_false hchars, if_neg (by simp), spans_hoursText hne, htrim,
      readRanges, if_neg hne]

-- ---------------------------------------------------------------------------
-- The week
-- ---------------------------------------------------------------------------

/-- What the entries say of a day. -/
def readEntries (entries : List (Weekday × List (TimeOfDay × TimeOfDay))) (d : Weekday) :
    DaySchedule × Option ScheduleIssue :=
  match entries.find? fun e => decide (e.1 = d) with
  | none => (.missing, some (.missingDay d))
  | some e => readRanges d e.2

/-- A day of a written text is what its entry says. -/
theorem readDay_canonicalText (entries : List (Weekday × List (TimeOfDay × TimeOfDay)))
    (d : Weekday) :
    readDay (Text.lines (canonicalText entries)) d = readEntries entries d := by
  rw [readDay, findHours_canonicalText, readEntries]
  cases entries.find? fun e => decide (e.1 = d) with
  | none => rfl
  | some e => exact readHours_hoursText d e.2

/-- A written text with an entry is not blank. -/
theorem trim_canonicalText_ne_nil {entries : List (Weekday × List (TimeOfDay × TimeOfDay))}
    (hne : entries ≠ []) : Text.trim (canonicalText entries) ≠ [] := by
  intro hblank
  obtain ⟨e, he⟩ := List.exists_mem_of_ne_nil entries hne
  have hline : dayLine e.1 e.2 ∈ Text.lines (canonicalText entries) := by
    rw [lines_canonicalText]
    exact List.mem_map_of_mem he
  exact not_hasLine_of_blank hblank e.1 ⟨_, hline, _, splitLine_dayLine e.1 e.2⟩

/-- The week that a canonical text is read into. -/
theorem ofText_canonicalText {entries : List (Weekday × List (TimeOfDay × TimeOfDay))}
    (hne : entries ≠ []) :
    Week.ofText (canonicalText entries) =
      { days := PerDay.ofFn fun d => (readEntries entries d).1
        issues := Weekday.all.filterMap fun d => (readEntries entries d).2 } := by
  have htrim := trim_canonicalText_ne_nil hne
  rw [Week.ofText, if_neg (by simpa using htrim)]
  simp only [readDay_canonicalText]

end OpeningHours.Schedule
