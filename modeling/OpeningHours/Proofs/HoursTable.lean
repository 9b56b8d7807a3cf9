import OpeningHours.Listing
import OpeningHours.Proofs.BlankEdges
import OpeningHours.Proofs.NextEvent
import OpeningHours.Proofs.WeekInvariant

/-!
# OpeningHours — the hours table and the decoded week

The table and the week are made from the same lines by two cuts that differ in what they trim. A
line is cut at its first colon by both, so for lines with a colon they agree: the row of a day's
line is labelled with the code of the day and shows the trimmed hours, and no other line with a
colon has a row of that label. The table also keeps lines without a colon. Such a line is a row of
its own even where it is nothing but the code of a day, while the week has no line for that day.

* `HasBareCode text d` — some line of the text is the code of the day and nothing else.
* `ShownFrom`          — the table shows the hours that a day is read from.

## Results

* `label_rowOfLine_iff`    — which lines have a row that is labelled with the code of a day.
* `rows_agree_with_status` — a day has a row exactly when it is not missing or its bare code is a
  line.
* `rows_show_day`          — the table shows the hours of every day that is not missing.
-/

namespace OpeningHours

/-- The code of a day names no other day. -/
theorem Weekday.code_injective {d e : Weekday} (h : d.code = e.code) : d = e := by
  revert h
  cases d <;> cases e <;> decide

/-- Blanks around a code make no difference. -/
theorem Weekday.ofCode?_congr {cs ds : List Char} (h : Text.trim cs = Text.trim ds) :
    ofCode? cs = ofCode? ds := by
  rw [ofCode?, ofCode?, h]

namespace Schedule

-- ---------------------------------------------------------------------------
-- Rows of lines
-- ---------------------------------------------------------------------------

/-- The rows of some lines. -/
def rowsOf (lines : List (List Char)) : List Row :=
  ((lines.map Text.trim).filter fun line => !line.isEmpty).map rowOfLine

theorem rows_eq_rowsOf (text : List Char) : rows text = rowsOf (Text.lines text) := rfl

/-- The rows of two lists of lines are those of both. -/
theorem rowsOf_append (front back : List (List Char)) :
    rowsOf (front ++ back) = rowsOf front ++ rowsOf back := by
  simp [rowsOf]

/-- A line in front that is not blank adds its row in front. -/
theorem rowsOf_cons {line : List Char} (h : Text.trim line ≠ []) (lines : List (List Char)) :
    rowsOf (line :: lines) = rowOfLine (Text.trim line) :: rowsOf lines := by
  simp [rowsOf, h]

/-- The rows are those of the lines that are not blank. -/
theorem mem_rowsOf_iff {lines : List (List Char)} {r : Row} :
    r ∈ rowsOf lines ↔ ∃ line ∈ lines, Text.trim line ≠ [] ∧ rowOfLine (Text.trim line) = r := by
  simp only [rowsOf, List.mem_map, List.mem_filter, Bool.not_eq_true', List.isEmpty_eq_false_iff]
  constructor
  · rintro ⟨_, ⟨⟨line, hline, rfl⟩, hne⟩, hrow⟩
    exact ⟨line, hline, hne, hrow⟩
  · rintro ⟨line, hline, hne, hrow⟩
    exact ⟨_, ⟨⟨line, hline, rfl⟩, hne⟩, hrow⟩

/-- What the table shows for the hours of a line. -/
def shownHours (hours : List Char) : String :=
  if (Text.trim hours).isEmpty then closedMark else String.ofList (Text.trim hours)

theorem colon_not_blank : Text.isBlank ':' = false := by decide

/-- A line with a colon is not blank. -/
theorem trim_ne_nil_of_splitOnce {line before after : List Char}
    (h : Text.splitOnce ':' line = some (before, after)) : Text.trim line ≠ [] := by
  rw [Text.trim_of_splitOnce colon_not_blank h]
  simp

/-- The row of a line for a day has the day's code and its hours, as they are shown. -/
theorem rowOfLine_of_splitLine {line hours : List Char} {d : Weekday}
    (h : splitLine line = some (d, hours)) :
    rowOfLine (Text.trim line) = ⟨d.code, shownHours hours⟩ := by
  obtain ⟨before, hcut, hcode⟩ := splitLine_eq_some_iff.mp h
  have hcode' : Weekday.ofCode? (Text.trimStart before) = some d :=
    (Weekday.ofCode?_congr (Text.trim_trimStart before)).trans hcode
  simp only [rowOfLine, Text.splitOnce_trim colon_not_blank hcut, hcode', Text.trim_trimEnd,
    shownHours]

/-- The line is the code of the day, without a colon behind it. -/
def IsBareCode (line : List Char) (d : Weekday) : Prop :=
  Text.trim line = d.code.toList

theorem colon_not_mem_of_isBareCode {line : List Char} {d : Weekday} (h : IsBareCode line d) :
    ':' ∉ line := by
  rw [← Text.splitOnce_eq_none_iff]
  cases hcut : Text.splitOnce ':' line with
  | none => rfl
  | some parts =>
    -- trimming keeps the colon, and no code has one
    have hcode : ':' ∉ d.code.toList := by cases d <;> decide
    rw [← h, Text.trim_of_splitOnce colon_not_blank hcut] at hcode
    simp at hcode

/-- The row of a bare code shows the closed mark. -/
theorem rowOfLine_of_isBareCode {line : List Char} {d : Weekday} (h : IsBareCode line d) :
    rowOfLine (Text.trim line) = ⟨d.code, closedMark⟩ := by
  rw [h]
  cases d <;> rfl

/-- The lines whose rows are labelled with the code of a day are those of the day, and its code
without a colon. -/
theorem label_rowOfLine_iff {line : List Char} {d : Weekday} :
    (rowOfLine (Text.trim line)).label = d.code ↔
      (∃ hours, splitLine line = some (d, hours)) ∨ IsBareCode line d := by
  constructor
  · intro h
    cases hcut : Text.splitOnce ':' line with
    | none =>
      -- without a colon the whole line is the label
      have hcut' : Text.splitOnce ':' (Text.trim line) = none := by
        rw [Text.splitOnce_eq_none_iff] at hcut ⊢
        exact fun hmem => hcut (Text.mem_of_mem_trim hmem)
      simp only [rowOfLine, hcut'] at h
      exact .inr (by rw [IsBareCode, ← h, String.toList_ofList])
    | some parts =>
      obtain ⟨before, after⟩ := parts
      have hcut' := Text.splitOnce_trim colon_not_blank hcut
      cases hcode : Weekday.ofCode? (Text.trimStart before) with
      | some e =>
        simp only [rowOfLine, hcut', hcode] at h
        obtain rfl := Weekday.code_injective h
        have hcode' := (Weekday.ofCode?_congr (Text.trim_trimStart before)).symm.trans hcode
        exact .inl ⟨after, splitLine_eq_some_iff.mpr ⟨before, hcut, hcode'⟩⟩
      | none =>
        -- the label is no code, since a code would have been found
        simp only [rowOfLine, hcut', hcode] at h
        have htrim : Text.trim (Text.trimStart before) = d.code.toList := by
          rw [← h, String.toList_ofList]
        have hcode' : Weekday.ofCode? (Text.trimStart before) = Weekday.ofCode? d.code.toList := by
          refine Weekday.ofCode?_congr (htrim.trans ?_)
          cases d <;> rfl
        rw [hcode', Weekday.ofCode?_code] at hcode
        simp at hcode
  · rintro (⟨hours, hsplit⟩ | hbare)
    · rw [rowOfLine_of_splitLine hsplit]
    · rw [rowOfLine_of_isBareCode hbare]

-- ---------------------------------------------------------------------------
-- Rows of a missing day
-- ---------------------------------------------------------------------------

/-- Some line of the text is the code of the day and nothing else. -/
def HasBareCode (text : List Char) (d : Weekday) : Prop :=
  ∃ line ∈ Text.lines text, IsBareCode line d

/-- A row with the code of a day comes from a line of the day, or from its bare code and then shows
the closed mark. -/
theorem day_of_label {text : List Char} {d : Weekday} {r : Row} (hr : r ∈ rows text)
    (hlabel : r.label = d.code) :
    (Week.ofText text).day d ≠ .missing ∨ r.hours = closedMark ∧ HasBareCode text d := by
  obtain ⟨line, hline, -, rfl⟩ := mem_rowsOf_iff.mp hr
  rcases label_rowOfLine_iff.mp hlabel with ⟨hours, hsplit⟩ | hbare
  · exact .inl fun hmissing => day_eq_missing_iff.mp hmissing ⟨line, hline, hours, hsplit⟩
  · exact .inr ⟨by rw [rowOfLine_of_isBareCode hbare], line, hline, hbare⟩

/-- A day has a row exactly if it is not missing, or if its bare code stands on a line. -/
theorem exists_label_iff {text : List Char} {d : Weekday} :
    (∃ r ∈ rows text, r.label = d.code) ↔
      (Week.ofText text).day d ≠ .missing ∨ HasBareCode text d := by
  constructor
  · rintro ⟨r, hr, hlabel⟩
    exact (day_of_label hr hlabel).imp_right And.right
  · rintro (hday | ⟨line, hline, hbare⟩)
    · rw [ne_eq, day_eq_missing_iff, Classical.not_not] at hday
      obtain ⟨line, hline, hours, hsplit⟩ := hday
      obtain ⟨before, hcut, -⟩ := splitLine_eq_some_iff.mp hsplit
      exact ⟨_, mem_rowsOf_iff.mpr ⟨line, hline, trim_ne_nil_of_splitOnce hcut, rfl⟩,
        label_rowOfLine_iff.mpr (.inl ⟨hours, hsplit⟩)⟩
    · have hne : Text.trim line ≠ [] := by
        rw [hbare]
        cases d <;> decide
      exact ⟨_, mem_rowsOf_iff.mpr ⟨line, hline, hne, rfl⟩, label_rowOfLine_iff.mpr (.inr hbare)⟩

end Schedule

open Schedule

/-- Only a day without a line is said to have no schedule. -/
theorem NextEvent.eq_unavailable_of_text {e : NextEvent} (h : e.text = "Horaire indisponible") :
    e = .unavailable .schedule := by
  have hchars := congrArg String.toList h
  cases e with
  | closesAt t => simp [text] at hchars
  | opensAt t => simp [text] at hchars
  | opensOn d => simp [text] at hchars
  | unavailable what =>
    cases what with
    | schedule => rfl
    | hours => simp [text] at hchars

/-- **A row for a day without a schedule.** A day has a row exactly when it is not missing or its
bare code is a line. So where the listing says that there is no schedule, a row of that day comes
from its bare code and shows the closed mark. -/
theorem Schedule.rows_agree_with_status :
    (∀ text d, (∃ r ∈ rows text, r.label = d.code) ↔
      (Week.ofText text).day d ≠ .missing ∨ HasBareCode text d) ∧
    ∀ a now, (View.ofAgency now a).evaluation.next.text = "Horaire indisponible" →
      ∀ r ∈ (View.ofAgency now a).rows, r.label = now.weekday.code →
        r.hours = closedMark ∧ HasBareCode a.schedule.toList now.weekday := by
  refine ⟨fun text d => exists_label_iff, ?_⟩
  intro a now htext r hr hlabel
  have hmissing : (Week.ofText a.schedule.toList).day now.weekday = .missing := by
    have hnext := NextEvent.eq_unavailable_of_text htext
    exact (Week.unavailable_schedule_iff (Week.merged_ofText _)).mp hnext
  exact (day_of_label hr hlabel).resolve_left fun hday => hday hmissing

/-- The bare code of a missing day has a row. -/
theorem Schedule.bareCode_row_of_missing :
    (∃ r ∈ rows "LU".toList, r.label = Weekday.monday.code) ∧
      (Week.ofText "LU".toList).day .monday = .missing := by
  decide

namespace Schedule

-- ---------------------------------------------------------------------------
-- The row of a day
-- ---------------------------------------------------------------------------

/-- The line that shows hours for a day. -/
def lineShowing (d : Weekday) (hours : String) : List Char :=
  d.code.toList ++ daySeparator.toList ++ hours.toList

/-- A shown row, written as a line, is cut into its day and its hours again. -/
theorem splitLine_lineShowing (d : Weekday) (hours : String) :
    splitLine (lineShowing d hours) = some (d, ' ' :: hours.toList) := by
  have hline : lineShowing d hours = (d.code.toList ++ [' ']) ++ ':' :: ' ' :: hours.toList := by
    simp [lineShowing, daySeparator]
  have hcolon : ':' ∉ d.code.toList ++ [' '] := by cases d <;> decide
  have hcode : Weekday.ofCode? (d.code.toList ++ [' ']) = some d := by cases d <;> rfl
  rw [splitLine_eq_some_iff, hline]
  exact ⟨_, Text.splitOnce_append _ hcolon, hcode⟩

theorem lines_of_no_feed {cs : List Char} (hne : cs ≠ []) (h : '\n' ∉ cs) :
    Text.lines cs = [cs] := by
  rw [Text.lines, Text.pieces_of_not_mem h, Text.linesOfPieces, if_neg (by simpa using hne)]

/-- Shown hours say of a day what the hours themselves say. -/
theorem readHours_shownHours (d : Weekday) (hours : List Char) :
    (readHours d (' ' :: (shownHours hours).toList)).1 = (readHours d hours).1 := by
  by_cases htrim : Text.trim hours = []
  · -- blank hours name no span, and the closed mark in their place closes the day as well
    have hnone : spans hours = [] := by rw [← spans_trim, htrim]; rfl
    have hopen : isClosedMarked hours = false := by rw [← isClosedMarked_trim, htrim]; rfl
    rw [shownHours, if_pos (by simp [htrim]), readHours_eq, if_pos isClosedMarked_closedMark,
      readHours_eq, hopen, hnone]
    rfl
  · have hblank : Text.AllBlank [' '] := List.forall_mem_singleton.mpr (by decide)
    have hmark := isClosedMarked_edges hblank (List.forall_mem_nil _) (Text.trim hours)
    have hspans := spans_edges hblank (List.forall_mem_nil _) (Text.trim hours)
    rw [List.append_nil, List.singleton_append] at hmark hspans
    rw [shownHours, if_neg (by simpa using htrim), String.toList_ofList, readHours_eq, hmark,
      hspans,
      isClosedMarked_trim, spans_trim, readHours_eq]
    split
    · rfl
    · split <;> rfl

theorem feed_not_mem_lineShowing {hours : List Char} (d : Weekday) (h : '\n' ∉ hours) :
    '\n' ∉ lineShowing d (shownHours hours) := by
  have hcode : '\n' ∉ d.code.toList ++ daySeparator.toList := by cases d <;> decide
  rw [lineShowing, List.mem_append, not_or]
  refine ⟨hcode, ?_⟩
  rw [shownHours]
  split
  · decide
  · rw [String.toList_ofList]
    exact fun hmem => h (Text.mem_of_mem_trim hmem)

/-- The line that shows the hours of a day says of it what they say. -/
theorem day_lineShowing {hours : List Char} (d : Weekday) (hfeed : '\n' ∉ hours) :
    (Week.ofText (lineShowing d (shownHours hours))).day d = (readHours d hours).1 := by
  have hlines := lines_of_no_feed (by simp [lineShowing, daySeparator])
    (feed_not_mem_lineShowing d hfeed)
  have hfind : findHours [lineShowing d (shownHours hours)] d =
      some (' ' :: (shownHours hours).toList) := by
    simp [findHours, splitLine_lineShowing]
  rw [day_ofText_eq, hlines, readDay, hfind]
  exact readHours_shownHours d hours

/-- The table shows the hours that a day is read from: those behind the colon of its first line, or
the closed mark where they are blank. -/
structure ShownFrom (text : List Char) (d : Weekday) (front : List (List Char)) (line : List Char)
    (back : List (List Char)) (hours : List Char) : Prop where
  lines : Text.lines text = front ++ line :: back
  split : splitLine line = some (d, hours)
  found : findHours (Text.lines text) d = some hours
  row : rows text = rowsOf front ++ ⟨d.code, shownHours hours⟩ :: rowsOf back
  /-- No line with a colon in front of it has a row of the same label. -/
  first : ∀ l ∈ front, ':' ∈ l → ∀ r ∈ rowsOf [l], r.label ≠ d.code
  /-- The row alone, as a line, says the same of the day. -/
  alone : (Week.ofText (lineShowing d (shownHours hours))).day d = (Week.ofText text).day d

/-- **The table shows the hours of every day that is not missing.** -/
theorem rows_show_day {text : List Char} {d : Weekday} (h : (Week.ofText text).day d ≠ .missing) :
    ∃ front line back hours, ShownFrom text d front line back hours := by
  rw [ne_eq, day_eq_missing_iff, Classical.not_not, hasLine_iff] at h
  obtain ⟨hours, front, line, back, hlines, hsplit, hfront⟩ := h
  obtain ⟨before, hcut, -⟩ := splitLine_eq_some_iff.mp hsplit
  have hfound : findHours (Text.lines text) d = some hours :=
    findHours_eq_some_iff.mpr ⟨front, line, back, hlines, hsplit, hfront⟩
  refine ⟨front, line, back, hours, hlines, hsplit, hfound, ?_, ?_, ?_⟩
  · rw [rows_eq_rowsOf, hlines, rowsOf_append, rowsOf_cons (trim_ne_nil_of_splitOnce hcut),
      rowOfLine_of_splitLine hsplit]
  · -- earlier lines with a colon are no lines of the day, and have more than its code
    intro l hl hcolon r hr hlabel
    obtain ⟨l', hl', -, rfl⟩ := mem_rowsOf_iff.mp hr
    obtain rfl := List.mem_singleton.mp hl'
    rcases label_rowOfLine_iff.mp hlabel with ⟨other, hother⟩ | hbare
    · exact hfront l' hl other hother
    · exact colon_not_mem_of_isBareCode hbare hcolon
  · have hline : line ∈ Text.lines text := by simp [hlines]
    have hfeed : '\n' ∉ hours := by
      intro hmem
      refine Text.feed_not_mem_of_mem_lines hline ?_
      rw [(Text.splitOnce_eq_some hcut).1]
      exact List.mem_append_right _ (List.mem_cons_of_mem _ hmem)
    rw [day_lineShowing d hfeed, day_ofText_eq, readDay, hfound]

/-- A table with a note and a bare code in front of the line of the day, and another line behind
it. -/
theorem rows_show_monday :
    (Week.ofText "Note\nLU\n lu :  08:00 - 12:00 \nLU : 13:00-14:00".toList).day .monday ≠
        .missing ∧
      ∃ front line back hours,
        ShownFrom "Note\nLU\n lu :  08:00 - 12:00 \nLU : 13:00-14:00".toList .monday front line back
          hours := by
  have hday : (Week.ofText
      "Note\nLU\n lu :  08:00 - 12:00 \nLU : 13:00-14:00".toList).day .monday ≠ .missing := by
    decide
  exact ⟨hday, rows_show_day hday⟩

end Schedule

end OpeningHours
