import Mathlib.Data.List.DropRight
import Mathlib.Data.List.Forall2
import OpeningHours.Proofs.EntryLines
import OpeningHours.Proofs.HoursTable

/-!
# OpeningHours — the printed hours table

The listing prints every row of the hours table as one line: the label, filled up to four
characters, and right behind it the hours. Four characters are room for the code of a day, and a
line whose label fits in there can be cut into label and hours again. A longer label has no end that
could be seen in the line, so what ends it may as well be the front of other hours.

* `Tidy r`           — what is known of a row of a table.
* `RunsInto r r'`    — the hours of one row start with what ends the label of the other.
* `PrintedAlike r r'` — two rows that have the same line.

## Results

* `join_rowLines_eq_iff`       — tables have the same lines exactly if their rows do, one by one.
* `tables_printed_alike`       — when two tables are printed alike; with short labels they are the
  same.
* `tables_run_together`        — two tables that differ and are printed alike.
-/

namespace OpeningHours

theorem Text.trimEnd_trimEnd (cs : List Char) : trimEnd (trimEnd cs) = trimEnd cs := by
  simp only [trimEnd, List.reverse_reverse, List.dropWhile_idempotent]

namespace Listing

open Schedule (Row rows)

-- ---------------------------------------------------------------------------
-- Rows of a table
-- ---------------------------------------------------------------------------

/-- A row of a table stays in one line, and its label does not end in a blank. -/
structure Tidy (r : Row) : Prop where
  feed_not_mem_label : '\n' ∉ r.label.toList
  feed_not_mem_hours : '\n' ∉ r.hours.toList
  trimEnd_label : Text.trimEnd r.label.toList = r.label.toList

theorem tidy_rowOfLine {line : List Char} (hfeed : '\n' ∉ line) :
    Tidy (Schedule.rowOfLine (Text.trim line)) := by
  have hline : '\n' ∉ Text.trim line := fun h => hfeed (Text.mem_of_mem_trim h)
  have hmark : '\n' ∉ Schedule.closedMark.toList := by decide
  cases hcut : Text.splitOnce ':' (Text.trim line) with
  | none =>
    simp only [Schedule.rowOfLine, hcut, List.isEmpty_nil, if_true]
    exact ⟨by simpa using hline, hmark, by simp [Text.trim, Text.trimEnd_trimEnd]⟩
  | some parts =>
    obtain ⟨before, after⟩ := parts
    rw [(Text.splitOnce_eq_some hcut).1, List.mem_append, List.mem_cons, not_or, not_or] at hline
    obtain ⟨hbefore, -, hafter⟩ := hline
    have hhours : '\n' ∉ (Schedule.shownHours after).toList := by
      rw [Schedule.shownHours]
      split
      · exact hmark
      · rw [String.toList_ofList]
        exact fun h => hafter (Text.mem_of_mem_trim h)
    cases hcode : Weekday.ofCode? before with
    | some d =>
      have hlabel : '\n' ∉ d.code.toList ∧ Text.trimEnd d.code.toList = d.code.toList := by
        cases d <;> decide
      simp only [Schedule.rowOfLine, hcut, hcode]
      exact ⟨hlabel.1, hhours, hlabel.2⟩
    | none =>
      simp only [Schedule.rowOfLine, hcut, hcode]
      refine ⟨?_, hhours, by simp [Text.trim, Text.trimEnd_trimEnd]⟩
      rw [String.toList_ofList]
      exact fun h => hbefore (Text.mem_of_mem_trim h)

/-- The rows of a text are tidy. -/
theorem tidy_of_mem_rows {text : List Char} {r : Row} (h : r ∈ rows text) : Tidy r := by
  obtain ⟨line, hline, -, rfl⟩ := Schedule.mem_rowsOf_iff.mp h
  exact tidy_rowOfLine (Text.feed_not_mem_of_mem_lines hline)

-- ---------------------------------------------------------------------------
-- One line
-- ---------------------------------------------------------------------------

/-- The line of a row without its line feed. -/
def shownRow (r : Row) : List Char :=
  "    ".toList ++ ((padTo 4 r.label).toList ++ r.hours.toList)

theorem toList_rowLine (r : Row) : (rowLine r).toList = shownRow r ++ ['\n'] := by
  simp [rowLine, shownRow]

theorem toList_padTo (width : Nat) (s : String) :
    (padTo width s).toList = s.toList ++ List.replicate (width - s.length) ' ' := by
  rw [padTo, String.toList_append, String.toList_ofList, String.length_toList]

/-- A text that is long enough is not padded. -/
theorem padTo_of_le {width : Nat} {s : String} (h : width ≤ s.length) : padTo width s = s := by
  rw [← String.toList_inj, toList_padTo, Nat.sub_eq_zero_of_le h, List.replicate_zero,
    List.append_nil]

theorem length_padTo (width : Nat) (s : String) :
    (padTo width s).toList.length = max width s.length := by
  rw [toList_padTo, List.length_append, List.length_replicate, String.length_toList]
  omega

/-- Blanks at the end of a label cannot be told from those that fill it up, but it has none. -/
theorem trimEnd_padTo (width : Nat) (s : String) :
    Text.trimEnd (padTo width s).toList = Text.trimEnd s.toList := by
  rw [toList_padTo]
  refine Text.trimEnd_append_of_blank ?_ _
  intro c hc
  rw [List.eq_of_mem_replicate hc]
  decide

/-- The label of `r'` goes on where `r` has its hours already: the hours of `r` start with what ends
that label, and the rest of them are the hours of `r'`. -/
def RunsInto (r' r : Row) : Prop :=
  ∃ piece, piece ≠ "" ∧ r'.label = padTo 4 r.label ++ piece ∧ r.hours = piece ++ r'.hours

/-- Two rows are the same, or the label of one runs into the hours of the other. -/
def PrintedAlike (r r' : Row) : Prop :=
  r = r' ∨ RunsInto r r' ∨ RunsInto r' r

/-- Only a label of more than four characters runs into its hours. -/
theorem RunsInto.length_label {r' r : Row} (h : RunsInto r' r) : 4 < r'.label.length := by
  obtain ⟨piece, hne, hlabel, -⟩ := h
  have hpos : piece.length ≠ 0 := by simpa using hne
  have hwidth := length_padTo 4 r.label
  rw [String.length_toList] at hwidth
  rw [hlabel, String.length_append]
  omega

/-- Two such rows are shown alike. -/
theorem RunsInto.shownRow_eq {r' r : Row} (h : RunsInto r' r) : shownRow r' = shownRow r := by
  have hlong := h.length_label
  obtain ⟨piece, -, hlabel, hhours⟩ := h
  rw [shownRow, padTo_of_le (Nat.le_of_lt hlong), shownRow, hlabel, hhours]
  simp only [String.toList_append, List.append_assoc]

/-- Where the filled label of one row is the front of the other one's, the rows are printed
alike. -/
theorem printedAlike_of_front {r r' : Row} (hr : Tidy r) (hr' : Tidy r') {piece : List Char}
    (hlabel : (padTo 4 r'.label).toList = (padTo 4 r.label).toList ++ piece)
    (hhours : r.hours.toList = piece ++ r'.hours.toList) : r = r' ∨ RunsInto r' r := by
  by_cases hpiece : piece = []
  · subst hpiece
    rw [List.append_nil] at hlabel
    have htrim := congrArg Text.trimEnd hlabel
    rw [trimEnd_padTo, trimEnd_padTo, hr.trimEnd_label, hr'.trimEnd_label] at htrim
    obtain ⟨label, hours⟩ := r
    obtain ⟨label', hours'⟩ := r'
    obtain rfl : label' = label := String.toList_inj.mp htrim
    obtain rfl : hours = hours' := String.toList_inj.mp hhours
    exact .inl rfl
  · -- a label that is longer than a filled one was not filled itself
    have hlong : 4 ≤ r'.label.length := by
      have hlen := congrArg List.length hlabel
      have hpos := List.length_pos_iff.mpr hpiece
      rw [List.length_append, length_padTo, length_padTo] at hlen
      omega
    rw [padTo_of_le hlong] at hlabel
    refine .inr ⟨String.ofList piece, by simpa using hpiece, ?_, ?_⟩
    · rw [← String.toList_inj, String.toList_append, String.toList_ofList, hlabel]
    · rw [← String.toList_inj, String.toList_append, String.toList_ofList, hhours]

/-- Tidy rows are shown alike exactly if they are the same, or one label runs into its hours. -/
theorem shownRow_eq_iff {r r' : Row} (hr : Tidy r) (hr' : Tidy r') :
    shownRow r = shownRow r' ↔ PrintedAlike r r' := by
  constructor
  · intro h
    rcases List.append_eq_append_iff.mp (List.append_cancel_left h) with
      ⟨piece, hlabel, hhours⟩ | ⟨piece, hlabel, hhours⟩
    · exact (printedAlike_of_front hr hr' hlabel hhours).imp_right .inr
    · rcases printedAlike_of_front hr' hr hlabel hhours with rfl | hinto
      · exact .inl rfl
      · exact .inr (.inl hinto)
  · rintro (rfl | hinto | hinto)
    · rfl
    · exact hinto.shownRow_eq
    · exact hinto.shownRow_eq.symm

/-- Labels of four characters at most are told apart. -/
theorem PrintedAlike.eq_of_length_le {r r' : Row} (h : PrintedAlike r r')
    (hr : r.label.length ≤ 4) (hr' : r'.label.length ≤ 4) : r = r' := by
  rcases h with rfl | hinto | hinto
  · rfl
  · exact absurd hinto.length_label (Nat.not_lt.mpr hr)
  · exact absurd hinto.length_label (Nat.not_lt.mpr hr')

-- ---------------------------------------------------------------------------
-- The lines of a table
-- ---------------------------------------------------------------------------

/-- A shown row is one line. -/
theorem feed_not_mem_shownRow {r : Row} (h : Tidy r) : '\n' ∉ shownRow r := by
  have hlabel := h.feed_not_mem_label
  have hhours := h.feed_not_mem_hours
  simp [shownRow, toList_padTo, hlabel, hhours]

theorem toList_join_rowLines (rs : List Row) :
    (String.join (rs.map rowLine)).toList = (rs.map shownRow).flatMap fun t => t ++ ['\n'] := by
  rw [String.toList_join, List.flatMap_map, List.flatMap_map]
  exact congrArg (List.flatMap · rs) (funext toList_rowLine)

/-- The lines of a table are cut apart at the line feeds, for no row holds one. -/
theorem endedLines_join_rowLines {rs : List Row} (h : ∀ r ∈ rs, Tidy r) :
    Journal.endedLines (String.join (rs.map rowLine)).toList = rs.map shownRow := by
  rw [toList_join_rowLines, Journal.endedLines_eq_iff]
  intro t ht
  obtain ⟨r, hr, rfl⟩ := List.mem_map.mp ht
  exact feed_not_mem_shownRow (h r hr)

/-- Tables have the same lines exactly if their rows are printed alike, one by one. -/
theorem join_rowLines_eq_iff {rs rs' : List Row} (h : ∀ r ∈ rs, Tidy r) (h' : ∀ r ∈ rs', Tidy r) :
    String.join (rs.map rowLine) = String.join (rs'.map rowLine) ↔
      List.Forall₂ PrintedAlike rs rs' := by
  have hrows : rs.map shownRow = rs'.map shownRow ↔ List.Forall₂ PrintedAlike rs rs' := by
    rw [← List.forall₂_eq_eq_eq, List.forall₂_map_left_iff, List.forall₂_map_right_iff]
    induction rs generalizing rs' with
    | nil => simp
    | cons r rs ih =>
      obtain ⟨hr, hrs⟩ := List.forall_mem_cons.mp h
      cases rs' with
      | nil => simp
      | cons r' rs' =>
        obtain ⟨hr', hrs'⟩ := List.forall_mem_cons.mp h'
        rw [List.forall₂_cons, List.forall₂_cons, shownRow_eq_iff hr hr', ih hrs hrs']
  rw [← hrows]
  constructor
  · intro heq
    rw [← endedLines_join_rowLines h, heq, endedLines_join_rowLines h']
  · intro heq
    rw [← String.toList_inj, toList_join_rowLines, heq, toList_join_rowLines]

/-- Rows with short labels that are printed alike are the same. -/
theorem eq_of_forall₂_printedAlike {rs rs' : List Row} (h : List.Forall₂ PrintedAlike rs rs')
    (hshort : ∀ r ∈ rs ++ rs', r.label.length ≤ 4) : rs = rs' := by
  induction h with
  | nil => rfl
  | cons halike hrest ih =>
    rename_i r r' rs rs'
    have hr := hshort r (by simp)
    have hr' := hshort r' (by simp)
    rw [halike.eq_of_length_le hr hr', ih fun s hs => hshort s ?_]
    rcases List.mem_append.mp hs with hs | hs <;> simp [hs]

-- ---------------------------------------------------------------------------
-- Views that differ in their tables
-- ---------------------------------------------------------------------------

/-- Views that differ in nothing but their tables are printed alike exactly if the tables are. -/
theorem block_eq_iff (v : View) (rs rs' : List Row) :
    block { v with rows := rs } = block { v with rows := rs' } ↔
      String.join (rs.map rowLine) = String.join (rs'.map rowLine) := by
  unfold block
  dsimp only
  rw [String.append_left_inj]
  exact String.append_right_inj _

/-- Two listings that differ in one view are the same exactly if its block is. -/
theorem render_eq_iff (front back : List View) (v v' : View) :
    render (front ++ v :: back) = render (front ++ v' :: back) ↔ block v = block v' := by
  simp only [render, List.map_append, List.map_cons, String.join_append, String.join_cons,
    String.append_left_inj, String.append_right_inj]

/-- **When two hours tables are printed alike.** The listings of two views that differ in nothing
but their tables are the same exactly if the tables have as many rows, and each row of the one is
the row of the other or one of the two labels runs into the hours of the other row. This takes a
label of more than four characters: tables without such labels are printed differently if they
differ. -/
theorem tables_printed_alike (front back : List View) (v : View) (text text' : List Char) :
    let shown := fun text => render (front ++ { v with rows := rows text } :: back)
    (shown text = shown text' ↔ List.Forall₂ PrintedAlike (rows text) (rows text')) ∧
    ((∀ r ∈ rows text ++ rows text', r.label.length ≤ 4) → rows text ≠ rows text' →
      shown text ≠ shown text') := by
  intro shown
  have hiff : shown text = shown text' ↔ List.Forall₂ PrintedAlike (rows text) (rows text') := by
    rw [render_eq_iff, block_eq_iff]
    exact join_rowLines_eq_iff (fun r => tidy_of_mem_rows) (fun r => tidy_of_mem_rows)
  refine ⟨hiff, ?_⟩
  intro hshort hne heq
  exact hne (eq_of_forall₂_printedAlike (hiff.mp heq) hshort)

/-- A label that is no code runs into its hours: a digit can be its end or the front of the
hours. -/
theorem tables_run_together :
    rows "Mardi1 : 0:00-12:00".toList ≠ rows "Mardi : 10:00-12:00".toList ∧
      ∀ v : View, render [{ v with rows := rows "Mardi1 : 0:00-12:00".toList }] =
        render [{ v with rows := rows "Mardi : 10:00-12:00".toList }] := by
  have hrows : rows "Mardi1 : 0:00-12:00".toList = [⟨"Mardi1", "0:00-12:00"⟩] := by decide
  have hrows' : rows "Mardi : 10:00-12:00".toList = [⟨"Mardi", "10:00-12:00"⟩] := by decide
  have hinto : RunsInto ⟨"Mardi1", "0:00-12:00"⟩ ⟨"Mardi", "10:00-12:00"⟩ :=
    ⟨"1", by decide, by decide, by decide⟩
  refine ⟨by rw [hrows, hrows']; decide, fun v => ?_⟩
  refine (render_eq_iff [] [] _ _).mpr ((block_eq_iff v _ _).mpr ?_)
  rw [join_rowLines_eq_iff (fun r => tidy_of_mem_rows) (fun r => tidy_of_mem_rows), hrows, hrows']
  exact .cons (.inr (.inl hinto)) .nil

end Listing

end OpeningHours
