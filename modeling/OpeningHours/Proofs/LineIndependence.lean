import OpeningHours.Proofs.BlankEdges
import OpeningHours.Proofs.WeekInvariant
import OpeningHours.Schedule.Week

/-!
# OpeningHours — the lines of a text are independent

A day is read from the first line that says something of it. So it does not matter where lines of
other days stand, what further lines of the day follow, or what lines there are that name no day;
and a line of one day has no say in any other day.

A text cut into lines loses the carriage return at the end of a line, and a line that is empty at
its end. Neither says anything of a day, so a text that joins lines is read like the lines
themselves.

* `readLine? d line` — what a line says of a day.
* `Rearranged`       — lines changed so that every day keeps its first line.
* `Replaced d`       — lines of which one of a day has become another one of that day.

## Results

* `readDay_eq`              — a day is what the first line says of it.
* `readDay_lines_ofLines`   — a text of lines is read like the lines.
* `FirstLine.readDay_eq`    — the first line of a day decides on it.
* `Rearranged.readDay_eq`, `Replaced.readDay_eq` — what a change of lines keeps.
* `ofText_lines_independent` — so the week, or the other days of it, stay as they are.
-/

namespace OpeningHours.Schedule

open Text

-- ---------------------------------------------------------------------------
-- One line
-- ---------------------------------------------------------------------------

/-- What a line says of a day, with the flaw found in it, if it is a line of the day. -/
def readLine? (d : Weekday) (line : List Char) : Option (DaySchedule × Option ScheduleIssue) :=
  match splitLine line with
  | some (e, hours) => if e = d then some (readHours d hours) else none
  | none => none

/-- A line for no day says nothing of any day. -/
theorem readLine?_of_none {line : List Char} (h : splitLine line = none) (d : Weekday) :
    readLine? d line = none := by
  rw [readLine?, h]

/-- A line for a day says what its hours say. -/
theorem readLine?_of_day {line hours : List Char} {d : Weekday}
    (h : splitLine line = some (d, hours)) : readLine? d line = some (readHours d hours) := by
  rw [readLine?, h]
  exact if_pos rfl

/-- A line for a day says nothing of another day. -/
theorem readLine?_of_other {line hours : List Char} {d e : Weekday}
    (h : splitLine line = some (d, hours)) (hne : d ≠ e) : readLine? e line = none := by
  rw [readLine?, h]
  exact if_neg hne

/-- A day is what the first line says of it. -/
theorem readDay_eq (ls : List (List Char)) (d : Weekday) :
    readDay ls d = (ls.findSome? (readLine? d)).getD (.missing, some (.missingDay d)) := by
  induction ls with
  | nil => rfl
  | cons line ls ih =>
    rw [readDay, findHours] at ih
    rw [readDay, findHours, List.findSome?_cons, List.findSome?_cons]
    cases hsplit : splitLine line with
    | none => rw [readLine?_of_none hsplit]; exact ih
    | some cut =>
      obtain ⟨e, hours⟩ := cut
      by_cases he : e = d
      · subst he
        rw [readLine?_of_day hsplit]
        simp
      · rw [readLine?_of_other hsplit he]
        simpa [he] using ih

/-- Blanks behind the hours do not matter. -/
theorem readHours_append_blank {back : List Char} (hback : AllBlank back) (d : Weekday)
    (hours : List Char) : readHours d (hours ++ back) = readHours d hours := by
  have hfront : AllBlank [] := List.forall_mem_nil _
  have hspans := spans_edges hfront hback hours
  have hmark := isClosedMarked_edges hfront hback hours
  have htrim := trim_append_of_blank hfront hback hours
  rw [List.nil_append] at hspans hmark htrim
  rw [readHours_eq, readHours_eq, hspans, hmark, htrim]

/-- What stands behind a line, and holds no colon, belongs to its hours. -/
theorem splitLine_append {back : List Char} (hback : ':' ∉ back) (line : List Char) :
    splitLine (line ++ back) = (splitLine line).map fun cut => (cut.1, cut.2 ++ back) := by
  unfold splitLine
  cases hcut : splitOnce ':' line with
  | none =>
    have hcolon : ':' ∉ line ++ back := by
      rw [List.mem_append, not_or]
      exact ⟨splitOnce_eq_none_iff.mp hcut, hback⟩
    rw [splitOnce_eq_none_iff.mpr hcolon]
    rfl
  | some parts =>
    obtain ⟨code, hours⟩ := parts
    obtain ⟨rfl, hcode⟩ := splitOnce_eq_some hcut
    have hlonger : splitOnce ':' (code ++ ':' :: hours ++ back) = some (code, hours ++ back) := by
      rw [List.append_assoc, List.cons_append]
      exact splitOnce_append _ hcode
    rw [hlonger]
    cases hday : Weekday.ofCode? code <;> simp [hday]

/-- Blanks behind a line do not matter. -/
theorem readLine?_append_blank {back : List Char} (hback : AllBlank back) (d : Weekday)
    (line : List Char) : readLine? d (line ++ back) = readLine? d line := by
  have hcolon : ':' ∉ back := fun hmem => absurd (hback ':' hmem) (by decide)
  rw [readLine?, readLine?, splitLine_append hcolon]
  cases splitLine line with
  | none => rfl
  | some cut => simp only [Option.map_some, readHours_append_blank hback]

/-- The carriage return at the end of a line says nothing. -/
theorem readLine?_dropReturn (d : Weekday) (line : List Char) :
    readLine? d (dropReturn line) = readLine? d line := by
  rw [dropReturn]
  split
  · rename_i hlast
    obtain ⟨front, rfl⟩ := List.getLast?_eq_some_iff.mp hlast
    have hreturn : AllBlank ['\r'] := List.forall_mem_singleton.mpr (by decide)
    rw [List.dropLast_concat, readLine?_append_blank hreturn]
  · rfl

-- ---------------------------------------------------------------------------
-- Joined lines
-- ---------------------------------------------------------------------------

/-- The pieces between line feeds say what the lines say. -/
theorem findSome?_linesOfPieces (d : Weekday) (ps : List (List Char)) :
    (linesOfPieces ps).findSome? (readLine? d) = ps.findSome? (readLine? d) := by
  induction ps with
  | nil => rfl
  | cons p ps ih =>
    cases ps with
    | nil =>
      rw [linesOfPieces]
      split
      · -- an empty piece at the end is no line
        rename_i hempty
        rw [List.isEmpty_iff.mp hempty]
        rfl
      · rfl
    | cons q qs =>
      rw [linesOfPieces, List.findSome?_cons, List.findSome?_cons, readLine?_dropReturn, ih]
      simp

/-- A text of lines is read like the lines. -/
theorem readDay_lines_ofLines {ls : List (List Char)} (h : ∀ l ∈ ls, '\n' ∉ l) (d : Weekday) :
    readDay (lines (ofLines ls)) d = readDay ls d := by
  rw [readDay_eq, readDay_eq]
  cases ls with
  | nil => rfl
  | cons l ls =>
    rw [lines, ofLines, pieces_join (by simp) h, findSome?_linesOfPieces]

/-- Joined lines are blank if each of them is. -/
theorem trim_ofLines_eq_nil_iff {ls : List (List Char)} :
    trim (ofLines ls) = [] ↔ ∀ l ∈ ls, AllBlank l := by
  rw [trim_eq_nil_iff]
  constructor
  · exact fun h l hl c hc => h c (mem_join_of_mem hl hc)
  · intro h c hc
    rcases mem_of_mem_join hc with hfeed | ⟨l, hl, hc⟩
    · rw [List.mem_singleton.mp hfeed]
      decide
    · exact h l hl c hc

-- ---------------------------------------------------------------------------
-- Changes of lines
-- ---------------------------------------------------------------------------

/-- The lines were changed, and every day kept its first line. -/
inductive Rearranged : List (List Char) → List (List Char) → Prop
  /-- A line that names no day was inserted. -/
  | foreign {front back : List (List Char)} {l : List Char} (hl : splitLine l = none) :
      Rearranged (front ++ back) (front ++ l :: back)
  /-- A line was inserted somewhere behind the first line of its day. -/
  | later {front back : List (List Char)} {first l hours hours' : List Char} {d : Weekday}
      (hfirst : first ∈ front) (hday : splitLine first = some (d, hours))
      (hl : splitLine l = some (d, hours')) : Rearranged (front ++ back) (front ++ l :: back)
  /-- Two neighbouring lines of different days changed their places. -/
  | swapped {front back : List (List Char)} {l m hours hours' : List Char} {d e : Weekday}
      (hl : splitLine l = some (d, hours)) (hm : splitLine m = some (e, hours')) (hne : d ≠ e) :
      Rearranged (front ++ l :: m :: back) (front ++ m :: l :: back)

/-- A line of the day, the first one or another, became another line of the day. -/
inductive Replaced (d : Weekday) : List (List Char) → List (List Char) → Prop
  | mk {front back : List (List Char)} {l l' hours hours' : List Char}
      (hl : splitLine l = some (d, hours)) (hl' : splitLine l' = some (d, hours')) :
      Replaced d (front ++ l :: back) (front ++ l' :: back)

variable {ls ls' : List (List Char)}

/-- The first line of a day decides on it. -/
theorem FirstLine.readDay_eq {text hours : List Char} {d : Weekday} (h : FirstLine text d hours) :
    readDay (lines text) d = readHours d hours := by
  rw [readDay, findHours_eq_some_iff.mpr h]

/-- Lines that keep the first line of every day say the same of every day. -/
theorem Rearranged.readDay_eq (h : Rearranged ls ls') (e : Weekday) :
    readDay ls' e = readDay ls e := by
  rw [Schedule.readDay_eq, Schedule.readDay_eq]
  congr 1
  cases h with
  | foreign hl =>
    rw [List.findSome?_append, List.findSome?_append, List.findSome?_cons, readLine?_of_none hl]
  | @later front back first l hours hours' d hfirst hday hl =>
    rw [List.findSome?_append, List.findSome?_append, List.findSome?_cons]
    by_cases he : d = e
    · -- the day is decided in front of the inserted line
      subst he
      obtain ⟨said, hsaid⟩ : ∃ said, front.findSome? (readLine? d) = some said := by
        rw [← Option.isSome_iff_exists, List.findSome?_isSome_iff]
        exact ⟨first, hfirst, by rw [readLine?_of_day hday]; rfl⟩
      rw [hsaid, Option.some_or, Option.some_or]
    · rw [readLine?_of_other hl he]
  | @swapped front back l m hours hours' d e' hl hm hne =>
    simp only [List.findSome?_append, List.findSome?_cons]
    by_cases he : d = e
    · -- only the first of the two lines is one of the day
      subst he
      rw [readLine?_of_other hm (Ne.symm hne), readLine?_of_day hl]
    · rw [readLine?_of_other hl he]

/-- A line of one day says nothing of another. -/
theorem Replaced.readDay_eq {d : Weekday} (h : Replaced d ls ls') {e : Weekday} (hne : e ≠ d) :
    readDay ls' e = readDay ls e := by
  rw [Schedule.readDay_eq, Schedule.readDay_eq]
  cases h with
  | mk hl hl' =>
    simp only [List.findSome?_append, List.findSome?_cons, readLine?_of_other hl hne.symm,
      readLine?_of_other hl' hne.symm]

/-- A line of a day is not blank. -/
theorem not_allBlank_of_splitLine {l hours : List Char} {d : Weekday}
    (h : splitLine l = some (d, hours)) : ¬ AllBlank l :=
  fun hblank => absurd (hblank ':' (colon_mem_of_splitLine h)) (by decide)

/-- No change of these makes a text blank. -/
theorem Rearranged.trim_ne_nil (h : Rearranged ls ls') (hls : trim (ofLines ls) ≠ []) :
    trim (ofLines ls') ≠ [] := by
  rw [ne_eq, trim_ofLines_eq_nil_iff] at hls ⊢
  intro hblank
  apply hls
  intro l hl
  refine hblank l ?_
  cases h with
  | foreign hl' =>
    exact List.mem_append.mpr ((List.mem_append.mp hl).imp_right (List.mem_cons_of_mem _))
  | later hfirst hday hl' =>
    exact List.mem_append.mpr ((List.mem_append.mp hl).imp_right (List.mem_cons_of_mem _))
  | swapped hl' hm hne =>
    rw [List.mem_append, List.mem_cons, List.mem_cons] at hl ⊢
    exact hl.imp_right or_left_comm.mp

/-- A text with a replaced line is not blank. -/
theorem Replaced.trim_ne_nil {d : Weekday} (h : Replaced d ls ls') : trim (ofLines ls') ≠ [] := by
  rw [ne_eq, trim_ofLines_eq_nil_iff]
  cases h with
  | @mk front back l l' hours hours' hl hl' =>
    exact fun hblank => not_allBlank_of_splitLine hl'
      (hblank l' (List.mem_append_right _ (List.mem_cons_self ..)))

end OpeningHours.Schedule

namespace OpeningHours.Week

open Schedule Text

-- ---------------------------------------------------------------------------
-- The week
-- ---------------------------------------------------------------------------

/-- Texts whose lines say the same of every day are read into the same week. -/
theorem ofText_congr {text text' : List Char} (h : trim text ≠ []) (h' : trim text' ≠ [])
    (hdays : ∀ d, readDay (lines text') d = readDay (lines text) d) :
    ofText text' = ofText text := by
  rw [ofText, ofText, if_neg (by simpa using h'), if_neg (by simpa using h)]
  simp only [hdays]

/-- The issues of a day are what was found wrong with it. -/
theorem issuesFor_ofText {text : List Char} (h : trim text ≠ []) (d : Weekday) :
    (ofText text).issuesFor d = (readDay (lines text) d).2.toList := by
  rw [issuesFor, issues_ofText h]
  exact filter_day?_filterMap (fun e i hi => (readDay_snd_eq_some_iff.mp hi).day?_eq) d

/-- The state at a moment is decided by its day. -/
theorem state_evaluate_congr {w w' : Week} {d : Weekday} (h : w'.day d = w.day d)
    (time : TimeOfDay) : (w'.evaluate ⟨d, time⟩).state = (w.evaluate ⟨d, time⟩).state := by
  rw [evaluate, evaluate, h]
  cases w.day d with
  | missing => rfl
  | closed => rfl
  | opened ss =>
    dsimp only
    cases ss.find? fun s => s.covers time with
    | some current => rfl
    | none =>
      dsimp only
      cases ss.find? fun s => time.minutes < s.start.minutes <;> rfl

/-- **The lines of a text are independent.** A day is what its first line says of it. Where every
day keeps its first line, the week stays as it is; and a line of one day, replaced by another one of
that day, has no say in the entries, the issues and the states of the other days. -/
theorem ofText_lines_independent {ls ls' : List (List Char)} (hls : ∀ l ∈ ls, '\n' ∉ l)
    (hls' : ∀ l ∈ ls', '\n' ∉ l) (hblank : trim (ofLines ls) ≠ []) :
    (∀ d hours, FirstLine (ofLines ls) d hours →
      (ofText (ofLines ls)).day d = (readHours d hours).1 ∧
      (ofText (ofLines ls)).issuesFor d = (readHours d hours).2.toList) ∧
    (Rearranged ls ls' → ofText (ofLines ls') = ofText (ofLines ls)) ∧
    ∀ d, Replaced d ls ls' → ∀ e, e ≠ d →
      (ofText (ofLines ls')).day e = (ofText (ofLines ls)).day e ∧
      (ofText (ofLines ls')).issuesFor e = (ofText (ofLines ls)).issuesFor e ∧
      ∀ time, ((ofText (ofLines ls')).evaluate ⟨e, time⟩).state =
        ((ofText (ofLines ls)).evaluate ⟨e, time⟩).state := by
  have hread := readDay_lines_ofLines hls
  have hread' := readDay_lines_ofLines hls'
  refine ⟨?_, ?_, ?_⟩
  · intro d hours h
    rw [day_ofText_eq, issuesFor_ofText hblank, h.readDay_eq]
    exact ⟨rfl, rfl⟩
  · intro h
    refine ofText_congr hblank (h.trim_ne_nil hblank) fun d => ?_
    rw [hread, hread', h.readDay_eq]
  · intro d h e hne
    have hsame : readDay (lines (ofLines ls')) e = readDay (lines (ofLines ls)) e := by
      rw [hread, hread', h.readDay_eq hne]
    have hday : (ofText (ofLines ls')).day e = (ofText (ofLines ls)).day e := by
      rw [day_ofText_eq, day_ofText_eq, hsame]
    refine ⟨hday, ?_, state_evaluate_congr hday⟩
    rw [issuesFor_ofText hblank, issuesFor_ofText h.trim_ne_nil, hsame]

/-- A line with a carriage return at its end and one that cannot be read: in both orders, and with
another line in place of the first one. -/
theorem ofText_lines_independent_swapped :
    let monday := "LU : 08:00-12:00\r".toList
    let monday' := "LU : sur rendez-vous".toList
    let tuesday := "MA : 9h:30".toList
    trim (ofLines [monday, tuesday]) ≠ [] ∧
      (ofText (ofLines [monday, tuesday])).day .tuesday = (readHours .tuesday " 9h:30".toList).1 ∧
      ofText (ofLines [tuesday, monday]) = ofText (ofLines [monday, tuesday]) ∧
      (ofText (ofLines [monday', tuesday])).day .tuesday =
        (ofText (ofLines [monday, tuesday])).day .tuesday := by
  intro monday monday' tuesday
  have hfeed : ∀ l ∈ [monday, tuesday], '\n' ∉ l := by decide
  have hfeed' : ∀ l ∈ [tuesday, monday], '\n' ∉ l := by decide
  have hfeed'' : ∀ l ∈ [monday', tuesday], '\n' ∉ l := by decide
  have hblank : trim (ofLines [monday, tuesday]) ≠ [] := by decide
  have hfirst : FirstLine (ofLines [monday, tuesday]) .tuesday " 9h:30".toList :=
    findHours_eq_some_iff.mp (by decide)
  have hswapped : Rearranged [monday, tuesday] [tuesday, monday] :=
    @Rearranged.swapped [] [] monday tuesday _ _ .monday .tuesday rfl rfl (by decide)
  have hreplaced : Replaced .monday [monday, tuesday] [monday', tuesday] :=
    @Replaced.mk .monday [] [tuesday] monday monday' _ _ rfl rfl
  exact ⟨hblank, ((ofText_lines_independent hfeed hfeed' hblank).1 _ _ hfirst).1,
    (ofText_lines_independent hfeed hfeed' hblank).2.1 hswapped,
    ((ofText_lines_independent hfeed hfeed'' hblank).2.2 _ hreplaced .tuesday (by decide)).1⟩

end OpeningHours.Week
