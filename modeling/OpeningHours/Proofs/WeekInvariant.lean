import OpeningHours.Proofs.WeekReading

/-!
# OpeningHours — the days and the issues of a week agree

Reading a text gathers the entries of the days and the flaws that were found side by side. The two
never drift apart: a day is missing exactly when its missing line is an issue, and hours that cannot
be read are an issue of a closed day. The flaws of a text that is not blank are found day by day,
and `DayFlaw` has one rule for each kind of them.

* `FirstLine text d hours` — the first line of the day in a text, with what stands behind its colon.

## Results

* `findHours_eq_some_iff` — the hours that are found are those of the first line.
* `mem_issues_iff`        — the issues of a text that is not blank are the flaws of its days.
* `isUnavailable_iff`     — a schedule is unavailable exactly when no day has a line.
* `ofText_invariant`      — what holds of every week that a text is read into.
-/

namespace OpeningHours

namespace Schedule

-- ---------------------------------------------------------------------------
-- The first line of a day
-- ---------------------------------------------------------------------------

/-- The first line of the day in the text has these hours. -/
def FirstLine (text : List Char) (d : Weekday) (hours : List Char) : Prop :=
  ∃ front line back, Text.lines text = front ++ line :: back ∧
    splitLine line = some (d, hours) ∧ ∀ l ∈ front, ∀ other, splitLine l ≠ some (d, other)

/-- The hours that are found are those of the first line. -/
theorem findHours_eq_some_iff {text : List Char} {d : Weekday} {hours : List Char} :
    findHours (Text.lines text) d = some hours ↔ FirstLine text d hours := by
  rw [findHours, List.findSome?_eq_some_iff]
  constructor
  · rintro ⟨front, line, back, hlines, hfound, hnone⟩
    refine ⟨front, line, back, hlines, ?_, ?_⟩
    · cases hcut : splitLine line with
      | none => simp [hcut] at hfound
      | some cut => simpa [hcut, Prod.ext_iff] using hfound
    · intro l hl other hsplit
      have hskipped := hnone l hl
      simp [hsplit] at hskipped
  · rintro ⟨front, line, back, hlines, hsplit, hfront⟩
    refine ⟨front, line, back, hlines, by simp [hsplit], ?_⟩
    intro l hl
    cases hcut : splitLine l with
    | none => rfl
    | some cut =>
      have hday : cut.1 ≠ d := fun heq => hfront l hl cut.2 (heq ▸ hcut)
      simp [hday]

/-- A day has a line exactly when it has a first one. -/
theorem hasLine_iff {text : List Char} {d : Weekday} :
    HasLine text d ↔ ∃ hours, FirstLine text d hours := by
  rw [← Classical.not_not (a := HasLine text d), ← findHours_eq_none_iff, ← ne_eq,
    Option.ne_none_iff_exists']
  simp only [findHours_eq_some_iff]

/-- A day has one first line at most. -/
theorem FirstLine.unique {text : List Char} {d : Weekday} {hours other : List Char}
    (h : FirstLine text d hours) (h' : FirstLine text d other) : hours = other :=
  Option.some.inj ((findHours_eq_some_iff.mpr h).symm.trans (findHours_eq_some_iff.mpr h'))

-- ---------------------------------------------------------------------------
-- The flaws of the days
-- ---------------------------------------------------------------------------

/-- The flaw of a day in a text, if it has one. -/
inductive DayFlaw (text : List Char) (d : Weekday) : ScheduleIssue → Prop
  /-- No line is the day's. -/
  | noLine (hline : ¬ HasLine text d) : DayFlaw text d (.missingDay d)
  /-- The hours of the day are not marked closed, and yet they name no span. -/
  | noSpan {hours : List Char} (hline : FirstLine text d hours)
      (hmark : isClosedMarked hours = false) (hspans : spans hours = []) :
      DayFlaw text d (.unreadableHours d (String.ofList (Text.trim hours)))

/-- A flaw is about its day. -/
theorem DayFlaw.day?_eq {text : List Char} {d : Weekday} {i : ScheduleIssue}
    (h : DayFlaw text d i) : i.day? = some d := by
  cases h <;> rfl

/-- Hours are reported exactly if they are neither marked closed nor name a span. -/
theorem readHours_snd_eq_some_iff {d : Weekday} {hours : List Char} {i : ScheduleIssue} :
    (readHours d hours).2 = some i ↔ isClosedMarked hours = false ∧ spans hours = [] ∧
      i = .unreadableHours d (String.ofList (Text.trim hours)) := by
  rw [readHours_eq]
  split
  · rename_i hmark
    simp [hmark]
  · rename_i hmark
    split
    · rename_i hnone
      simp [hmark, hnone, eq_comm]
    · rename_i hsome
      simp [hsome]

/-- What is found wrong with a day is its flaw. -/
theorem readDay_snd_eq_some_iff {text : List Char} {d : Weekday} {i : ScheduleIssue} :
    (readDay (Text.lines text) d).2 = some i ↔ DayFlaw text d i := by
  rw [readDay]
  cases hfind : findHours (Text.lines text) d with
  | none =>
    have hline := findHours_eq_none_iff.mp hfind
    constructor
    · rintro ⟨⟩
      exact .noLine hline
    · rintro (_ | ⟨hfirst, -, -⟩)
      · rfl
      · exact absurd (hasLine_iff.mpr ⟨_, hfirst⟩) hline
  | some hours =>
    have hfirst := findHours_eq_some_iff.mp hfind
    dsimp only
    rw [readHours_snd_eq_some_iff]
    constructor
    · rintro ⟨hmark, hspans, rfl⟩
      exact .noSpan hfirst hmark hspans
    · rintro (hline | ⟨hfirst', hmark, hspans⟩)
      · exact absurd (hasLine_iff.mpr ⟨hours, hfirst⟩) hline
      · obtain rfl := hfirst.unique hfirst'
        exact ⟨hmark, hspans, rfl⟩

end Schedule

open Schedule

namespace Week

-- ---------------------------------------------------------------------------
-- The issues of a text
-- ---------------------------------------------------------------------------

theorem issues_ofText {text : List Char} (h : Text.trim text ≠ []) :
    (ofText text).issues =
      Weekday.all.filterMap fun d => (readDay (Text.lines text) d).2 := by
  rw [ofText, if_neg (by simpa using h)]

/-- A blank text has one issue. -/
theorem issues_ofText_of_blank {text : List Char} (h : Text.trim text = []) :
    (ofText text).issues = [.noSchedule] := by
  rw [ofText, if_pos (by simp [h])]

/-- The issues of a text that is not blank are the flaws of its days. -/
theorem mem_issues_iff {text : List Char} (h : Text.trim text ≠ []) {i : ScheduleIssue} :
    i ∈ (ofText text).issues ↔ ∃ d, DayFlaw text d i := by
  rw [issues_ofText h, List.mem_filterMap]
  simp only [readDay_snd_eq_some_iff, Weekday.mem_all, true_and]

/-- The issues are about different days, in the order of the week from Sunday on. -/
def InWeekOrder (issues : List ScheduleIssue) : Prop :=
  ∃ days : List Weekday, days.Sublist Weekday.all ∧
    issues.map ScheduleIssue.day? = days.map some

/-- The issues are in the order of the week. -/
theorem inWeekOrder_issues {text : List Char} (h : Text.trim text ≠ []) :
    InWeekOrder (ofText text).issues := by
  refine ⟨Weekday.all.filter fun d => (readDay (Text.lines text) d).2.isSome,
    List.filter_sublist, ?_⟩
  rw [issues_ofText h, List.map_filterMap, ← List.filterMap_eq_map, List.filterMap_filter]
  congr 1
  funext d
  cases hflaw : (readDay (Text.lines text) d).2 with
  | none => simp
  | some i => simpa using (readDay_snd_eq_some_iff.mp hflaw).day?_eq

/-- A day is reported as missing exactly if it is. -/
theorem missingDay_mem_issues_iff {text : List Char} (h : Text.trim text ≠ []) {d : Weekday} :
    .missingDay d ∈ (ofText text).issues ↔ (ofText text).day d = .missing := by
  rw [mem_issues_iff h, day_eq_missing_iff]
  constructor
  · rintro ⟨_, hflaw⟩
    cases hflaw with
    | noLine hline => exact hline
  · exact fun hline => ⟨d, .noLine hline⟩

/-- Hours are quoted exactly if they are the day's first and say nothing. -/
theorem unreadableHours_mem_issues_iff {text : List Char} (h : Text.trim text ≠ []) {d : Weekday}
    {line : String} :
    .unreadableHours d line ∈ (ofText text).issues ↔
      ∃ hours, FirstLine text d hours ∧ isClosedMarked hours = false ∧ spans hours = [] ∧
        line = String.ofList (Text.trim hours) := by
  rw [mem_issues_iff h]
  constructor
  · rintro ⟨_, hflaw⟩
    cases hflaw with
    | noSpan hline hmark hspans => exact ⟨_, hline, hmark, hspans, rfl⟩
  · rintro ⟨hours, hline, hmark, hspans, rfl⟩
    exact ⟨d, .noSpan hline hmark hspans⟩

-- ---------------------------------------------------------------------------
-- The days of a text
-- ---------------------------------------------------------------------------

/-- A day is closed by its first line: by a closing word, or because it names no span. -/
theorem day_eq_closed_iff {text : List Char} {d : Weekday} :
    (ofText text).day d = .closed ↔
      ∃ hours, FirstLine text d hours ∧ (isClosedMarked hours = true ∨ spans hours = []) := by
  simp only [day_ofText_eq, readDay, ← findHours_eq_some_iff]
  cases findHours (Text.lines text) d with
  | none => simp
  | some hours =>
    simp only [readHours_eq, Option.some.injEq, exists_eq_left']
    split
    · rename_i hmark
      simp [hmark]
    · rename_i hmark
      split
      · rename_i hnone
        simp [hnone]
      · rename_i hsome
        simp [hmark, hsome]

/-- A schedule is unavailable exactly when no day has a line. -/
theorem isUnavailable_iff {text : List Char} :
    (ofText text).isUnavailable = true ↔ ∀ d, ¬ HasLine text d := by
  rw [isUnavailable, List.all_eq_true]
  simp only [Weekday.mem_all, forall_const, decide_eq_true_eq, day_eq_missing_iff]

/-- Whatever the text, its days and its issues are in order and agree with its lines. -/
theorem ofText_invariant (text : List Char) :
    let w := ofText text
    (∀ d ss, w.day d = .opened ss →
      ss ≠ [] ∧ (∀ s ∈ ss, s.start.minutes < s.stop.minutes ∧ s.stop.minutes < 1440) ∧
        ss.Pairwise fun s t => s.stop.minutes < t.start.minutes) ∧
    ((∀ c ∈ text, Text.isBlank c = true) →
      (∀ d, w.day d = .missing) ∧ w.issues = [.noSchedule]) ∧
    ((∃ c ∈ text, Text.isBlank c = false) →
      InWeekOrder w.issues ∧ (∀ d, .missingDay d ∈ w.issues ↔ w.day d = .missing) ∧
        (∀ d line, .unreadableHours d line ∈ w.issues ↔
          ∃ hours, FirstLine text d hours ∧ isClosedMarked hours = false ∧ spans hours = [] ∧
            line = String.ofList (Text.trim hours)) ∧
        ∀ d line, .unreadableHours d line ∈ w.issues → w.day d = .closed) ∧
    (∀ d, w.day d = .missing ↔ ¬ HasLine text d) ∧
    (w.isUnavailable = true ↔ ∀ d, ¬ HasLine text d) := by
  intro w
  refine ⟨?_, ?_, ?_, fun d => day_eq_missing_iff, isUnavailable_iff⟩
  · -- open days
    intro d ss hday
    obtain ⟨hne, hsep⟩ := merged_ofText text d ss hday
    exact ⟨hne, fun s _ => ⟨s.start_lt_stop, s.stop.lt_day⟩, hsep.pairwise⟩
  · -- blank texts
    intro hblank
    have htrim := Text.trim_eq_nil_iff.mpr hblank
    exact ⟨fun d => day_eq_missing_iff.mpr (not_hasLine_of_blank htrim d),
      issues_ofText_of_blank htrim⟩
  · -- all other texts
    rintro ⟨c, hc, hnot⟩
    have htrim : Text.trim text ≠ [] := by
      intro hnil
      rw [Text.trim_eq_nil_iff.mp hnil c hc] at hnot
      simp at hnot
    refine ⟨inWeekOrder_issues htrim, fun d => missingDay_mem_issues_iff htrim,
      fun d line => unreadableHours_mem_issues_iff htrim, ?_⟩
    intro d line hissue
    obtain ⟨hours, hline, -, hspans, -⟩ := (unreadableHours_mem_issues_iff htrim).mp hissue
    exact day_eq_closed_iff.mpr ⟨hours, hline, .inr hspans⟩

end Week

end OpeningHours
