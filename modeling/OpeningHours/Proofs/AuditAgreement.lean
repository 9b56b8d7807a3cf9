import Mathlib.Data.List.Forall2
import OpeningHours.Audit
import OpeningHours.Proofs.NextEvent
import OpeningHours.Proofs.WeekInvariant

/-!
# OpeningHours — the audit says what the clock shows

The audit and the evaluation of a moment look at the same week in different ways: the audit at its
seven entries and its issues, the evaluation at one minute after the other. What the audit finds is
what the evaluations show over the whole week. A day is listed as open if some minute of it is, and
as closed if none is although the day has a line. A schedule fails if no minute of the week is open,
and is complete if some minute is and every day has a line that opens it or closes it by a word.

* `Finding.Agrees text f` — the finding says of a schedule text what its evaluations show.

## Results

* `never_opened_iff`  — a day without an open minute is one without opening hours.
* `issues_eq_nil_iff` — when a text has no issue.
* `agrees_ofAgency`   — what the audit finds for one agency.
* `ofAgencies_agrees` — what the audit reports on a list of agencies.
-/

namespace OpeningHours

open Schedule

namespace Week

variable {w : Week}

-- ---------------------------------------------------------------------------
-- Days over all their minutes
-- ---------------------------------------------------------------------------

/-- A day without an open minute is one without opening hours. -/
theorem never_opened_iff (hw : w.Merged) {d : Weekday} :
    (∀ t, (w.evaluate ⟨d, t⟩).state = .closed) ↔ (w.day d).isOpen = false := by
  constructor
  · intro hall
    rw [← Bool.not_eq_true]
    intro hopen
    obtain ⟨t, hstate⟩ := exists_opened_of_isOpen hw hopen
    rw [hall t] at hstate
    simp at hstate
  · exact fun hnot t => closed_of_not_isOpen hnot

/-- A day is open exactly if an evaluation of one of its minutes is. -/
theorem isOpen_iff_exists_opened (hw : w.Merged) {d : Weekday} :
    (w.day d).isOpen = true ↔ ∃ t, (w.evaluate ⟨d, t⟩).state = .opened := by
  constructor
  · exact exists_opened_of_isOpen hw
  · rintro ⟨t, hopen⟩
    obtain ⟨ss, hday, -⟩ := evaluate_state_eq_opened_iff.mp hopen
    exact DaySchedule.isOpen_iff.mpr ⟨ss, hday⟩

/-- A day is closed exactly if its hours are known and no minute of it is open. -/
theorem day_eq_closed_iff_never_opened (hw : w.Merged) {d : Weekday} :
    w.day d = .closed ↔ ∀ t, (w.evaluate ⟨d, t⟩).next ≠ .unavailable .schedule ∧
      (w.evaluate ⟨d, t⟩).state = .closed := by
  have hmissing : ∀ t, (w.evaluate ⟨d, t⟩).next = .unavailable .schedule ↔ w.day d = .missing :=
    fun t => unavailable_schedule_iff hw
  -- the entry of the day does not depend on the minute
  have : Nonempty TimeOfDay := ⟨⟨0, by decide⟩⟩
  simp only [forall_and, never_opened_iff hw, ne_eq, hmissing, forall_const]
  cases w.day d <;> simp [DaySchedule.isOpen]

/-- A text has no issue when every day has a line, and the days that it closes are marked closed. -/
theorem issues_eq_nil_iff {text : List Char} :
    (ofText text).issues = [] ↔ (∀ d, HasLine text d) ∧ ∀ d, (ofText text).day d = .closed →
      ∃ hours, FirstLine text d hours ∧ isClosedMarked hours = true := by
  by_cases hblank : Text.trim text = []
  · rw [issues_ofText_of_blank hblank]
    simp only [List.cons_ne_nil, false_iff, not_and]
    intro hall
    exact absurd (hall .monday) (not_hasLine_of_blank hblank .monday)
  · rw [List.eq_nil_iff_forall_not_mem]
    simp only [mem_issues_iff hblank, not_exists]
    constructor
    · intro hnone
      refine ⟨fun d => Classical.byContradiction fun hline => hnone _ d (.noLine hline), ?_⟩
      intro d hclosed
      obtain ⟨hours, hline, hwhy⟩ := day_eq_closed_iff.mp hclosed
      refine ⟨hours, hline, ?_⟩
      rcases hwhy with hmark | hspans
      · exact hmark
      · -- hours without a span would be a flaw
        rw [← Bool.not_eq_false]
        exact fun hmark => hnone _ d (.noSpan hline hmark hspans)
    · rintro ⟨hlines, hclosed⟩ i d hflaw
      cases hflaw with
      | noLine hline => exact hline (hlines d)
      | noSpan hline hmark hspans =>
        have hday := day_eq_closed_iff.mpr ⟨_, hline, .inr hspans⟩
        obtain ⟨hours, hline', hmark'⟩ := hclosed d hday
        rw [hline.unique hline', hmark'] at hmark
        simp at hmark

end Week

namespace Audit

open Feed (Agency)

-- ---------------------------------------------------------------------------
-- Findings
-- ---------------------------------------------------------------------------

/-- The finding says of a schedule text what its evaluations show over the whole week. -/
structure Finding.Agrees (text : List Char) (f : Finding) : Prop where
  /-- Some minute of an open day is open. -/
  open_iff : ∀ d, d ∈ f.openDays ↔ ∃ t, ((Week.ofText text).evaluate ⟨d, t⟩).state = .opened
  /-- A closed day has a line, and no minute of it is open. -/
  closed_iff : ∀ d, d ∈ f.closedDays ↔ ∀ t,
    ((Week.ofText text).evaluate ⟨d, t⟩).next ≠ .unavailable .schedule ∧
      ((Week.ofText text).evaluate ⟨d, t⟩).state = .closed
  /-- At whatever minutes the days are looked at, so many of them have a line. -/
  lines_eq : ∀ time : Weekday → TimeOfDay, f.linesFound = Weekday.all.countP fun d =>
    ((Week.ofText text).evaluate ⟨d, time d⟩).next ≠ .unavailable .schedule
  open_order : f.openDays.Sublist Weekday.mondayFirst
  closed_order : f.closedDays.Sublist Weekday.mondayFirst
  failed_iff : f.verdict = .failed ↔ ∀ m, ((Week.ofText text).evaluate m).state = .closed
  /-- The only verdict left is that the schedule is usable in part. -/
  complete_iff : f.verdict = .complete ↔
    (∃ m, ((Week.ofText text).evaluate m).state = .opened) ∧ (∀ d, HasLine text d) ∧
      ∀ d, (∀ t, ((Week.ofText text).evaluate ⟨d, t⟩).state = .closed) →
        ∃ hours, FirstLine text d hours ∧ isClosedMarked hours = true

theorem mem_daysOpen {w : Week} {d : Weekday} : d ∈ daysOpen w ↔ (w.day d).isOpen = true := by
  rw [daysOpen, List.mem_filter]
  simp only [d.mem_mondayFirst, true_and]

theorem mem_daysClosed {w : Week} {d : Weekday} : d ∈ daysClosed w ↔ w.day d = .closed := by
  rw [daysClosed, List.mem_filter]
  simp only [d.mem_mondayFirst, true_and, decide_eq_true_eq]

/-- No day is open exactly if no evaluation is. -/
theorem daysOpen_eq_nil_iff {w : Week} (hw : w.Merged) :
    daysOpen w = [] ↔ ∀ m, (w.evaluate m).state = .closed := by
  rw [List.eq_nil_iff_forall_not_mem]
  simp only [mem_daysOpen, Bool.not_eq_true, ← Week.never_opened_iff hw]
  exact ⟨fun h m => h m.weekday m.time, fun h d t => h ⟨d, t⟩⟩

/-- The days that are open and those that are closed are all that have a line. -/
theorem length_daysOpen_add_length_daysClosed (w : Week) :
    (daysOpen w).length + (daysClosed w).length =
      Weekday.all.countP fun d => w.day d ≠ .missing := by
  have hdays : ∀ days : List Weekday,
      (days.filter fun d => (w.day d).isOpen).length +
        (days.filter fun d => w.day d = .closed).length =
      days.countP fun d => w.day d ≠ .missing := by
    intro days
    induction days with
    | nil => rfl
    | cons d days ih =>
      rw [List.filter_cons, List.filter_cons, List.countP_cons, ← ih]
      cases w.day d with
      | missing => simp [DaySchedule.isOpen]
      | closed => simp [DaySchedule.isOpen, Nat.add_assoc]
      | opened ss => simp [DaySchedule.isOpen, Nat.add_right_comm]
  have hperm : Weekday.mondayFirst.Perm Weekday.all := by decide
  rw [daysOpen, daysClosed, hdays, hperm.countP_eq]

/-- The verdict is a failure exactly if no day is open. -/
theorem verdictOn_eq_failed_iff {days : List Weekday} {issues : List ScheduleIssue} :
    verdictOn days issues = .failed ↔ days = [] := by
  rw [verdictOn]
  cases days with
  | nil => simp
  | cons d rest => cases issues <;> simp

/-- The verdict is a success exactly if some day is open and nothing is wrong. -/
theorem verdictOn_eq_complete_iff {days : List Weekday} {issues : List ScheduleIssue} :
    verdictOn days issues = .complete ↔ days ≠ [] ∧ issues = [] := by
  rw [verdictOn]
  cases days with
  | nil => simp
  | cons d rest => cases issues <;> simp

/-- A complete verdict, said of the lines of the text and of its evaluations. -/
theorem verdict_eq_complete_iff {text : List Char} :
    verdictOn (daysOpen (Week.ofText text)) (Week.ofText text).issues = .complete ↔
      (∃ m, ((Week.ofText text).evaluate m).state = .opened) ∧ (∀ d, HasLine text d) ∧
        ∀ d, (∀ t, ((Week.ofText text).evaluate ⟨d, t⟩).state = .closed) →
          ∃ hours, FirstLine text d hours ∧ isClosedMarked hours = true := by
  have hw := Week.merged_ofText text
  have hopen : daysOpen (Week.ofText text) ≠ [] ↔
      ∃ m, ((Week.ofText text).evaluate m).state = .opened := by
    rw [ne_eq, daysOpen_eq_nil_iff hw, Classical.not_forall]
    refine exists_congr fun m => ?_
    cases ((Week.ofText text).evaluate m).state <;> simp
  -- a day that has a line is closed exactly when no minute of it is open
  have hclosed : ∀ d, HasLine text d → ((Week.ofText text).day d = .closed ↔
      ∀ t, ((Week.ofText text).evaluate ⟨d, t⟩).state = .closed) := by
    intro d hline
    have hday : (Week.ofText text).day d ≠ .missing := by
      rw [ne_eq, day_eq_missing_iff, Classical.not_not]
      exact hline
    rw [Week.never_opened_iff hw]
    cases h : (Week.ofText text).day d with
    | missing => exact absurd h hday
    | closed => simp [DaySchedule.isOpen]
    | opened ss => simp [DaySchedule.isOpen]
  rw [verdictOn_eq_complete_iff, hopen, Week.issues_eq_nil_iff]
  refine and_congr_right fun _ => and_congr_right fun hlines => ?_
  refine forall_congr' fun d => ?_
  rw [hclosed d (hlines d)]

/-- What the audit finds for an agency agrees with the evaluations of its schedule. -/
theorem agrees_ofAgency (a : Agency) : (Finding.ofAgency a).Agrees a.schedule.toList where
  open_iff _ := mem_daysOpen.trans (Week.isOpen_iff_exists_opened (Week.merged_ofText _))
  closed_iff _ :=
    mem_daysClosed.trans (Week.day_eq_closed_iff_never_opened (Week.merged_ofText _))
  lines_eq time := by
    have hw := Week.merged_ofText a.schedule.toList
    have hmissing : ∀ d, ((Week.ofText a.schedule.toList).evaluate ⟨d, time d⟩).next =
        .unavailable .schedule ↔ (Week.ofText a.schedule.toList).day d = .missing :=
      fun d => Week.unavailable_schedule_iff hw
    simp only [ne_eq, hmissing]
    exact length_daysOpen_add_length_daysClosed _
  open_order := List.filter_sublist
  closed_order := List.filter_sublist
  failed_iff := verdictOn_eq_failed_iff.trans (daysOpen_eq_nil_iff (Week.merged_ofText _))
  complete_iff := verdict_eq_complete_iff

-- ---------------------------------------------------------------------------
-- Reports
-- ---------------------------------------------------------------------------

/-- Every finding has one of the three verdicts. -/
theorem countOf_add_countOf_add_countOf (findings : List Finding) :
    countOf .complete findings + countOf .partially findings + countOf .failed findings =
      findings.length := by
  induction findings with
  | nil => rfl
  | cons f rest ih =>
    simp only [countOf, List.countP_cons, List.length_cons] at ih ⊢
    cases f.verdict <;> simp <;> omega

/-- The audit reports on every agency in order, and its findings agree with the evaluations. -/
theorem ofAgencies_agrees (agencies : List Agency) :
    let r := Report.ofAgencies agencies
    List.Forall₂ (fun a f => f.name = a.name ∧ f.Agrees a.schedule.toList) agencies r.findings ∧
    r.summary.complete = r.findings.countP (fun f => f.verdict = .complete) ∧
    r.summary.partially = r.findings.countP (fun f => f.verdict = .partially) ∧
    r.summary.failed = r.findings.countP (fun f => f.verdict = .failed) ∧
    r.summary.total = agencies.length ∧
    r.summary.total = r.summary.complete + r.summary.partially + r.summary.failed := by
  intro r
  refine ⟨?_, rfl, rfl, rfl, rfl, ?_⟩
  · show List.Forall₂ _ agencies (agencies.map Finding.ofAgency)
    rw [List.forall₂_map_right_iff, List.forall₂_same]
    exact fun a _ => ⟨rfl, agrees_ofAgency a⟩
  · show agencies.length = _
    rw [← List.length_map (f := Finding.ofAgency)]
    exact (countOf_add_countOf_add_countOf _).symm

end Audit

end OpeningHours
