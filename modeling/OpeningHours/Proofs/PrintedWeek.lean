import Mathlib.Data.List.Nodup
import OpeningHours.Proofs.CanonicalText

/-!
# OpeningHours — a printed week is read back

A week is printed by one line for each of its days, in any order: the code of the day, the
separator, and its spans joined by slashes or, without a span, the closed mark. Days without a line
are left out. Reading what was printed gives every day the merged form of its spans, and the only
issues are the days that were left out.

The spans of a printed day may be in any order, overlap or touch; for a week that is merged already
nothing is left to merge, so printing and reading give the same days back.

## Results

* `printWeek_eq_canonicalText`       — printed weeks are canonical texts.
* `day_printWeek`, `issues_printWeek` — what a printed week is read as.
* `ofText_printWeek`                 — printing and reading, for any days in any order.
-/

namespace OpeningHours

namespace Schedule

-- ---------------------------------------------------------------------------
-- Printing
-- ---------------------------------------------------------------------------

/-- The hours of a day that is open in these spans, or closed if there are none. -/
def spansText (ss : List Span) : List Char :=
  if ss.isEmpty then closedMark.toList
  else Text.join rangeSeparator.toList (ss.map Span.text)

/-- The schedule text with a line for each entry: a day and its spans, none for a closed day. -/
def printWeek (entries : List (Weekday × List Span)) : List Char :=
  ofLines (entries.map fun e => e.1.code.toList ++ daySeparator.toList ++ spansText e.2)

/-- The times that bound the spans. -/
def boundsOf (ss : List Span) : List (TimeOfDay × TimeOfDay) :=
  ss.map fun s => (s.start, s.stop)

theorem spansText_eq_hoursText (ss : List Span) : spansText ss = hoursText (boundsOf ss) := by
  cases ss with
  | nil => rfl
  | cons s rest =>
    rw [spansText, hoursText, boundsOf, List.map_map]
    rfl

/-- Printed weeks are canonical texts. -/
theorem printWeek_eq_canonicalText (entries : List (Weekday × List Span)) :
    printWeek entries = canonicalText (entries.map fun e => (e.1, boundsOf e.2)) := by
  rw [printWeek, canonicalText, List.map_map]
  congr 2
  funext e
  rw [spansText_eq_hoursText]
  rfl

/-- The times that bound spans stand for these spans. -/
theorem spansOf_boundsOf (ss : List Span) : spansOf (boundsOf ss) = ss := by
  have hspan : ∀ s : Span, Span.between? s.start s.stop = some s := fun s =>
    dif_pos s.start_lt_stop
  rw [spansOf, boundsOf, List.filterMap_map]
  simp [hspan]

-- ---------------------------------------------------------------------------
-- Reading
-- ---------------------------------------------------------------------------

/-- What the spans of a printed day say. -/
def dayOfSpans (ss : List Span) : DaySchedule :=
  if ss = [] then .closed else .opened (Span.merge ss)

/-- The bounds of spans are read as the spans. -/
theorem readRanges_boundsOf (d : Weekday) (ss : List Span) :
    readRanges d (boundsOf ss) = (dayOfSpans ss, none) := by
  rw [readRanges, spansOf_boundsOf, dayOfSpans]
  by_cases hnil : ss = []
  · subst hnil
    rfl
  · rw [if_neg (by simpa [boundsOf] using hnil), if_neg hnil, if_neg hnil]

/-- What a printed week says of a day, as its first entry for the day has it. -/
theorem readEntries_printWeek (entries : List (Weekday × List Span)) (d : Weekday) :
    readEntries (entries.map fun e => (e.1, boundsOf e.2)) d =
      match entries.find? fun e => decide (e.1 = d) with
      | none => (.missing, some (.missingDay d))
      | some e => (dayOfSpans e.2, none) := by
  rw [readEntries, List.find?_map]
  dsimp only [Function.comp_def]
  cases entries.find? fun e => decide (e.1 = d) with
  | none => rfl
  | some e => exact readRanges_boundsOf d e.2

/-- A day with one entry is found by that entry. -/
theorem find?_of_nodup {entries : List (Weekday × List Span)}
    (hnodup : (entries.map Prod.fst).Nodup) {e : Weekday × List Span} (he : e ∈ entries) :
    (entries.find? fun x => decide (x.1 = e.1)) = some e := by
  cases hfind : entries.find? fun x => decide (x.1 = e.1) with
  | none => exact absurd (decide_eq_true rfl) (List.find?_eq_none.mp hfind e he)
  | some x =>
    -- what is found has the day of the entry, and no two entries have one day
    have hx := List.mem_of_find?_eq_some hfind
    have hkey : x.1 = e.1 := by simpa using List.find?_some hfind
    rw [List.inj_on_of_nodup_map hnodup hx he hkey]

theorem find?_eq_none_iff_not_mem {entries : List (Weekday × List Span)} {d : Weekday} :
    (entries.find? fun x => decide (x.1 = d)) = none ↔ d ∉ entries.map Prod.fst := by
  rw [List.find?_eq_none]
  simp only [decide_eq_true_eq, List.mem_map, not_exists, not_and]

/-- A day of a printed week is what its entry says. -/
theorem day_printWeek (entries : List (Weekday × List Span)) (d : Weekday) :
    (Week.ofText (printWeek entries)).day d =
      match entries.find? fun e => decide (e.1 = d) with
      | none => .missing
      | some e => dayOfSpans e.2 := by
  rw [day_ofText_eq, printWeek_eq_canonicalText, readDay_canonicalText, readEntries_printWeek]
  cases entries.find? fun e => decide (e.1 = d) with
  | none => rfl
  | some e => rfl

/-- The issues of the days that are left out, gathered day by day. -/
theorem map_missingDay_filter (p : Weekday → Bool) :
    (Weekday.all.filter p).map ScheduleIssue.missingDay =
      Weekday.all.filterMap fun d => if p d then some (.missingDay d) else none := by
  rw [← List.filterMap_eq_map, List.filterMap_filter]
  rfl

/-- The only issues of a printed week are the days that were left out. -/
theorem issues_printWeek (entries : List (Weekday × List Span)) :
    (Week.ofText (printWeek entries)).issues =
      if entries = [] then [.noSchedule]
      else (Weekday.all.filter fun d => d ∉ entries.map Prod.fst).map .missingDay := by
  by_cases hnil : entries = []
  · subst hnil
    rfl
  · rw [if_neg hnil, map_missingDay_filter, printWeek_eq_canonicalText,
      ofText_canonicalText (by simpa using hnil)]
    dsimp only
    -- both sides are gathered day by day, so they are compared at one day
    congr 1
    funext d
    rw [readEntries_printWeek]
    cases hfind : entries.find? fun e => decide (e.1 = d) with
    | none => rw [if_pos (by simpa using find?_eq_none_iff_not_mem.mp hfind)]
    | some e =>
      have hmem : d ∈ entries.map Prod.fst := by
        have hkey : e.1 = d := by simpa using List.find?_some hfind
        rw [← hkey]
        exact List.mem_map_of_mem (List.mem_of_find?_eq_some hfind)
      rw [if_neg (by simpa using hmem)]

end Schedule

open Schedule

-- ---------------------------------------------------------------------------
-- Weeks
-- ---------------------------------------------------------------------------

namespace Week

/-- The entry by which a day of the week is printed, if it is not missing. -/
def printedDay? (w : Week) (d : Weekday) : Option (Weekday × List Span) :=
  match w.day d with
  | .missing => none
  | .closed => some (d, [])
  | .opened ss => some (d, ss)

/-- The entries by which a week is printed, in an order of the days. -/
def entries (w : Week) (order : List Weekday) : List (Weekday × List Span) :=
  order.filterMap w.printedDay?

/-- The issues of a week whose only flaws are missing days. -/
def gaps (w : Week) : List ScheduleIssue :=
  if w.isUnavailable then [.noSchedule]
  else (Weekday.all.filter fun d => w.day d = .missing).map .missingDay

/-- The days that are printed are those that are not missing. -/
theorem keys_entries (w : Week) (order : List Weekday) :
    (w.entries order).map Prod.fst = order.filter fun d => w.day d ≠ .missing := by
  rw [entries, List.map_filterMap, ← List.filterMap_eq_filter]
  congr 1
  funext d
  rw [printedDay?]
  cases hday : w.day d with
  | missing => simp [Option.guard, hday]
  | closed => simp [Option.guard, hday]
  | opened ss => simp [Option.guard, hday]

/-- The days of the entries are those that are not missing. -/
theorem mem_keys_entries {w : Week} {order : List Weekday} (horder : order.Perm Weekday.all)
    (d : Weekday) : d ∈ (w.entries order).map Prod.fst ↔ w.day d ≠ .missing := by
  have hd : d ∈ order := horder.mem_iff.mpr d.mem_all
  rw [keys_entries, List.mem_filter]
  simp [hd]

theorem nodup_keys_entries {w : Week} {order : List Weekday} (horder : order.Perm Weekday.all) :
    ((w.entries order).map Prod.fst).Nodup := by
  have hall : Weekday.all.Nodup := by decide
  rw [keys_entries]
  exact (horder.nodup_iff.mpr hall).filter _

/-- Printing has nothing to print exactly when no day has an entry. -/
theorem entries_eq_nil_iff {w : Week} {order : List Weekday} (horder : order.Perm Weekday.all) :
    w.entries order = [] ↔ w.isUnavailable = true := by
  rw [← List.map_eq_nil_iff (f := Prod.fst), List.eq_nil_iff_forall_not_mem, isUnavailable,
    List.all_eq_true]
  constructor
  · intro h d _
    have := h d
    rw [mem_keys_entries horder, ne_eq, Classical.not_not] at this
    simpa using this
  · intro h d hd
    have := h d d.mem_all
    exact (mem_keys_entries horder d).mp hd (by simpa using this)

/-- The days of a merged week are read back as they were printed. -/
theorem day_printWeek_entries {w : Week} (hw : w.Merged) {order : List Weekday}
    (horder : order.Perm Weekday.all) (d : Weekday) :
    (Week.ofText (printWeek (w.entries order))).day d = w.day d := by
  have hd : d ∈ order := horder.mem_iff.mpr d.mem_all
  rw [day_printWeek]
  cases hday : w.day d with
  | missing =>
    have hnot : d ∉ (w.entries order).map Prod.fst := by
      rw [mem_keys_entries horder, hday]
      simp
    rw [find?_eq_none_iff_not_mem.mpr hnot]
  | closed =>
    have hmem : (d, []) ∈ w.entries order :=
      List.mem_filterMap.mpr ⟨d, hd, by rw [printedDay?, hday]⟩
    rw [find?_of_nodup (nodup_keys_entries horder) hmem]
    rfl
  | opened ss =>
    obtain ⟨hne, hsep⟩ := hw d ss hday
    have hmem : (d, ss) ∈ w.entries order :=
      List.mem_filterMap.mpr ⟨d, hd, by rw [printedDay?, hday]⟩
    rw [find?_of_nodup (nodup_keys_entries horder) hmem]
    dsimp only
    -- the spans of a merged day are their own merged form
    rw [dayOfSpans, if_neg hne, Span.merge_eq_self hsep]

/-- Printing and reading a merged week gives it back, with its missing days as the only issues. -/
theorem ofText_printWeek_entries {w : Week} (hw : w.Merged) {order : List Weekday}
    (horder : order.Perm Weekday.all) :
    Week.ofText (printWeek (w.entries order)) = { days := w.days, issues := w.gaps } := by
  have hdays : (Week.ofText (printWeek (w.entries order))).days = w.days :=
    PerDay.ext_get (day_printWeek_entries hw horder)
  have hissues : (Week.ofText (printWeek (w.entries order))).issues = w.gaps := by
    have hkeys : ∀ d, d ∉ (w.entries order).map Prod.fst ↔ w.day d = .missing := by
      intro d
      rw [mem_keys_entries horder, ne_eq, Classical.not_not]
    rw [issues_printWeek, gaps]
    simp only [entries_eq_nil_iff horder, hkeys]
  rw [← hdays, ← hissues]

end Week

/-- Printing days in any order and reading the text gives every day the merged form of its spans and
no issues but the days left out. Printing a merged week gives the same week back. -/
theorem Schedule.ofText_printWeek :
    (∀ entries : List (Weekday × List Span), (entries.map Prod.fst).Nodup →
      let w := Week.ofText (printWeek entries)
      (∀ d, w.day d = .missing ↔ d ∉ entries.map Prod.fst) ∧
      (∀ d, (d, []) ∈ entries → w.day d = .closed) ∧
      (∀ d ss, (d, ss) ∈ entries → ss ≠ [] → w.day d = .opened (Span.merge ss)) ∧
      w.issues =
        if entries = [] then [.noSchedule]
        else (Weekday.all.filter fun d => d ∉ entries.map Prod.fst).map .missingDay) ∧
    ∀ w : Week, w.Merged → ∀ order : List Weekday, order.Perm Weekday.all →
      Week.ofText (printWeek (w.entries order)) = { days := w.days, issues := w.gaps } := by
  refine ⟨?_, fun w hw order horder => Week.ofText_printWeek_entries hw horder⟩
  intro entries hnodup w
  have hday : ∀ d ss, (d, ss) ∈ entries → w.day d = dayOfSpans ss := by
    intro d ss hmem
    rw [day_printWeek, find?_of_nodup hnodup hmem]
  refine ⟨?_, ?_, ?_, issues_printWeek entries⟩
  · intro d
    constructor
    · intro hmissing hkey
      -- a day with an entry is closed or open
      obtain ⟨⟨e, ss⟩, hmem, rfl⟩ := List.mem_map.mp hkey
      rw [hday e ss hmem, dayOfSpans] at hmissing
      split at hmissing <;> simp at hmissing
    · intro hnot
      rw [day_printWeek, find?_eq_none_iff_not_mem.mpr hnot]
  · intro d hmem
    rw [hday d [] hmem, dayOfSpans, if_pos rfl]
  · intro d ss hmem hne
    rw [hday d ss hmem, dayOfSpans, if_neg hne]

end OpeningHours
