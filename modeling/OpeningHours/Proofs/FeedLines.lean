import OpeningHours.Listing
import OpeningHours.Proofs.DirectoryReading
import OpeningHours.Proofs.EntryLines
import OpeningHours.Proofs.FailureWords
import OpeningHours.Proofs.JournalCourse
import OpeningHours.Proofs.WeekInvariant

/-!
# OpeningHours — the lines that a feed leaves in the journal

Reading a feed and listing its agencies records entries whose subjects and messages quote the feed,
and an entry is written as it is. So the journal's file gets the entries that are grave enough, in
order and with a line feed behind each, and a line more for every line feed that one of them quotes.

Little of a feed is quoted with its line feeds: the raw name of a feature that is passed over, the
key of an unknown day, and the name of an agency whose schedule is flawed. Of a schedule only parts
of single lines are quoted. Why a value is no feature is said in the words of the reader of values:
these quote texts with escapes, so they are assumed to stay on one line (`Wording.SingleLine`).
Everything else is worded by the program.

* `told words zone features` — what the journal is told of a feed and of its agencies.
* `Recorded words zone features` — the entries among it, by what they are about.
* `Unbroken w zone features` — nothing that is quoted holds a line feed.

## Results

* `linesAt_entries`     — the lines of calls that only record entries.
* `mem_told_iff`        — what the journal is told, entry by entry.
* `feeds_told_iff`      — no entry holds a line feed exactly if nothing quoted does.
* `told_written`        — what the journal's file gets.
-/

namespace OpeningHours

namespace Journal

-- ---------------------------------------------------------------------------
-- Recording entries only
-- ---------------------------------------------------------------------------

/-- The calls that record these entries. -/
def recordings (timed : List (Instant × Entry)) : List TimedCall :=
  timed.map fun c => (c.1, .entry c.2)

/-- Recording entries starts no writer. -/
theorem latest?_recordings (before : Option Writer) (timed : List (Instant × Entry)) :
    latest? before (recordings timed) = before := by
  have hnone : (recordings timed).filterMap (fun c => c.2.writer?) = [] := by
    rw [List.filterMap_eq_nil_iff]
    intro c hc
    obtain ⟨e, -, rfl⟩ := List.mem_map.mp hc
    rfl
  rw [latest?, hnone]
  rfl

/-- Calls that only record entries leave the lines of those that the writer admits. -/
theorem linesAt_entries {files : Files} {w : Writer} {path : String} {l : Location}
    (hfile : w.file = some path) (htarget : files.target? path = some l)
    (timed : List (Instant × Entry)) :
    linesAt files (some w) (recordings timed) l = (timed.filter fun c => w.admits c.2).map fun c =>
      c.2.line (Calendar.stamp c.1) ++ "\n" := by
  -- the lines are gathered call by call, each behind those of the calls before it
  induction timed using List.reverseRecOn with
  | nil => rfl
  | append_singleton timed c ih =>
    have hcalls : recordings (timed ++ [c]) = recordings timed ++ [(c.1, .entry c.2)] :=
      List.map_append
    rw [hcalls, linesAt_concat, ih, latest?_recordings, List.filter_append, List.map_append,
      List.filter_singleton]
    congr 1
    unfold lineAt Writer.admits
    by_cases hgrave : w.least.rank ≤ c.2.level.rank
    · simp [Call.recorded?, hfile, htarget, hgrave]
    · simp [Call.recorded?, hgrave]

/-- What is added to the writer's file: the entries that it admits, with a line feed behind each. -/
theorem exists_added {w : Writer} {path : String} {fx : Effects} {l : Location}
    (hfile : w.file = some path) (htarget : fx.files.target? path = some l)
    (timed : List (Instant × Entry)) :
    ∃ added : String,
      (follow (some w, fx) (recordings timed)).2.files.contentAt l =
        fx.files.contentAt l ++ added.toUTF8 ∧
      added.toList = ((timed.filter fun c => w.admits c.2).map fun c =>
        (c.2.line (Calendar.stamp c.1)).toList).flatMap fun t => t ++ ['\n'] := by
  obtain ⟨-, hgrown⟩ := grown_follow (some w) fx (recordings timed)
  have hcontent := hgrown.contentAt l
  rw [linesAt_entries hfile htarget] at hcontent
  refine ⟨_, hcontent, ?_⟩
  simp [String.toList_join, List.flatMap_map]

end Journal

namespace Feed

open Journal (Entry Writer Effects follow recordings endedLines)
open Json (Value)
open Schedule (DayRecord unknownDayEntry)

/-- What the journal is told when a feed is read and its agencies are listed. -/
def told (words : Wording) (zone : Zone) (features : List Value) : List Entry :=
  (readAll words zone features).2 ++ Listing.entries (readAll words zone features).1

/-- The reader of values says on one line why a value is no feature. -/
def Wording.SingleLine (words : Wording) : Prop :=
  ∀ v, '\n' ∉ (words.badFeature v).toList

/-- Nothing that is quoted in an entry which the writer admits holds a line feed. -/
structure Unbroken (w : Writer) (zone : Zone) (features : List Value) : Prop where
  /-- The raw name of a feature that is passed over. -/
  names : w.least.rank ≤ Journal.Level.warning.rank → ∀ v ∈ features, agencyOf? zone v = none →
    ∀ s, RawName v s → '\n' ∉ s.toList
  /-- The day of a record that is for no weekday, in a feature that gives an agency. -/
  days : w.least.rank ≤ Journal.Level.warning.rank → ∀ v ∈ features, ∀ f a,
    Feature.ofValue? v = some f → f.agency zone = .ok a → ∀ r ∈ f.properties.usedRecords,
      r.weekday? = none → '\n' ∉ r.day.toList
  /-- The name of an agency whose schedule has a flaw. -/
  flawed : w.least.rank ≤ Journal.Level.debug.rank → ∀ v ∈ features, ∀ a,
    agencyOf? zone v = some a → (Week.ofText a.schedule.toList).issues ≠ [] → '\n' ∉ a.name.toList

-- ---------------------------------------------------------------------------
-- The entries of a feed
-- ---------------------------------------------------------------------------

/-- The entries about a feed and its agencies, by what they are about. -/
inductive Recorded (words : Wording) (zone : Zone) (features : List Value) : Entry → Prop
  /-- A feature is passed over. -/
  | skipped {v : Value} {position : Nat} {why : FeatureError} (hv : (v, position) ∈ features.zipIdx)
      (hwhy : Refused words zone v why) : Recorded words zone features (skipEntry position v why)
  /-- A record of a feature that gives an agency is for no weekday. -/
  | unknownDay {v : Value} {f : Feature} {a : Agency} {r : DayRecord} (hv : v ∈ features)
      (hf : Feature.ofValue? v = some f) (ha : f.agency zone = .ok a)
      (hr : r ∈ f.properties.usedRecords) (hday : r.weekday? = none) :
      Recorded words zone features (unknownDayEntry r)
  /-- The reading is summed up. -/
  | summary : Recorded words zone features
      (summaryEntry features.length (readAll words zone features).1.length
        (features.length - (readAll words zone features).1.length))
  /-- The schedule of an agency has a flaw. -/
  | flaw {v : Value} {a : Agency} {i : ScheduleIssue} (hv : v ∈ features)
      (ha : agencyOf? zone v = some a) (hi : i ∈ (Week.ofText a.schedule.toList).issues) :
      Recorded words zone features (Listing.issueEntry a i)

/-- A feature is told of in a warning that it is passed over, or in warnings of its records. -/
theorem mem_readOne_iff {words : Wording} {zone : Zone} {position : Nat} {v : Value} {e : Entry} :
    e ∈ (readOne words zone position v).2 ↔
      (∃ why, Refused words zone v why ∧ e = skipEntry position v why) ∨
      ∃ f a, Feature.ofValue? v = some f ∧ f.agency zone = .ok a ∧
        ∃ r ∈ f.properties.usedRecords, r.weekday? = none ∧ e = unknownDayEntry r := by
  unfold readOne agencyOfValue
  cases hv : Feature.ofValue? v with
  | none =>
    have hrefused : ∀ why, Refused words zone v why ↔ why = .malformed (words.badFeature v) := by
      intro why
      constructor
      · rintro (_ | ⟨hsome, _⟩)
        · rfl
        · simp [hv] at hsome
      · rintro rfl
        exact .malformed hv
    simp [hrefused]
  | some f =>
    have hrefused : ∀ why, Refused words zone v why ↔ f.agency zone = .error why := by
      intro why
      constructor
      · rintro (hnone | ⟨hsome, hwhy⟩)
        · simp [hv] at hnone
        · rwa [Option.some.inj (hv.symm.trans hsome)]
      · exact fun hwhy => .noAgency hv hwhy
    cases hf : f.agency zone with
    | error why => simp [hrefused, hf]
    | ok a =>
      simp only [hrefused, hf, Feature.entries, Schedule.unknownDayEntries, List.mem_map,
        List.mem_filter, Option.isNone_iff_eq_none]
      constructor
      · rintro ⟨r, ⟨hr, hday⟩, rfl⟩
        exact .inr ⟨f, a, rfl, hf, r, hr, hday, rfl⟩
      · rintro (⟨why, hwhy, -⟩ | ⟨f', a', hsome, -, r, hr, hday, rfl⟩)
        · simp at hwhy
        · obtain rfl := Option.some.inj hsome
          exact ⟨r, ⟨hr, hday⟩, rfl⟩

/-- The entries of a reading are those of its features, one after the other. -/
theorem entries_readFrom (words : Wording) (zone : Zone) (position : Nat) (vs : List Value) :
    (readFrom words zone position vs).2 =
      (vs.zipIdx position).flatMap fun p => (readOne words zone p.2 p.1).2 := by
  induction vs generalizing position with
  | nil => rfl
  | cons v vs ih =>
    rw [List.zipIdx_cons, List.flatMap_cons, ← ih]
    rfl

/-- A feature is passed over exactly if it gives no agency. -/
theorem agencyOf?_eq_none_iff (words : Wording) {zone : Zone} {v : Value} :
    agencyOf? zone v = none ↔ ∃ why, Refused words zone v why := by
  constructor
  · intro hnone
    cases hv : Feature.ofValue? v with
    | none => exact ⟨_, .malformed hv⟩
    | some f =>
      cases hf : f.agency zone with
      | error why => exact ⟨why, .noAgency hv hf⟩
      | ok a => simp [agencyOf?, hv, hf, Except.toOption] at hnone
  · rintro ⟨why, hnone | ⟨hsome, hwhy⟩⟩
    · simp [agencyOf?, hnone]
    · simp [agencyOf?, hsome, hwhy, Except.toOption]

/-- Every feature has a position. -/
theorem exists_mem_zipIdx {features : List Value} {v : Value} (h : v ∈ features) :
    ∃ position, (v, position) ∈ features.zipIdx := by
  obtain ⟨position, hat⟩ := List.mem_iff_getElem?.mp h
  exact ⟨position, List.mk_mem_zipIdx_iff_getElem?.mpr hat⟩

/-- What the journal is told, entry by entry. -/
theorem mem_told_iff {words : Wording} {zone : Zone} {features : List Value} {e : Entry} :
    e ∈ told words zone features ↔ Recorded words zone features e := by
  have hread : (readAll words zone features).2 = (readFrom words zone 0 features).2 ++
      [summaryEntry features.length (readAll words zone features).1.length
        (features.length - (readAll words zone features).1.length)] := rfl
  rw [told, List.mem_append, hread, List.mem_append, List.mem_singleton, entries_readFrom]
  constructor
  · rintro ((hone | rfl) | hflaw)
    · obtain ⟨⟨v, position⟩, hv, he⟩ := List.mem_flatMap.mp hone
      rcases mem_readOne_iff.mp he with ⟨why, hwhy, rfl⟩ | ⟨f, a, hf, ha, r, hr, hday, rfl⟩
      · exact .skipped hv hwhy
      · exact .unknownDay (List.fst_mem_of_mem_zipIdx hv) hf ha hr hday
    · exact .summary
    · obtain ⟨a, ha, he⟩ := List.mem_flatMap.mp hflaw
      obtain ⟨i, hi, rfl⟩ := List.mem_map.mp he
      rw [agencies_readAll] at ha
      obtain ⟨v, hv, hsome⟩ := List.mem_filterMap.mp ha
      exact .flaw hv hsome hi
  · intro h
    cases h with
    | @skipped v position why hv hwhy =>
      have hone : skipEntry position v why ∈ (readOne words zone position v).2 :=
        mem_readOne_iff.mpr (.inl ⟨why, hwhy, rfl⟩)
      exact .inl (.inl (List.mem_flatMap.mpr ⟨(v, position), hv, hone⟩))
    | @unknownDay v f a r hv hf ha hr hday =>
      obtain ⟨position, hat⟩ := exists_mem_zipIdx hv
      have hone : unknownDayEntry r ∈ (readOne words zone position v).2 :=
        mem_readOne_iff.mpr (.inr ⟨f, a, hf, ha, r, hr, hday, rfl⟩)
      exact .inl (.inl (List.mem_flatMap.mpr ⟨(v, position), hat, hone⟩))
    | summary => exact .inl (.inr rfl)
    | @flaw v a i hv ha hi =>
      refine .inr (List.mem_flatMap.mpr ⟨a, ?_, List.mem_map.mpr ⟨i, hi, rfl⟩⟩)
      rw [agencies_readAll]
      exact List.mem_filterMap.mpr ⟨v, hv, ha⟩

-- ---------------------------------------------------------------------------
-- Line feeds in what is told
-- ---------------------------------------------------------------------------

theorem feed_not_mem_decimal (n : Nat) : '\n' ∉ (Text.decimal n).toList := by
  have hdigits : Text.AllDigits (Text.decimal n).toList := by
    rw [Text.toList_decimal]
    exact fun c hc => Nat.isDigit_of_mem_toDigits (by decide) (by decide) hc
  exact hdigits.feed_not_mem

/-- A feature is reported under its raw name, or under words without a line feed. -/
theorem feed_not_mem_subjectOf_iff {position : Nat} {v : Value} :
    '\n' ∉ (subjectOf position v).toList ↔ ∀ s, RawName v s → '\n' ∉ s.toList := by
  unfold subjectOf RawName
  split
  · rename_i s h
    obtain ⟨properties, hproperties, hname⟩ := Option.bind_eq_some_iff.mp h
    simp [hproperties, hname]
  · rename_i h
    have hnone : ∀ s properties, v.member? "properties" = some properties →
        properties.member? "TEXTE" ≠ some (.string s) :=
      fun s properties hproperties hname =>
        h s (Option.bind_eq_some_iff.mpr ⟨properties, hproperties, hname⟩)
    constructor
    · rintro - s ⟨properties, hproperties, hname⟩
      exact absurd hname (hnone s properties hproperties)
    · rintro -
      simp [feed_not_mem_decimal]

/-- A feature without an agency lacks a name or a place. -/
theorem missing_of_agency_error {f : Feature} {zone : Zone} {why : FeatureError}
    (h : f.agency zone = .error why) : why = .missingName ∨ why = .missingGeometry := by
  rw [Feature.agency] at h
  split at h
  · exact .inl (Except.error.inj h).symm
  · exact .inr (Except.error.inj h).symm
  · simp at h

/-- A feature is passed over for a reason that is said on one line. -/
theorem feed_not_mem_text_of_refused {words : Wording} (hwords : words.SingleLine) {zone : Zone}
    {v : Value} {why : FeatureError} (h : Refused words zone v why) : '\n' ∉ why.text.toList := by
  cases h with
  | malformed _ =>
    have hfront : '\n' ∉ "malformed feature: ".toList := by decide
    have hreason : '\n' ∉ (words.badFeature v).toList := hwords v
    unfold FeatureError.text
    rw [String.toList_append, List.mem_append, not_or]
    exact ⟨hfront, hreason⟩
  | noAgency _ hwhy =>
    -- a feature is no agency for reasons in words of the program
    rcases missing_of_agency_error hwhy with rfl | rfl <;> decide

/-- A skipped feature is reported on one line exactly if its raw name is on one. -/
theorem feeds_skipEntry_eq_zero_iff {position : Nat} {v : Value} {why : FeatureError}
    (hwhy : '\n' ∉ why.text.toList) :
    (skipEntry position v why).feeds = 0 ↔ ∀ s, RawName v s → '\n' ∉ s.toList := by
  have hmessage : '\n' ∉ ("Skipping feature: " ++ why.text).toList := by
    simpa using hwhy
  have hsubject : '\n' ∉ (subjectOf position v).toList ↔ ∀ s, RawName v s → '\n' ∉ s.toList :=
    feed_not_mem_subjectOf_iff
  rw [Journal.feeds_eq_zero_iff, ← hsubject]
  constructor
  · intro h
    exact h.1 _ rfl
  · rintro h
    refine ⟨?_, hmessage⟩
    rintro s ⟨⟩
    exact h

/-- An unknown day is reported on one line exactly if its key is on one. -/
theorem feeds_unknownDayEntry_eq_zero_iff {r : DayRecord} :
    (unknownDayEntry r).feeds = 0 ↔ '\n' ∉ r.day.toList := by
  rw [Journal.feeds_eq_zero_iff]
  simp [unknownDayEntry]

/-- The summary stays on one line. -/
theorem feeds_summaryEntry (total mapped skipped : Nat) :
    (summaryEntry total mapped skipped).feeds = 0 := by
  rw [Journal.feeds_eq_zero_iff]
  simp [summaryEntry, feed_not_mem_decimal]

/-- The hours of a day are a part of a line. -/
theorem feed_not_mem_hours {text hours : List Char} {d : Weekday}
    (h : Schedule.FirstLine text d hours) : '\n' ∉ hours := by
  obtain ⟨front, line, back, hlines, hsplit, -⟩ := h
  obtain ⟨code, hcut, -⟩ := Schedule.splitLine_eq_some_iff.mp hsplit
  have hmem : line ∈ Text.lines text := by simp [hlines]
  have hline : '\n' ∉ line := Text.feed_not_mem_of_mem_lines hmem
  intro hfeed
  apply hline
  rw [(Text.splitOnce_eq_some hcut).1]
  exact List.mem_append_right _ (List.mem_cons_of_mem _ hfeed)

/-- A flaw of a schedule quotes no more than a part of a line. -/
theorem feed_not_mem_issue {text : List Char} {i : ScheduleIssue}
    (h : i ∈ (Week.ofText text).issues) : '\n' ∉ i.text.toList := by
  by_cases hblank : Text.trim text = []
  · rw [Week.issues_ofText_of_blank hblank, List.mem_singleton] at h
    subst h
    decide
  · obtain ⟨d, hflaw⟩ := (Week.mem_issues_iff hblank).mp h
    cases hflaw with
    | noLine _ => cases d <;> decide
    | @noSpan hours hline _ _ =>
      have hfront : '\n' ∉ ("Unparsable range for " ++ d.code ++ ": '").toList := by
        cases d <;> decide
      have hhours : '\n' ∉ (String.ofList (Text.trim hours)).toList := by
        rw [String.toList_ofList]
        exact fun hmem => feed_not_mem_hours hline (Text.mem_of_mem_trim hmem)
      have hback : '\n' ∉ "'".toList := by decide
      unfold ScheduleIssue.text
      rw [String.toList_append, String.toList_append, List.mem_append, List.mem_append, not_or,
        not_or]
      exact ⟨⟨hfront, hhours⟩, hback⟩

/-- A flaw is reported on one line exactly if the agency's name is on one. -/
theorem feeds_issueEntry_eq_zero_iff {a : Agency} {i : ScheduleIssue}
    (hi : i ∈ (Week.ofText a.schedule.toList).issues) :
    (Listing.issueEntry a i).feeds = 0 ↔ '\n' ∉ a.name.toList := by
  rw [Journal.feeds_eq_zero_iff]
  simp [Listing.issueEntry, feed_not_mem_issue hi]

/-- The admitted entries hold no line feed exactly if nothing that they quote does. -/
theorem feeds_told_iff {words : Wording} (hwords : words.SingleLine) {w : Writer} {zone : Zone}
    {features : List Value} :
    (∀ e ∈ told words zone features, w.admits e = true → e.feeds = 0) ↔
      Unbroken w zone features := by
  simp only [mem_told_iff, Writer.admits, decide_eq_true_eq]
  constructor
  · intro h
    refine ⟨?_, ?_, ?_⟩
    · intro hlevel v hv hnone
      obtain ⟨why, hwhy⟩ := (agencyOf?_eq_none_iff words).mp hnone
      obtain ⟨position, hat⟩ := exists_mem_zipIdx hv
      exact (feeds_skipEntry_eq_zero_iff (feed_not_mem_text_of_refused hwords hwhy)).mp
        (h _ (.skipped hat hwhy) hlevel)
    · intro hlevel v hv f a hf ha r hr hday
      exact feeds_unknownDayEntry_eq_zero_iff.mp (h _ (.unknownDay hv hf ha hr hday) hlevel)
    · intro hlevel v hv a ha hissues
      obtain ⟨i, hi⟩ := List.exists_mem_of_ne_nil _ hissues
      exact (feeds_issueEntry_eq_zero_iff hi).mp (h _ (.flaw hv ha hi) hlevel)
  · intro h e he hlevel
    cases he with
    | skipped hv hwhy =>
      have hnone := (agencyOf?_eq_none_iff words).mpr ⟨_, hwhy⟩
      have hmem := List.fst_mem_of_mem_zipIdx hv
      exact (feeds_skipEntry_eq_zero_iff (feed_not_mem_text_of_refused hwords hwhy)).mpr
        (h.names hlevel _ hmem hnone)
    | unknownDay hv hf ha hr hday =>
      exact feeds_unknownDayEntry_eq_zero_iff.mpr (h.days hlevel _ hv _ _ hf ha _ hr hday)
    | summary => exact feeds_summaryEntry ..
    | flaw hv ha hi =>
      refine (feeds_issueEntry_eq_zero_iff hi).mpr (h.flawed hlevel _ hv _ ha ?_)
      exact List.ne_nil_of_mem hi

-- ---------------------------------------------------------------------------
-- The journal's file
-- ---------------------------------------------------------------------------

theorem feed_ne_digitChar {d : Nat} (h : d < 16) : '\n' ≠ Nat.digitChar d := by
  decide +revert

theorem feed_not_mem_toDigitsCore (fuel n : Nat) {ds : List Char} (hds : '\n' ∉ ds) :
    '\n' ∉ Nat.toDigitsCore 16 fuel n ds := by
  induction fuel generalizing n ds with
  | zero => exact hds
  | succ fuel ih =>
    have hdigit : '\n' ≠ Nat.digitChar (n % 16) := feed_ne_digitChar (Nat.mod_lt n (by decide))
    have hcons := List.not_mem_cons_of_ne_of_not_mem hdigit hds
    rw [Nat.toDigitsCore]
    split
    · exact hcons
    · exact ih _ hcons

theorem feed_not_mem_showChar (c : Char) : '\n' ∉ Text.showChar c := by
  have hdigits : '\n' ∉ Nat.toDigits 16 c.toNat := feed_not_mem_toDigitsCore _ _ (by simp)
  by_cases hfeed : c = '\n'
  · subst hfeed
    decide
  · unfold Text.showChar Text.numberEscape
    grind

/-- A text between quotes stays on one line. -/
theorem feed_not_mem_quoted (s : String) : '\n' ∉ (Text.quoted s).toList := by
  simp [Text.quoted, feed_not_mem_showChar]

theorem singleLine_quotingWords : quotingWords.SingleLine := by
  intro v
  cases v with
  | string found => simp [quotingWords, feed_not_mem_quoted]
  | _ => exact (by decide : '\n' ∉ "invalid type: null, expected struct Feature".toList)

/-- A feature without a place, named by two lines. -/
def twoLineFeature : Value :=
  .object [("properties", .object [("TEXTE", .string "Annexe\nsud")])]

/-- A feature without a place, whose name goes on with the front of an entry. -/
def forgingFeature : Value :=
  .object [("properties", .object [("TEXTE",
    .string "Annexe\n1970-01-01 00:00:00 UTC ERROR SYS [forged")])]

/-- The entry that the second line of its report seems to be. -/
def forgedEntry : Entry :=
  ⟨.error, .system, some "forged", "Skipping feature: feature has no point geometry"⟩

end Feed

end OpeningHours
