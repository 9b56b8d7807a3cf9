import OpeningHours.Command.Run
import OpeningHours.Proofs.FailureWords
import OpeningHours.Proofs.JournalFile

/-!
# OpeningHours — how a run ends

A run ends in one of four ways, and which of them it is depends on its arguments, its settings and
the feed alone. Arguments that cannot be taken end it with exit code 2, before anything is read or
asked for. Settings that cannot be taken and a feed that cannot be had end it with 1. A library that
gives the run up, over a variable or over the request, ends it with 101, and any other run ends with
0. Nothing is printed before the feed is there, so the output of a run that fails is empty, unless
the settings made it the journal's file.

* `filesAtReading a s host` — the files when the feed is read, with the first entries in the
  journal.
* `EndsWith lib a host e`   — the run ends early, in this way.
* `FeedMissing a s host files` — why the feed cannot be had, one rule for each reason.
* `JournalOnOutput lib host` — the settings make the terminal's output the journal's file.

## Results

* `run_of_settings`       — a run with arguments and settings is one whose zone and level are known.
* `run_of_endsWith`       — a run that ends early.
* `run_of_feed`           — a run that has its feed.
* `feedMissing_iff`       — the feed is not there exactly for one of the reasons.
* `run_exitDiscipline`    — the exit code of every run, and what goes with it.
-/

namespace OpeningHours

-- ---------------------------------------------------------------------------
-- Settings
-- ---------------------------------------------------------------------------

/-- The default settings can be used. -/
theorem Settings.usable_default (zones : ZoneTable) :
    (default.zone? zones).isSome ∧ default.level?.isSome :=
  ⟨zones.noumea_known, by decide⟩

/-- The settings of a file name a zone and a level that are known. -/
theorem Settings.usable_of_ofFile {lib : Libraries} {files : Files} {path : String} {s : Settings}
    (h : ofFile lib files path = .ok s) : (s.zone? lib.zones).isSome ∧ s.level?.isSome := by
  rw [ofFile] at h
  split at h
  · split at h
    · exact usable_of_ofText h
    · simp at h
  · obtain rfl := Except.ok.inj h
    exact usable_default lib.zones

namespace Command

open Journal (Entry Writer Effects linesOf)

section

variable {lib : Libraries} {host : Host}

/-- The settings of a run name a zone and a level that are known. -/
theorem Host.usable_of_settings {s : Settings} (h : host.settings lib = .ok s) :
    (s.zone? lib.zones).isSome ∧ s.level?.isSome := by
  unfold settings at h
  split at h
  · simp at h
  · split at h
    · simp at h
    · rename_i t hfile
      obtain rfl := Except.ok.inj h
      -- the address has no part in either
      exact Settings.usable_of_ofFile (s := t) hfile

/-- There are no settings if the variables cannot be set or the file has none. -/
theorem Host.settings_eq_error_iff {e : Ending} :
    host.settings lib = .error e ↔
      (∃ bad, Environment.load host.exported host.files = .error bad ∧
        e = .crashed (lib.badVariable bad)) ∨
      ∃ env why, Environment.load host.exported host.files = .ok env ∧
        Settings.ofFile lib host.files (settingsFile env) = .error why ∧ e = .noSettings why := by
  rw [settings]
  cases Environment.load host.exported host.files with
  | error bad => simp [eq_comm]
  | ok env =>
    cases hfile : Settings.ofFile lib host.files (settingsFile env) with
    | error why => simp [hfile, eq_comm]
    | ok s => simp [hfile]

end

-- ---------------------------------------------------------------------------
-- The course of a run
-- ---------------------------------------------------------------------------

/-- A run whose arguments cannot be taken does nothing but say so. -/
theorem run_of_parse_error {arguments : List String} {e : ArgumentError}
    (h : Arguments.parse arguments = .error e) (lib : Libraries) (host : Host) :
    run lib arguments host =
      { exitCode := 2, output := "", messages := e.text ++ "\n", files := host.files,
        requests := [] } := by
  rw [run, h]

/-- A run with arguments and settings is one whose zone and level are known. -/
theorem run_of_settings {lib : Libraries} {arguments : List String} {a : Arguments} {host : Host}
    {s : Settings} (ha : Arguments.parse arguments = .ok a) (hs : host.settings lib = .ok s) :
    ∃ zone least, s.zone? lib.zones = some zone ∧ s.level? = some least ∧
      run lib arguments host = runWith lib.feed a s zone (s.writer least) host := by
  obtain ⟨hzone, hlevel⟩ := Host.usable_of_settings hs
  obtain ⟨zone, hzone⟩ := Option.isSome_iff_exists.mp hzone
  obtain ⟨least, hlevel⟩ := Option.isSome_iff_exists.mp hlevel
  refine ⟨zone, least, hzone, hlevel, ?_⟩
  unfold run runArguments
  simp only [ha, hs, hzone, hlevel]

/-- The effects of a run before the feed is read. -/
def opening (a : Arguments) (s : Settings) (writer : Writer) (host : Host) : Effects :=
  writer.writeAll (Calendar.stamp host.now) (.ofFiles host.files) (openingEntries a s)

/-- The files when the feed is read, with the first entries in the journal. -/
def filesAtReading (a : Arguments) (s : Settings) (host : Host) : Files :=
  match s.level? with
  | some least => (opening a s (s.writer least) host).files
  | none => host.files

theorem filesAtReading_eq {s : Settings} {least : Journal.Level} (h : s.level? = some least)
    (a : Arguments) (host : Host) :
    filesAtReading a s host = (opening a s (s.writer least) host).files := by
  rw [filesAtReading, h]

/-- The settings make the terminal's output the journal's file. -/
def JournalOnOutput (lib : Libraries) (host : Host) : Prop :=
  ∃ s path, host.settings lib = .ok s ∧ s.journalFile = some path ∧
    host.files.channel? path = some .output

/-- The journal's file, once the settings are known. -/
theorem journalOnOutput_iff {lib : Libraries} {host : Host} {s : Settings}
    (hs : host.settings lib = .ok s) : JournalOnOutput lib host ↔
      ∃ path, s.journalFile = some path ∧ host.files.channel? path = some .output := by
  constructor
  · rintro ⟨t, path, ht, hpath, hchannel⟩
    obtain rfl := Except.ok.inj (hs.symm.trans ht)
    exact ⟨path, hpath, hchannel⟩
  · rintro ⟨path, hpath, hchannel⟩
    exact ⟨s, path, hs, hpath, hchannel⟩

theorem onOutput_writer_iff {lib : Libraries} {host : Host} {s : Settings}
    (hs : host.settings lib = .ok s) (least : Journal.Level) :
    (s.writer least).OnOutput host.files ↔ JournalOnOutput lib host :=
  (journalOnOutput_iff hs).symm

/-- The run ends early, without settings or without a feed. -/
inductive EndsWith (lib : Libraries) (a : Arguments) (host : Host) : Ending → Prop
  | settings {e : Ending} (hs : host.settings lib = .error e) : EndsWith lib a host e
  | feed {s : Settings} {e : Ending} (hs : host.settings lib = .ok s)
      (hfeed : readFeed lib.feed a s host (filesAtReading a s host) = .error e) :
      EndsWith lib a host e

section

variable {lib : Libraries} {arguments : List String} {a : Arguments} {host : Host}
  (ha : Arguments.parse arguments = .ok a)
include ha

/-- A run without settings ends before anything is written. -/
theorem run_of_settings_error {e : Ending} (hs : host.settings lib = .error e) :
    run lib arguments host = ended e (.ofFiles host.files) [] := by
  unfold run runArguments
  simp only [ha, hs]

/-- A run without a feed writes what there is to be said about that. -/
theorem run_of_feed_error {s : Settings} {e : Ending} (hs : host.settings lib = .ok s)
    (h : readFeed lib.feed a s host (filesAtReading a s host) = .error e) :
    ∃ least, s.level? = some least ∧
      run lib arguments host = ended e ((s.writer least).writeAll (Calendar.stamp host.now)
        (.ofFiles host.files) (openingEntries a s ++ e.entries)) (requestsFor a s) := by
  obtain ⟨zone, least, -, hlevel, hrun⟩ := run_of_settings ha hs
  rw [filesAtReading_eq hlevel, opening] at h
  refine ⟨least, hlevel, ?_⟩
  simp only [hrun, runWith, h, Writer.writeAll_append]

/-- A run that ends early has the exit code for that, and its output holds lines of the journal at
most. -/
theorem run_of_endsWith {e : Ending} (h : EndsWith lib a host e) :
    (run lib arguments host).exitCode = e.exitCode ∧
      ∃ lines, (run lib arguments host).output = linesOf (Calendar.stamp host.now) lines ∧
        (lines ≠ [] → JournalOnOutput lib host) := by
  cases h with
  | settings hs =>
    rw [run_of_settings_error ha hs]
    exact ⟨rfl, [], rfl, fun h => absurd rfl h⟩
  | feed hs hfeed =>
    obtain ⟨least, -, hrun⟩ := run_of_feed_error ha hs hfeed
    obtain ⟨lines, houtput, honly⟩ := Writer.output_writeAll (Calendar.stamp host.now)
      (openingEntries a _ ++ e.entries) (.ofFiles host.files)
    rw [hrun]
    exact ⟨rfl, lines, houtput.trans String.empty_append,
      fun hne => (onOutput_writer_iff hs least).mp (honly hne)⟩

/-- A run that has its feed ends well and prints what its agencies give. -/
theorem run_of_feed {s : Settings} {features : List Json.Value} (hs : host.settings lib = .ok s)
    (h : readFeed lib.feed a s host (filesAtReading a s host) = .ok features) :
    ∃ zone, s.zone? lib.zones = some zone ∧ (run lib arguments host).exitCode = 0 ∧
      (¬ JournalOnOutput lib host → (run lib arguments host).output =
        output a zone host.now (Feed.readAll lib.feed zone features).1) := by
  obtain ⟨zone, least, hzone, hlevel, hrun⟩ := run_of_settings ha hs
  rw [filesAtReading_eq hlevel, opening] at h
  refine ⟨zone, hzone, ?_, fun hjournal => ?_⟩
  · simp only [hrun, runWith, h]
  · have hnot : ¬ (s.writer least).OnOutput host.files :=
      fun hon => hjournal ((onOutput_writer_iff hs least).mp hon)
    simp only [hrun, runWith, h, ← Writer.writeAll_append]
    rw [Writer.output_writeAll_of_not, Effects.print, Writer.output_writeAll_of_not hnot]
    · exact String.empty_append
    · rw [Effects.files_print, Writer.onOutput_writeAll]
      exact hnot

end

-- ---------------------------------------------------------------------------
-- Reasons for a missing feed
-- ---------------------------------------------------------------------------

/-- The text that a complete answer with success gives. -/
def contentOf (status : Nat) (body : String) : String :=
  if status = Feed.noContent then "" else Feed.dropOrderMark body

/-- Why the feed cannot be had. -/
inductive FeedMissing (a : Arguments) (s : Settings) (host : Host) (files : Files) : Prop
  /-- The saved feed cannot be read. -/
  | unreadable {path : String} {fault : FileFault} (hpath : a.fixture = some path)
      (hread : files.readText path = .error fault)
  /-- What is saved is no feed. -/
  | savedNoFeed {path text : String} {flaw : Feed.Flaw} (hpath : a.fixture = some path)
      (hread : files.readText path = .ok text) (hflaw : Feed.featuresOfText text = .error flaw)
  /-- Nobody answers. -/
  | refused {reason : String} (hnone : a.fixture = none)
      (hfailed : host.network (requestOf s) = .ok (.failed reason))
  /-- The status of the answer is none of success, whatever the answer holds. -/
  | status {answer : Feed.Answer} (hnone : a.fixture = none)
      (hanswer : host.network (requestOf s) = .ok (.answered answer))
      (hstatus : answer.status < 200 ∨ 300 ≤ answer.status)
  /-- The answer ends too early. -/
  | truncated {status : Nat} {reason : String} (hnone : a.fixture = none)
      (hanswer : host.network (requestOf s) = .ok (.answered ⟨status, .error reason⟩))
  /-- The answer is no feed. -/
  | servedNoFeed {status : Nat} {body : String} {flaw : Feed.Flaw} (hnone : a.fixture = none)
      (hanswer : host.network (requestOf s) = .ok (.answered ⟨status, .ok body⟩))
      (hflaw : Feed.featuresOfText (contentOf status body) = .error flaw)

section

variable {words : Feed.Wording}

/-- A text is refused for a flaw, and for nothing else. -/
theorem parse_eq_error_iff {text : String} :
    (∃ e, Feed.parse words text = .error e) ↔ ∃ flaw, Feed.featuresOfText text = .error flaw := by
  rw [Feed.parse]
  cases Feed.featuresOfText text <;> simp

theorem exists_parse_empty (words : Feed.Wording) : ∃ e, Feed.parse words "" = .error e :=
  ⟨_, rfl⟩

theorem isSuccess_eq_true_iff {status : Nat} :
    Feed.isSuccess status = true ↔ ¬ (status < 200 ∨ 300 ≤ status) := by
  simp only [Feed.isSuccess, Bool.and_eq_true, decide_eq_true_eq]
  omega

/-- An answer gives no features for its status, for its end or for its content. -/
theorem fetch_eq_error_iff {answer : Feed.Answer} :
    (∃ e, Feed.fetch words (.answered answer) = .error e) ↔
      (answer.status < 200 ∨ 300 ≤ answer.status) ∨ (∃ reason, answer.body = .error reason) ∨
        ∃ body flaw, answer.body = .ok body ∧
          Feed.featuresOfText (contentOf answer.status body) = .error flaw := by
  obtain ⟨status, body⟩ := answer
  rw [Feed.fetch]
  by_cases hstatus : status < 200 ∨ 300 ≤ status
  · have hnot : Feed.isSuccess status = false := by
      rw [← Bool.not_eq_true, isSuccess_eq_true_iff, Classical.not_not]
      exact hstatus
    simp [hnot, hstatus]
  · have hsuccess := isSuccess_eq_true_iff.mpr hstatus
    rw [hsuccess]
    by_cases hcontent : status = Feed.noContent
    · -- without content there is no feed, cut off or not
      have hempty := parse_eq_error_iff.mp (exists_parse_empty words)
      cases body <;> simp [hcontent, contentOf, exists_parse_empty, hempty]
    · cases body with
      | error reason => simp [hcontent, hstatus]
      | ok body => simpa [hcontent, hstatus, contentOf] using parse_eq_error_iff

theorem exists_of_mapError {α : Type} {x : Except Feed.FeedError α} {e : Ending}
    (h : x.mapError Ending.noFeed = .error e) : ∃ why, x = .error why ∧ e = .noFeed why := by
  cases x with
  | error why => exact ⟨why, rfl, (Except.error.inj h).symm⟩
  | ok a =>
    have hok : (.ok a : Except Ending α) = .error e := h
    simp at hok

theorem exists_noFeed_iff {α : Type} {x : Except Feed.FeedError α} :
    (∃ e, x.mapError Ending.noFeed = .error (.noFeed e)) ↔ ∃ e, x = .error e := by
  constructor
  · rintro ⟨e, h⟩
    obtain ⟨why, hx, -⟩ := exists_of_mapError h
    exact ⟨why, hx⟩
  · rintro ⟨e, rfl⟩
    exact ⟨e, rfl⟩

/-- The feed is not there exactly for one of the reasons. -/
theorem feedMissing_iff {a : Arguments} {s : Settings} {host : Host} {files : Files} :
    FeedMissing a s host files ↔ ∃ e, readFeed words a s host files = .error (.noFeed e) := by
  rw [readFeed]
  constructor
  · intro h
    cases h with
    | unreadable hpath hread =>
      simp only [hpath, readSaved, hread, exists_noFeed_iff]
      exact ⟨_, rfl⟩
    | savedNoFeed hpath hread hflaw =>
      simp only [hpath, readSaved, hread, exists_noFeed_iff]
      exact parse_eq_error_iff.mpr ⟨_, hflaw⟩
    | refused hnone hfailed =>
      simp only [hnone, hfailed, exists_noFeed_iff]
      exact ⟨_, rfl⟩
    | status hnone hanswer hstatus =>
      simp only [hnone, hanswer, exists_noFeed_iff]
      exact fetch_eq_error_iff.mpr (.inl hstatus)
    | truncated hnone hanswer =>
      simp only [hnone, hanswer, exists_noFeed_iff]
      exact fetch_eq_error_iff.mpr (.inr (.inl ⟨_, rfl⟩))
    | servedNoFeed hnone hanswer hflaw =>
      simp only [hnone, hanswer, exists_noFeed_iff]
      exact fetch_eq_error_iff.mpr (.inr (.inr ⟨_, _, rfl, hflaw⟩))
  · intro h
    cases hfixture : a.fixture with
    | some path =>
      simp only [hfixture, readSaved, exists_noFeed_iff] at h
      cases hread : files.readText path with
      | error fault => exact .unreadable hfixture hread
      | ok text =>
        simp only [hread] at h
        obtain ⟨flaw, hflaw⟩ := parse_eq_error_iff.mp h
        exact .savedNoFeed hfixture hread hflaw
    | none =>
      simp only [hfixture] at h
      cases hanswer : host.network (requestOf s) with
      | error c => simp [hanswer] at h
      | ok outcome =>
        simp only [hanswer, exists_noFeed_iff] at h
        match outcome with
        | .failed reason => exact .refused hfixture hanswer
        | .answered ⟨status, body⟩ =>
          rcases fetch_eq_error_iff.mp h with hstatus | ⟨reason, rfl⟩ | ⟨body, flaw, rfl, hflaw⟩
          · exact .status hfixture hanswer hstatus
          · exact .truncated hfixture hanswer
          · exact .servedNoFeed hfixture hanswer hflaw

/-- Reading the feed ends a run for want of a feed, or because the request is given up. -/
theorem readFeed_eq_error {a : Arguments} {s : Settings} {host : Host} {files : Files} {e : Ending}
    (h : readFeed words a s host files = .error e) :
    (∃ why, e = .noFeed why) ∨
      ∃ c, e = .crashed c ∧ a.fixture = none ∧ host.network (requestOf s) = .error c := by
  rw [readFeed] at h
  split at h
  · obtain ⟨why, -, rfl⟩ := exists_of_mapError h
    exact .inl ⟨why, rfl⟩
  · rename_i hnone
    split at h
    · obtain ⟨why, -, rfl⟩ := exists_of_mapError h
      exact .inl ⟨why, rfl⟩
    · rename_i c hcrash
      obtain rfl := Except.error.inj h
      exact .inr ⟨c, rfl, hnone, hcrash⟩

end

-- ---------------------------------------------------------------------------
-- Exit codes
-- ---------------------------------------------------------------------------

/-- Why a run whose arguments could be taken is given up by a library. -/
inductive Crashes (lib : Libraries) (a : Arguments) (host : Host) : Prop
  /-- A line sets a variable to a value that none can have. -/
  | badVariable {bad : Environment.BadVariable}
      (hload : Environment.load host.exported host.files = .error bad)
  /-- The request is given up. -/
  | request {s : Settings} {c : Crash} (hs : host.settings lib = .ok s) (hnone : a.fixture = none)
      (hcrash : host.network (requestOf s) = .error c)

/-- Why a run whose arguments could be taken fails. -/
inductive Fails (lib : Libraries) (a : Arguments) (host : Host) : Prop
  | noSettings {env : Environment} {e : SettingsError}
      (hload : Environment.load host.exported host.files = .ok env)
      (hfile : Settings.ofFile lib host.files (settingsFile env) = .error e)
  | noFeed {s : Settings} (hs : host.settings lib = .ok s)
      (hfeed : FeedMissing a s host (filesAtReading a s host))

section

variable {lib : Libraries} {a : Arguments} {host : Host}

/-- A run ends early in one way only. -/
theorem EndsWith.unique {e e' : Ending} (h : EndsWith lib a host e) (h' : EndsWith lib a host e') :
    e = e' := by
  cases h with
  | settings hs =>
    cases h' with
    | settings hs' => exact Except.error.inj (hs.symm.trans hs')
    | feed hs' _ => simp [hs] at hs'
  | feed hs hfeed =>
    cases h' with
    | settings hs' => simp [hs] at hs'
    | feed hs' hfeed' =>
      obtain rfl := Except.ok.inj (hs.symm.trans hs')
      exact Except.error.inj (hfeed.symm.trans hfeed')

/-- A run is given up exactly if it ends early with 101. -/
theorem crashes_iff : Crashes lib a host ↔ ∃ e, EndsWith lib a host e ∧ e.exitCode = 101 := by
  constructor
  · rintro (hload | ⟨hs, hnone, hcrash⟩)
    · exact ⟨_, .settings (Host.settings_eq_error_iff.mpr (.inl ⟨_, hload, rfl⟩)), rfl⟩
    · exact ⟨_, .feed hs (by simp only [readFeed, hnone, hcrash]; rfl), rfl⟩
  · rintro ⟨e, hs | ⟨hs, hfeed⟩, hcode⟩
    · rcases Host.settings_eq_error_iff.mp hs with ⟨bad, hload, -⟩ | ⟨env, why, -, -, rfl⟩
      · exact .badVariable hload
      · simp [Ending.exitCode] at hcode
    · rcases readFeed_eq_error hfeed with ⟨why, rfl⟩ | ⟨c, -, hnone, hcrash⟩
      · simp [Ending.exitCode] at hcode
      · exact .request hs hnone hcrash

/-- A run fails exactly if it ends early with 1. -/
theorem fails_iff : Fails lib a host ↔ ∃ e, EndsWith lib a host e ∧ e.exitCode = 1 := by
  constructor
  · rintro (⟨hload, hfile⟩ | ⟨hs, hmissing⟩)
    · exact ⟨_, .settings (Host.settings_eq_error_iff.mpr (.inr ⟨_, _, hload, hfile, rfl⟩)), rfl⟩
    · obtain ⟨e, he⟩ := feedMissing_iff.mp hmissing
      exact ⟨_, .feed hs he, rfl⟩
  · rintro ⟨e, hs | ⟨hs, hfeed⟩, hcode⟩
    · rcases Host.settings_eq_error_iff.mp hs with ⟨bad, -, rfl⟩ | ⟨env, why, hload, hfile, -⟩
      · simp [Ending.exitCode] at hcode
      · exact .noSettings hload hfile
    · rcases readFeed_eq_error hfeed with ⟨why, rfl⟩ | ⟨c, rfl, -, -⟩
      · exact .noFeed hs (feedMissing_iff.mpr ⟨why, hfeed⟩)
      · simp [Ending.exitCode] at hcode

/-- A run that does not end early has settings and a feed. -/
theorem exists_feed_of_not_endsWith (h : ∀ e, ¬ EndsWith lib a host e) :
    ∃ s features, host.settings lib = .ok s ∧
      readFeed lib.feed a s host (filesAtReading a s host) = .ok features := by
  cases hs : host.settings lib with
  | error e => exact absurd (.settings hs) (h e)
  | ok s =>
    cases hfeed : readFeed lib.feed a s host (filesAtReading a s host) with
    | error e => exact absurd (.feed hs hfeed) (h e)
    | ok features => exact ⟨s, features, rfl, hfeed⟩

end

theorem Ending.exitCode_eq (e : Ending) : e.exitCode = 101 ∨ e.exitCode = 1 := by
  cases e with
  | crashed c => exact .inl rfl
  | noSettings e => exact .inr rfl
  | noFeed e => exact .inr rfl

/-- The exit code of a run whose arguments could be taken, and its output unless it ends well. -/
theorem exit_of_arguments {arguments : List String} {a : Arguments}
    (ha : Arguments.parse arguments = .ok a) (lib : Libraries) (host : Host) :
    let r := run lib arguments host
    (r.exitCode = 101 ↔ Crashes lib a host) ∧ (r.exitCode = 1 ↔ Fails lib a host) ∧
      (r.exitCode = 0 ↔ ¬ Crashes lib a host ∧ ¬ Fails lib a host) ∧ r.exitCode ≠ 2 ∧
      (r.exitCode ≠ 0 → ∃ lines, r.output = linesOf (Calendar.stamp host.now) lines ∧
        (lines ≠ [] → JournalOnOutput lib host)) := by
  intro r
  rw [crashes_iff, fails_iff]
  by_cases hends : ∃ e, EndsWith lib a host e
  · obtain ⟨e, he⟩ := hends
    obtain ⟨hexit, houtput⟩ := run_of_endsWith ha he
    have hexit : r.exitCode = e.exitCode := hexit
    have honly : ∀ code, (∃ e, EndsWith lib a host e ∧ e.exitCode = code) ↔ e.exitCode = code := by
      intro code
      constructor
      · rintro ⟨e', he', hcode⟩
        exact (he.unique he') ▸ hcode
      · exact fun hcode => ⟨e, he, hcode⟩
    rw [honly, honly, hexit]
    refine ⟨Iff.rfl, Iff.rfl, ?_, ?_, fun _ => houtput⟩
    · rcases e.exitCode_eq with hcode | hcode <;> simp [hcode]
    · rcases e.exitCode_eq with hcode | hcode <;> simp [hcode]
  · have hnever : ∀ e, ¬ EndsWith lib a host e := not_exists.mp hends
    obtain ⟨s, features, hs, hfeed⟩ := exists_feed_of_not_endsWith hnever
    obtain ⟨zone, -, hexit, -⟩ := run_of_feed ha hs hfeed
    have hexit : r.exitCode = 0 := hexit
    simp [hexit, hnever]

-- ---------------------------------------------------------------------------
-- The entry about a missing feed
-- ---------------------------------------------------------------------------

/-- The entry about a feed that is not there. -/
def missingEntry (e : Feed.FeedError) : Entry :=
  Feed.failureEntry "Agency directory fetch" e

/-- A run has no feed, and its journal has a file that takes the entry about this, behind some
content. -/
structure RecordableFailure (lib : Libraries) (arguments : List String) (host : Host)
    (a : Arguments) (s : Settings) (least : Journal.Level) (e : Feed.FeedError) (path : String)
    (content : ByteArray) : Prop where
  parses : Arguments.parse arguments = .ok a
  settings : host.settings lib = .ok s
  missing : readFeed lib.feed a s host (filesAtReading a s host) = .error (.noFeed e)
  level : s.level? = some least
  grave : least.rank ≤ (missingEntry e).level.rank
  file : s.journalFile = some path
  takes : host.files.Takes path content

/-- No entry before the feed is read is about the feed. -/
theorem source_of_mem_openingEntries {a : Arguments} {s : Settings} {e : Entry}
    (h : e ∈ openingEntries a s) : e.source ≠ .feed := by
  rw [openingEntries] at h
  rcases List.mem_cons.mp h with rfl | h
  · simp [settingsEntry]
  · rcases List.mem_append.mp h with h | h
    · split at h
      · simp [List.mem_singleton.mp h, systemEntry]
      · simp at h
    · split at h
      · simp [List.mem_singleton.mp h, systemEntry]
      · simp at h

/-- The entries that a run without a feed adds to its journal: exactly one of them is about the
feed. -/
theorem takes_of_recordableFailure {lib : Libraries} {arguments : List String} {host : Host}
    {a : Arguments} {s : Settings} {least : Journal.Level} {e : Feed.FeedError} {path : String}
    {content : ByteArray} (h : RecordableFailure lib arguments host a s least e path content) :
    ∃ added : List Entry, (added.filter fun b => b.source = .feed) = [missingEntry e] ∧
      (run lib arguments host).files.Takes path
        (content ++ (linesOf (Calendar.stamp host.now) added).toUTF8) := by
  obtain ⟨ha, hs, hfeed, hlevel, hgrave, hpath, htakes⟩ := h
  obtain ⟨least', hlevel', hrun⟩ := run_of_feed_error ha hs hfeed
  obtain rfl := Option.some.inj (hlevel.symm.trans hlevel')
  let writer := s.writer least
  have hadmits : writer.admits (missingEntry e) = true := decide_eq_true hgrave
  refine ⟨(openingEntries a s ++ [missingEntry e]).filter writer.admits, ?_, ?_⟩
  · have hbefore : ((openingEntries a s).filter writer.admits).filter
        (fun b => b.source = .feed) = [] := by
      refine List.filter_eq_nil_iff.mpr fun b hb => ?_
      simpa using source_of_mem_openingEntries (List.mem_filter.mp hb).1
    rw [List.filter_append, List.filter_append, hbefore, List.filter_cons_of_pos hadmits]
    rfl
  · have hstart : (Effects.ofFiles host.files).files.Takes path content := htakes
    rw [hrun]
    exact Writer.takes_writeAll (w := writer) hpath _ _ hstart

/-- **How a run ends.** With 2 exactly when its arguments cannot be taken, and then no file changes
and nothing is asked for. With 101 exactly when a library gives it up, with 1 exactly when its
settings or its feed cannot be had, and with 0 otherwise. A run that does not end with 0 writes
nothing to the output but lines of the journal, and these only if the settings make the output the
journal's file. Of the entries that the journal takes exactly one is about a missing feed. -/
theorem run_exitDiscipline (lib : Libraries) (arguments : List String) (host : Host) :
    let r := run lib arguments host
    (r.exitCode = 2 ↔ ∃ e, Arguments.parse arguments = .error e) ∧
    (r.exitCode = 2 → r.files = host.files ∧ r.requests = []) ∧
    (r.exitCode = 101 ↔ ∃ a, Arguments.parse arguments = .ok a ∧ Crashes lib a host) ∧
    (r.exitCode = 1 ↔ ∃ a, Arguments.parse arguments = .ok a ∧ Fails lib a host) ∧
    (r.exitCode = 0 ↔
      ∃ a, Arguments.parse arguments = .ok a ∧ ¬ Crashes lib a host ∧ ¬ Fails lib a host) ∧
    (r.exitCode ≠ 0 → ∃ lines, r.output = linesOf (Calendar.stamp host.now) lines ∧
      (lines ≠ [] → JournalOnOutput lib host)) ∧
    ∀ a s least e path content, RecordableFailure lib arguments host a s least e path content →
      ∃ added : List Entry, (added.filter fun b => b.source = .feed) = [missingEntry e] ∧
        r.files.Takes path (content ++ (linesOf (Calendar.stamp host.now) added).toUTF8) := by
  intro r
  have hrecord : ∀ a s least e path content,
      RecordableFailure lib arguments host a s least e path content → _ :=
    fun _ _ _ _ _ _ => takes_of_recordableFailure
  cases ha : Arguments.parse arguments with
  | error e =>
    have hr : r = _ := run_of_parse_error ha lib host
    refine ⟨?_, ?_, ?_, ?_, ?_, fun _ => ⟨[], ?_, fun h => absurd rfl h⟩, hrecord⟩ <;>
      simp [hr, linesOf]
  | ok a =>
    obtain ⟨hcrashes, hfails, hwell, hnot, houtput⟩ := exit_of_arguments ha lib host
    refine ⟨?_, fun h => absurd h hnot, ?_, ?_, ?_, houtput, hrecord⟩
    · simpa using hnot
    · simpa using hcrashes
    · simpa using hfails
    · simpa using hwell

/-- Libraries that know two zones and quote texts in what they report. -/
def quotingLibraries : Libraries where
  zones := .ofZones [⟨"UTC", 0, []⟩]
  feed := Feed.quotingWords
  noSettings _ := "expected an equals, found eof at line 1 column 1"
  badVariable bad := ⟨"failed to set environment variable " ++ Text.quoted bad.name ++ " to " ++
    Text.quoted bad.value ++ "\n"⟩

/-- Nobody answers, and the settings name a journal. -/
def refusingHost : Host where
  files := ⟨[], [(["agency_hours.toml"], .file "log_file = \"run.log\"".toUTF8)]⟩
  exported := []
  network := fun _ => .ok (.failed "connection refused")
  now := ⟨0, by decide⟩

/-- A refused connection ends the run with 1, without output and with one entry about the feed. -/
theorem run_exitDiscipline_refused :
    let r := run quotingLibraries [] refusingHost
    r.exitCode = 1 ∧ r.output = "" ∧ ∃ added : List Entry,
      (added.filter fun b => b.source = .feed) =
          [missingEntry (.requestFailed "connection refused")] ∧
        r.files.Takes "run.log"
          (ByteArray.empty ++ (linesOf (Calendar.stamp refusingHost.now) added).toUTF8) := by
  intro r
  have hsettings : refusingHost.settings quotingLibraries =
      .ok { Settings.default with journalFile := some "run.log" } :=
    eq_ok_of_toOption (by decide +kernel)
  have htakes : refusingHost.files.Takes "run.log" ByteArray.empty :=
    ⟨by decide, ["run.log"], .free ["run.log"], rfl, .free rfl⟩
  obtain ⟨-, -, -, hone, -, houtput, hrecord⟩ :=
    run_exitDiscipline quotingLibraries [] refusingHost
  have hexit : r.exitCode = 1 := hone.mpr ⟨.none, rfl, .noFeed hsettings (.refused rfl rfl)⟩
  have hfailed : r.exitCode ≠ 0 := by rw [hexit]; decide
  obtain ⟨lines, houtput, honly⟩ := houtput hfailed
  have hjournal : ¬ JournalOnOutput quotingLibraries refusingHost := by
    rw [journalOnOutput_iff hsettings]
    rintro ⟨path, ⟨⟩, hchannel⟩
    exact absurd hchannel (by decide)
  obtain rfl : lines = [] := Classical.byContradiction fun hne => hjournal (honly hne)
  exact ⟨hexit, houtput, hrecord _ _ _ _ _ _ ⟨rfl, hsettings, rfl, rfl, by decide +kernel, rfl,
    htakes⟩⟩

/-- The settings make the output the journal's file. -/
def outputHost : Host where
  files := ⟨[], [(["dev", "stdout"], .channel .output ByteArray.empty),
    (["agency_hours.toml"], .file "log_file = \"/dev/stdout\"".toUTF8)]⟩
  exported := []
  network := fun _ => .ok (.failed "connection refused")
  now := ⟨0, by decide⟩

/-- A line sets a variable to a value that none can have. -/
def nulHost : Host where
  files := ⟨[], [([".env"], .file "A=\x00".toUTF8)]⟩
  exported := []
  network := fun _ => .ok (.failed "connection refused")
  now := ⟨0, by decide⟩

/-- A run that fails can have an output, and a run can end with none of 0, 1 and 2. -/
theorem run_exitDiscipline_journal_nul :
    let failed := run quotingLibraries ["--fixture", "missing.json"] outputHost
    let given := run quotingLibraries [] nulHost
    (failed.exitCode = 1 ∧ failed.output ≠ "") ∧ given.exitCode = 101 := by
  decide +kernel

end Command

end OpeningHours
