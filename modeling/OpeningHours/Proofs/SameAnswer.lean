import OpeningHours.Proofs.JournalFile
import OpeningHours.Proofs.RunOutcome

/-!
# OpeningHours — the answer depends on the feed and the question

What a run prints and its exit code are given by the text of the feed, by what the arguments ask for
and by the time zone. Where the feed comes from, how the journal is written and what is told on the
way leave no trace in them: of two runs with the same text and the same question, one may ask a
server and write a journal where the other reads a saved feed and writes none.

Only a journal whose file is the terminal's output shows there.

* `Gets lib arguments host a s text` — a run with these arguments and settings gets the feed's text.
* `SameQuestion a b now now'`    — two runs are asked the same, at two instants.
* `SameAnswer a now now'`        — two outputs differ at most in the instant an audit names.

## Results

* `readFeed_of_gets` — the features are those of the text, saved or served.
* `run_of_gets`      — the exit code and the output of one run, by the text.
* `run_sameAnswer`   — the same text and the same question give the same answer.
* `run_sameAnswer_journal` — a journal on the output makes a difference.
-/

namespace OpeningHours.Command

-- ---------------------------------------------------------------------------
-- The text of the feed
-- ---------------------------------------------------------------------------

/-- Where a run has the text of its feed from. -/
inductive FeedText (a : Arguments) (s : Settings) (host : Host) (text : String) : Prop
  | saved {path : String} (hpath : a.fixture = some path)
      (hread : host.files.readText path = .ok text)
  /-- The text is the whole answer to the request; the status for no content comes without one. -/
  | served {status : Nat} (hnone : a.fixture = none)
      (hanswer : host.network (requestOf s) = .ok (.answered ⟨status, .ok text⟩))
      (hstatus : 200 ≤ status ∧ status < 300) (hcontent : status = Feed.noContent → text = "")

/-- A run with these arguments and settings gets the feed's text. -/
structure Gets (lib : Libraries) (arguments : List String) (host : Host) (a : Arguments)
    (s : Settings) (text : String) : Prop where
  parses : Arguments.parse arguments = .ok a
  settings : host.settings lib = .ok s
  feed : FeedText a s host text
  /-- The journal is not written to the saved feed. -/
  apart : ∀ saved journal, a.fixture = some saved → s.journalFile = some journal →
    ¬ host.files.SameEntry journal saved

/-- The exit code of a run that gets a text. -/
def exitCodeFor (text : String) : Nat :=
  match Feed.featuresOfText text with
  | .ok _ => 0
  | .error _ => 1

/-- The answer to a question about a text. -/
def answerTo (words : Feed.Wording) (a : Arguments) (zone : Zone) (now : Instant) (text : String) :
    String :=
  match Feed.featuresOfText text with
  | .ok features => output a zone now (Feed.readAll words zone features).1
  | .error _ => ""

theorem dropOrderMark_of_ne {text : String} (h : text.toList.head? ≠ some '\ufeff') :
    Feed.dropOrderMark text = text := by
  rw [Feed.dropOrderMark]
  split
  · rename_i rest hcons
    exact absurd (by rw [hcons]; rfl) h
  · rfl

/-- A complete answer with success is read as its text. -/
theorem fetch_eq_parse {words : Feed.Wording} {status : Nat} {text : String}
    (hstatus : 200 ≤ status ∧ status < 300) (hcontent : status = Feed.noContent → text = "")
    (hmark : text.toList.head? ≠ some '\ufeff') :
    Feed.fetch words (.answered ⟨status, .ok text⟩) = Feed.parse words text := by
  have hsuccess : Feed.isSuccess status = true := isSuccess_eq_true_iff.mpr (by omega)
  rw [Feed.fetch, hsuccess]
  by_cases hempty : status = Feed.noContent
  · simp [hempty, hcontent hempty]
  · simp [hempty, dropOrderMark_of_ne hmark]

section

variable {lib : Libraries} {arguments : List String} {host : Host} {a : Arguments} {s : Settings}
  {text : String} (h : Gets lib arguments host a s text)
include h

/-- The entries before the feed is read leave a saved feed as it is. -/
theorem readText_filesAtReading {path : String} (hpath : a.fixture = some path)
    (hread : host.files.readText path = .ok text) :
    (filesAtReading a s host).readText path = .ok text := by
  obtain ⟨zone, least, -, hlevel, -⟩ := run_of_settings h.parses h.settings
  rw [filesAtReading_eq hlevel]
  have hother : ∀ journal, (s.writer least).file = some journal →
      ¬ host.files.SameEntry journal path := fun journal => h.apart path journal hpath
  exact Journal.Writer.readText_writeAll _ _ hread hother

variable (hmark : text.toList.head? ≠ some '\ufeff')
include hmark

/-- The features are those of the text, saved or served. -/
theorem readFeed_of_gets : readFeed lib.feed a s host (filesAtReading a s host) =
    (Feed.parse lib.feed text).mapError .noFeed := by
  rw [readFeed]
  cases h.feed with
  | saved hpath hread =>
    simp only [hpath, readSaved, readText_filesAtReading h hpath hread]
  | served hnone hanswer hstatus hcontent =>
    simp only [hnone, hanswer, fetch_eq_parse hstatus hcontent hmark]

/-- The exit code and the output of a run, by the text of its feed. -/
theorem run_of_gets (hquiet : ¬ JournalOnOutput lib host) :
    (run lib arguments host).exitCode = exitCodeFor text ∧
      ∃ zone, s.zone? lib.zones = some zone ∧
        (run lib arguments host).output = answerTo lib.feed a zone host.now text := by
  have hfeed := readFeed_of_gets h hmark
  -- the run and the answer branch on the same reading of the text
  rw [exitCodeFor]
  simp only [answerTo]
  rw [Feed.parse] at hfeed
  cases hparse : Feed.featuresOfText text with
  | error flaw =>
    rw [hparse] at hfeed
    obtain ⟨zone, -, hzone, -⟩ := run_of_settings h.parses h.settings
    obtain ⟨hexit, lines, houtput, honly⟩ :=
      run_of_endsWith h.parses (.feed h.settings hfeed)
    obtain rfl : lines = [] := Classical.byContradiction fun hne => hquiet (honly hne)
    exact ⟨hexit, zone, hzone, houtput⟩
  | ok features =>
    rw [hparse] at hfeed
    obtain ⟨zone, hzone, hexit, houtput⟩ := run_of_feed h.parses h.settings hfeed
    exact ⟨hexit, zone, hzone, houtput hquiet⟩

end

-- ---------------------------------------------------------------------------
-- Two runs
-- ---------------------------------------------------------------------------

/-- Two runs are asked the same, at two instants. -/
structure SameQuestion (a b : Arguments) (now now' : Instant) : Prop where
  json : a.json = b.json
  audit : a.audit = b.audit
  query : a.query = b.query
  pinned : a.pinned = b.pinned
  /-- Without a given moment a listing is about the present one. -/
  present : a.audit = false → a.pinned = none → now = now'

/-- An audit in JSON, as it is written at an instant. -/
def auditText (r : Audit.Report) (now : Instant) : String :=
  String.ofList (r.tree (Calendar.timestamp now)).layout ++ "\n"

/-- Two outputs differ at most in the instant that an audit in JSON names. -/
inductive SameAnswer (a : Arguments) (now now' : Instant) : String → String → Prop
  | same (text : String) : SameAnswer a now now' text text
  | audit (hjson : a.json = true) (haudit : a.audit = true) (r : Audit.Report) :
    SameAnswer a now now' (auditText r now) (auditText r now')

/-- What is written about agencies depends on them and on the question. -/
theorem sameAnswer_output {a b : Arguments} {now now' : Instant} (h : SameQuestion a b now now')
    (zone : Zone) (agencies : List Feed.Agency) :
    SameAnswer a now now' (output a zone now agencies) (output b zone now' agencies) := by
  rw [output, output, ← h.audit]
  by_cases haudit : a.audit = true
  · rw [if_pos haudit, if_pos haudit, auditOutput, auditOutput, ← h.json]
    by_cases hjson : a.json = true
    · rw [if_pos hjson, if_pos hjson]
      exact .audit hjson haudit _
    · rw [if_neg hjson, if_neg hjson]
      exact .same _
  · rw [if_neg haudit, if_neg haudit]
    have hmoment : momentOf a zone now = momentOf b zone now' := by
      rw [momentOf, momentOf, ← h.pinned]
      cases hpinned : a.pinned with
      | some m => rw [Option.getD_some, Option.getD_some]
      | none => rw [h.present (Bool.eq_false_iff.mpr haudit) hpinned]
    have hviews : ∀ m, shownViews a m agencies = shownViews b m agencies := by
      intro m
      rw [shownViews, shownViews, h.query]
    rw [listingOutput, listingOutput, hmoment, hviews, h.json]
    exact .same _

/-- **The answer depends only on the feed and the question.** Two runs that get the same text in the
same time zone and are asked the same end with the same exit code and write the same, whatever else
their arguments, settings and hosts are, as long as neither journal is written to the output. -/
theorem run_sameAnswer {lib : Libraries} {arguments arguments' : List String} {host host' : Host}
    {a b : Arguments} {s t : Settings} {text : String} (hrun : Gets lib arguments host a s text)
    (hrun' : Gets lib arguments' host' b t text) (hmark : text.toList.head? ≠ some '\ufeff')
    (hzone : s.timeZone = t.timeZone) (hquestion : SameQuestion a b host.now host'.now)
    (hquiet : ¬ JournalOnOutput lib host) (hquiet' : ¬ JournalOnOutput lib host') :
    (run lib arguments host).exitCode = (run lib arguments' host').exitCode ∧
      SameAnswer a host.now host'.now (run lib arguments host).output
        (run lib arguments' host').output := by
  obtain ⟨hexit, zone, hz, houtput⟩ := run_of_gets hrun hmark hquiet
  obtain ⟨hexit', zone', hz', houtput'⟩ := run_of_gets hrun' hmark hquiet'
  obtain rfl : zone = zone' := by
    rw [Settings.zone?, hzone] at hz
    exact Option.some.inj (hz.symm.trans hz')
  refine ⟨hexit.trans hexit'.symm, ?_⟩
  rw [houtput, houtput', answerTo, answerTo]
  cases Feed.featuresOfText text with
  | error flaw => exact .same ""
  | ok features => exact sameAnswer_output hquestion zone _

/-- A feed with one agency, as the provider writes it. -/
def smallFeed : String :=
  "\x7b\"features\":[\x7b\"geometry\":\x7b\"coordinates\":[166.5,-22.25]\x7d," ++
    "\"properties\":\x7b\"TEXTE\":\"Poste\",\"HORAIRE\":\"LU : 07:45-15:30\"\x7d\x7d]\x7d"

/-- A server has the feed, at an address that a variable gives. -/
def servingHost : Host where
  files := ⟨[], []⟩
  exported := [(addressVariable, "http://localhost/feed")]
  network := fun _ => .ok (.answered ⟨203, .ok smallFeed⟩)
  now := ⟨500, by decide⟩

/-- The feed is saved, and the settings ask for a journal of everything in a file. -/
def savingHost (journal : String) : Host where
  files := ⟨[], [(["feed.json"], .file smallFeed.toUTF8),
    (["dev", "stdout"], .channel .output ByteArray.empty),
    (["agency_hours.toml"],
      .file ("log_level = \"debug\"\nlog_file = \"" ++ journal ++ "\"").toUTF8)]⟩
  exported := []
  network := fun _ => .ok (.failed "no route")
  now := ⟨1000, by decide⟩

/-- The question of the two runs. -/
def smallQuestion : Arguments :=
  ⟨false, false, none, some ⟨.monday, ⟨600, by decide⟩⟩, []⟩

/-- The settings of the run that replays the feed. -/
def savingSettings (journal : String) : Settings :=
  { Settings.default with level := "debug", journalFile := some journal }

theorem gets_serving : Gets quotingLibraries ["--at", "LU", "10:00"] servingHost smallQuestion
    { Settings.default with address := "http://localhost/feed" } smallFeed :=
  ⟨rfl, rfl, .served rfl rfl (by decide) (by decide), nofun⟩

/-- The feed is saved apart from the journal, be this a new file or the output. -/
theorem gets_saving {journal : String} (h : journal = "run.log" ∨ journal = "/dev/stdout") :
    Gets quotingLibraries ["--fixture", "feed.json", "--at", "LU", "10:00"] (savingHost journal)
      { smallQuestion with fixture := some "feed.json" } (savingSettings journal) smallFeed := by
  have hsettings : (savingHost journal).settings quotingLibraries =
      .ok (savingSettings journal) := by
    rcases h with rfl | rfl <;> exact eq_ok_of_toOption (by decide +kernel)
  have hread : (savingHost journal).files.readText "feed.json" = .ok smallFeed := by
    rcases h with rfl | rfl <;> exact eq_ok_of_toOption (by decide +kernel)
  refine ⟨rfl, hsettings, .saved rfl hread, ?_⟩
  rintro _ _ ⟨⟩ ⟨⟩ ⟨l, ⟨node, hlog⟩, ⟨node', hfeed⟩⟩
  have hplace : (savingHost journal).files.resolve "feed.json" =
      .ok (.found ["feed.json"] (.file smallFeed.toUTF8)) := rfl
  obtain rfl : l = ["feed.json"] := by
    rw [hplace] at hfeed
    exact (Place.found.inj (Except.ok.inj hfeed)).1.symm
  rcases h with rfl | rfl
  · have hfree : (savingHost "run.log").files.resolve "run.log" = .ok (.free ["run.log"]) := rfl
    simp [hfree] at hlog
  · have houtput : (savingHost "/dev/stdout").files.resolve "/dev/stdout" =
        .ok (.found ["dev", "stdout"] (.channel .output ByteArray.empty)) := rfl
    simp [houtput] at hlog

/-- The listing of the agency is the answer, whether the feed is served or saved. -/
theorem run_sameAnswer_served_saved :
    let served := run quotingLibraries ["--at", "LU", "10:00"] servingHost
    let saved := run quotingLibraries ["--fixture", "feed.json", "--at", "LU", "10:00"]
      (savingHost "run.log")
    served.output ≠ "" ∧ served.exitCode = saved.exitCode ∧
      SameAnswer smallQuestion servingHost.now (savingHost "run.log").now served.output
        saved.output := by
  have hserved : ¬ JournalOnOutput quotingLibraries servingHost := by
    rw [journalOnOutput_iff gets_serving.settings]
    rintro ⟨path, ⟨⟩, -⟩
  have hsaved : ¬ JournalOnOutput quotingLibraries (savingHost "run.log") := by
    rw [journalOnOutput_iff (gets_saving (.inl rfl)).settings]
    rintro ⟨path, ⟨⟩, hchannel⟩
    exact absurd hchannel (by decide)
  have hmark : smallFeed.toList.head? ≠ some '\ufeff' := by decide +kernel
  exact ⟨by decide +kernel, run_sameAnswer gets_serving (gets_saving (.inl rfl)) hmark rfl
    ⟨rfl, rfl, rfl, rfl, nofun⟩ hserved hsaved⟩

/-- Only an audit in JSON names an instant. -/
theorem SameAnswer.eq_of_not_json {a : Arguments} {now now' : Instant} {x y : String}
    (h : SameAnswer a now now' x y) (hjson : a.json = false) : x = y := by
  cases h with
  | same => rfl
  | audit htrue => simp [hjson] at htrue

/-- Two runs that differ in the file of the journal alone do not print the same if it is the output
of one of them. -/
theorem run_sameAnswer_journal :
    let arguments := ["--fixture", "feed.json", "--at", "LU", "10:00"]
    let a : Arguments := { smallQuestion with fixture := some "feed.json" }
    let host := savingHost "run.log"
    let host' := savingHost "/dev/stdout"
    Gets quotingLibraries arguments host a (savingSettings "run.log") smallFeed ∧
      Gets quotingLibraries arguments host' a (savingSettings "/dev/stdout") smallFeed ∧
      SameQuestion a a host.now host'.now ∧
      ¬ SameAnswer a host.now host'.now (run quotingLibraries arguments host).output
        (run quotingLibraries arguments host').output := by
  intro arguments a host host'
  refine ⟨gets_saving (.inl rfl), gets_saving (.inr rfl), ⟨rfl, rfl, rfl, rfl, nofun⟩, fun h => ?_⟩
  have hdiffer : (run quotingLibraries arguments host).output ≠
      (run quotingLibraries arguments host').output := by
    decide +kernel
  exact hdiffer (h.eq_of_not_json rfl)

end OpeningHours.Command
