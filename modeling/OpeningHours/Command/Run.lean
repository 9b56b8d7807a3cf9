import OpeningHours.Audit
import OpeningHours.Calendar.Civil
import OpeningHours.Command.Arguments
import OpeningHours.Feed.Directory
import OpeningHours.Feed.Exchange
import OpeningHours.Listing
import OpeningHours.Settings

/-!
# OpeningHours — a run of the command line

A run reads its arguments, then its settings, then the feed, from a saved one or from the directory,
and writes the listing or the audit. What it is given and what it does are values: the files, the
variables, the answers to requests and the present instant on one side, the exit code, what was
written on the two channels of the terminal, the files and the requests made on the other.

A run may end early: its settings or its feed are not to be had, or a library gives the run up.

* `run` — what the command line does on a host.
-/

namespace OpeningHours.Command

open Journal (Entry Writer Effects)

/-- What a run is given. -/
structure Host where
  files : Files
  /-- The variables that the caller sets. -/
  exported : Environment
  /-- What becomes of a request. The library that makes it may give the run up instead, as for a
  time to wait that is beyond all clocks. -/
  network : Feed.Request → Except Crash Feed.Outcome
  now : Instant

/-- What a run does. -/
structure Result where
  exitCode : Nat
  output : String
  messages : String
  files : Files
  /-- The requests for the feed. -/
  requests : List Feed.Request

/-- Why a run ends before it has a feed. -/
inductive Ending where
  | crashed (c : Crash)
  | noSettings (e : SettingsError)
  | noFeed (e : Feed.FeedError)

namespace Ending

/-- The exit code of a run that ends early. -/
def exitCode : Ending → Nat
  | crashed _ => 101
  | noSettings _ => 1
  | noFeed _ => 1

/-- What the terminal is told last. -/
def report : Ending → String
  | crashed c => c.report
  | noSettings e => "Error: " ++ e.report ++ "\n"
  | noFeed e => "Error: " ++ e.report ++ "\n"

/-- What the journal is told last. -/
def entries : Ending → List Entry
  | noFeed e => [Feed.failureEntry "Agency directory fetch" e]
  | _ => []

end Ending

/-- The name of the variable for the path of the settings. -/
def settingsVariable : String := "AGENCY_HOURS_CONFIG"

/-- The path of the settings where no variable gives it. -/
def settingsPath : String := "agency_hours.toml"

/-- The name of the variable for the address of the feed. -/
def addressVariable : String := "AGENCY_API_URL"

/-- The path of the settings. -/
def settingsFile (env : Environment) : String :=
  (env.lookup settingsVariable).getD settingsPath

/-- The address that a variable gives, if it is not blank. -/
def givenAddress (env : Environment) : Option String :=
  match env.lookup addressVariable with
  | some v =>
    if (Text.trim v.toList).isEmpty then none else some (String.ofList (Text.trim v.toList))
  | none => none

/-- The settings of a run: those of the file, with the address that a variable gives. -/
def Host.settings (lib : Libraries) (host : Host) : Except Ending Settings :=
  match Environment.load host.exported host.files with
  | .error bad => .error (.crashed (lib.badVariable bad))
  | .ok env =>
    match Settings.ofFile lib host.files (settingsFile env) with
    | .error e => .error (.noSettings e)
    | .ok s => .ok { s with address := (givenAddress env).getD s.address }

-- ---------------------------------------------------------------------------
-- What the journal is told
-- ---------------------------------------------------------------------------

/-- The entry about the settings. -/
def settingsEntry (s : Settings) : Entry where
  level := .debug
  source := .config
  subject := none
  message := "Feed " ++ s.address ++ " evaluated in " ++ s.timeZone

/-- An entry about the run itself. -/
def systemEntry (message : String) : Entry where
  level := .info
  source := .system
  subject := none
  message := message

/-- The entries before the feed is read. -/
def openingEntries (a : Arguments) (s : Settings) : List Entry :=
  settingsEntry s ::
    ((if a.isOffline then
        [systemEntry "Development mode: offline feed or pinned clock in use"]
      else []) ++
      (match a.fixture with
      | some path => [systemEntry ("Replaying feed from " ++ path)]
      | none => []))

/-- The entry behind a listing. -/
def shownEntry (shown total : Nat) : Entry :=
  systemEntry (Text.decimal shown ++ "/" ++ Text.decimal total ++ " agencies shown")

-- ---------------------------------------------------------------------------
-- The feed
-- ---------------------------------------------------------------------------

/-- The features of a saved feed. -/
def readSaved (words : Feed.Wording) (files : Files) (path : String) :
    Except Feed.FeedError (List Json.Value) :=
  match files.readText path with
  | .ok text => Feed.parse words text
  | .error fault => .error (.unreadable (path ++ ": " ++ fault.text))

/-- The request for the feed. -/
def requestOf (s : Settings) : Feed.Request where
  address := s.address
  accept := Feed.acceptedKinds
  seconds := s.timeoutSeconds

/-- The features of the feed: of the saved one if there is one, else of the directory's. -/
def readFeed (words : Feed.Wording) (a : Arguments) (s : Settings) (host : Host) (files : Files) :
    Except Ending (List Json.Value) :=
  match a.fixture with
  | some path => (readSaved words files path).mapError .noFeed
  | none =>
    match host.network (requestOf s) with
    | .ok outcome => (Feed.fetch words outcome).mapError .noFeed
    | .error c => .error (.crashed c)

/-- The requests for the feed. -/
def requestsFor (a : Arguments) (s : Settings) : List Feed.Request :=
  match a.fixture with
  | some _ => []
  | none => [requestOf s]

-- ---------------------------------------------------------------------------
-- What is written
-- ---------------------------------------------------------------------------

/-- The audit of agencies, as it is written. -/
def auditOutput (a : Arguments) (now : Instant) (agencies : List Feed.Agency) : String :=
  let r := Audit.Report.ofAgencies agencies
  if a.json then String.ofList (r.tree (Calendar.timestamp now)).layout ++ "\n" else r.text

/-- The moment that agencies are looked at. -/
def momentOf (a : Arguments) (zone : Zone) (now : Instant) : Moment :=
  a.pinned.getD (zone.momentAt now)

/-- The views of agencies that are shown. -/
def shownViews (a : Arguments) (m : Moment) (agencies : List Feed.Agency) : List View :=
  Listing.search a.query (agencies.map (View.ofAgency m))

/-- The listing of agencies, as it is written. -/
def listingOutput (a : Arguments) (m : Moment) (agencies : List Feed.Agency) : String :=
  if a.json then Listing.renderJson (shownViews a m agencies) ++ "\n"
  else Listing.render (shownViews a m agencies)

/-- What agencies give on the terminal's output. -/
def output (a : Arguments) (zone : Zone) (now : Instant) (agencies : List Feed.Agency) : String :=
  if a.audit then auditOutput a now agencies
  else listingOutput a (momentOf a zone now) agencies

/-- The entries about the agencies that are to be listed. -/
def viewEntries (a : Arguments) (agencies : List Feed.Agency) : List Entry :=
  if a.audit then [] else Listing.entries agencies

/-- The entries behind the output. -/
def closingEntries (a : Arguments) (m : Moment) (agencies : List Feed.Agency) : List Entry :=
  if a.audit || a.json then []
  else [shownEntry (shownViews a m agencies).length agencies.length]

-- ---------------------------------------------------------------------------
-- The run
-- ---------------------------------------------------------------------------

/-- The result of a run that ends early. -/
def ended (e : Ending) (fx : Effects) (requests : List Feed.Request) : Result where
  exitCode := e.exitCode
  output := fx.output
  messages := fx.shown ++ e.report
  files := fx.files
  requests := requests

/-- A run whose settings are known to be usable. -/
def runWith (words : Feed.Wording) (a : Arguments) (s : Settings) (zone : Zone) (writer : Writer)
    (host : Host) : Result :=
  let stamp := Calendar.stamp host.now
  let fx := writer.writeAll stamp (.ofFiles host.files) (openingEntries a s)
  -- a saved feed is read after the first entries, which may have been added to that very file
  match readFeed words a s host fx.files with
  | .error e => ended e (writer.writeAll stamp fx e.entries) (requestsFor a s)
  | .ok features =>
    let (agencies, entries) := Feed.readAll words zone features
    let fx := writer.writeAll stamp fx (entries ++ viewEntries a agencies)
    let fx := fx.print (output a zone host.now agencies) .output
    let fx := writer.writeAll stamp fx (closingEntries a (momentOf a zone host.now) agencies)
    { exitCode := 0
      output := fx.output
      messages := fx.shown
      files := fx.files
      requests := requestsFor a s }

/-- A run with arguments that could be taken. -/
def runArguments (lib : Libraries) (a : Arguments) (host : Host) : Result :=
  match host.settings lib with
  | .error e => ended e (.ofFiles host.files) []
  | .ok s =>
    match s.level?, s.zone? lib.zones with
    | some least, some zone => runWith lib.feed a s zone (s.writer least) host
    | none, _ => ended (.noSettings (.unknownLevel s.level)) (.ofFiles host.files) []
    | _, none => ended (.noSettings (.unknownZone s.timeZone)) (.ofFiles host.files) []

/-- What the command line does on a host. -/
def run (lib : Libraries) (arguments : List String) (host : Host) : Result :=
  match Arguments.parse arguments with
  | .error e =>
    { exitCode := 2, output := "", messages := e.text ++ "\n", files := host.files, requests := [] }
  | .ok a => runArguments lib a host

end OpeningHours.Command
