import OpeningHours.Calendar.Zone
import OpeningHours.Environment
import OpeningHours.Feed.Collection
import OpeningHours.Files
import OpeningHours.Journal
import OpeningHours.Text.Quoted
import OpeningHours.Toml.Reader

/-!
# OpeningHours — settings

Some of what the program does is decided by libraries that are not described here: which time zones
there are and what their offsets are, and in which words a text, a value or a variable is refused.
They are given as values. The words decide nothing, but messages quote them.

The settings are read from a TOML file. Every setting has a default, so a file may leave out any of
them, and there need be no file. Settings with an unknown time zone or level are refused, the zone
first.

* `Libraries`       — what the program takes from its libraries.
* `Settings.ofText` — the settings of a text.
* `Settings.ofFile` — the settings of a file.

## Results

* `Settings.usable_of_ofText` — the settings of a text name a zone and a level that are known.
-/

namespace OpeningHours

-- ---------------------------------------------------------------------------
-- What is taken from libraries
-- ---------------------------------------------------------------------------

/-- A library gives the whole run up, with a report of its own. -/
structure Crash where
  report : String
deriving DecidableEq

/-- What the program takes from its libraries. -/
structure Libraries where
  zones : ZoneTable
  /-- The reader of feeds. -/
  feed : Feed.Wording
  /-- What the reader of settings says of a text that holds none. -/
  noSettings : String → String
  /-- What becomes of the attempt to set a variable to a value that it cannot have. -/
  badVariable : Environment.BadVariable → Crash

-- ---------------------------------------------------------------------------
-- Settings
-- ---------------------------------------------------------------------------

/-- The settings of the program. -/
structure Settings where
  /-- The address of the feed. -/
  address : String
  timeZone : String
  timeoutSeconds : Nat
  level : String
  /-- The file of the journal. -/
  journalFile : Option String
  /-- The terminal shows the lines of the journal. -/
  stamped : Bool
deriving DecidableEq

/-- Why there are no settings. -/
inductive SettingsError where
  | unreadable (reason : String)
  | malformed (reason : String)
  | unknownZone (name : String)
  | unknownLevel (name : String)
deriving DecidableEq

namespace SettingsError

/-- The wording of an error. -/
def text : SettingsError → String
  | unreadable reason => "Config I/O error: " ++ reason
  | malformed reason => "Config parse error: " ++ reason
  | unknownZone name => "Unknown timezone: " ++ name
  | unknownLevel name => "Invalid log level: " ++ Journal.Level.unknownText name

/-- The kind of an error with what it concerns, as the command line reports it. -/
def report : SettingsError → String
  | unreadable reason => "Io(" ++ Text.quoted reason ++ ")"
  | malformed reason => "Parse(" ++ Text.quoted reason ++ ")"
  | unknownZone name => "InvalidTimezone(" ++ Text.quoted name ++ ")"
  | unknownLevel name => "InvalidLogLevel(" ++ Text.quoted (Journal.Level.unknownText name) ++ ")"

end SettingsError

namespace Settings

/-- The address of the public directory. -/
def publicAddress : String :=
  "https://services6.arcgis.com/k3ZIRnRpeM4Ht4fG/arcgis/rest/services/Agences_opendata" ++
    "/FeatureServer/0/query?outFields=*&where=1%3D1&f=geojson"

/-- The settings where none are given. -/
def default : Settings where
  address := publicAddress
  timeZone := Zone.noumea.name
  timeoutSeconds := 30
  level := "info"
  journalFile := none
  stamped := false

/-- The time zone of the settings, in a table of zones. -/
def zone? (zones : ZoneTable) (s : Settings) : Option Zone :=
  zones.zone? s.timeZone

/-- The least level of the settings. -/
def level? (s : Settings) : Option Journal.Level :=
  Journal.Level.ofName? s.level

/-- The setting under a name, or its default; an item of another kind is no setting. -/
def entry {α : Type} (entries : Toml.Entries) (name : String) (kind : Toml.Item → Option α)
    (default : α) : Option α :=
  match entries.lookup name with
  | none => some default
  | some item => kind item

/-- The text of an item. -/
def textOf? : Toml.Item → Option String
  | .string s => some s
  | _ => none

/-- The number of an item, if it is not negative. -/
def countOf? : Toml.Item → Option Nat
  | .integer n => if 0 ≤ n then some n.toNat else none
  | _ => none

/-- The truth value of an item. -/
def boolOf? : Toml.Item → Option Bool
  | .boolean b => some b
  | _ => none

/-- The settings of a document. -/
def ofEntries? (entries : Toml.Entries) : Option Settings := do
  some {
    address := ← entry entries "api_url" textOf? default.address
    timeZone := ← entry entries "timezone" textOf? default.timeZone
    timeoutSeconds := ← entry entries "request_timeout_secs" countOf? default.timeoutSeconds
    level := ← entry entries "log_level" textOf? default.level
    journalFile := ← entry entries "log_file" (fun i => (textOf? i).map some) default.journalFile
    stamped := ← entry entries "console_timestamps" boolOf? default.stamped }

/-- The settings if their zone and level are known. -/
def check (zones : ZoneTable) (s : Settings) : Except SettingsError Settings :=
  if (s.zone? zones).isNone then .error (.unknownZone s.timeZone)
  else if s.level?.isNone then .error (.unknownLevel s.level)
  else .ok s

/-- The settings of a text. -/
def ofText (lib : Libraries) (text : String) : Except SettingsError Settings :=
  match (Toml.entriesOfText? text).bind ofEntries? with
  | some s => s.check lib.zones
  | none => .error (.malformed (lib.noSettings text))

/-- The settings of the file under a path; the defaults if there is none. -/
def ofFile (lib : Libraries) (files : Files) (path : String) : Except SettingsError Settings :=
  if files.contains path then
    match files.readText path with
    | .ok text => ofText lib text
    | .error fault => .error (.unreadable (path ++ ": " ++ fault.text))
  else .ok default

/-- The way in which the journal is written at a level. -/
def writer (s : Settings) (least : Journal.Level) : Journal.Writer where
  least := least
  file := s.journalFile
  stamped := s.stamped

theorem usable_of_check {zones : ZoneTable} {s t : Settings} (h : s.check zones = .ok t) :
    t = s ∧ (s.zone? zones).isSome ∧ s.level?.isSome := by
  unfold check at h
  split at h
  · exact absurd h (by simp)
  · split at h
    · exact absurd h (by simp)
    · rename_i hzone hlevel
      simp only [Option.isNone_iff_eq_none] at hzone hlevel
      exact ⟨(Except.ok.inj h).symm, Option.isSome_iff_ne_none.mpr hzone,
        Option.isSome_iff_ne_none.mpr hlevel⟩

/-- The settings of a text name a zone and a level that are known. -/
theorem usable_of_ofText {lib : Libraries} {text : String} {s : Settings}
    (h : ofText lib text = .ok s) : (s.zone? lib.zones).isSome ∧ s.level?.isSome := by
  unfold ofText at h
  split at h
  · obtain ⟨rfl, hzone, hlevel⟩ := usable_of_check h
    exact ⟨hzone, hlevel⟩
  · exact absurd h (by simp)

end Settings

end OpeningHours
