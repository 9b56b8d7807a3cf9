import OpeningHours.Command.Run
import Std.Time.DateTime.Timestamp
import Std.Time.Zoned.Database

/-!
# OpeningHours — the program

Gathers what a run is given, lets it run, and does what it did: prints, and writes what was added to
files. Zones are those of this machine's database. This program has no transport, so a request for
the directory's feed fails.
-/

namespace OpeningHours

open Command (Host)

-- ---------------------------------------------------------------------------
-- Files
-- ---------------------------------------------------------------------------

/-- The path of a location. -/
def pathOf (location : Location) : String :=
  "/" ++ "/".intercalate location

/-- The location of a path, if all folders on the way exist. -/
def locationOf (working : Location) (path : String) : Location :=
  let (fromRoot, names) := Files.names path
  names.foldl
    (fun l name =>
      if name = "" ∨ name = "." then l else if name = ".." then l.dropLast else l ++ [name])
    (if fromRoot then [] else working)

/-- The names under which the channels of the terminal are found, and that of the sink. -/
def devices : List (Location × Node) :=
  [(["dev", "null"], .sink), (["dev", "stdout"], .channel .output ByteArray.empty),
    (["dev", "stderr"], .channel .messages ByteArray.empty)]

/-- What stands under a location. -/
def nodeAt (location : Location) : IO (Option Node) := do
  if let some node := devices.lookup location then return some node
  let path := (← IO.currentDir) / pathOf location
  if ← path.isDir then return some .folder
  else if ← path.pathExists then return some (.file (← IO.FS.readBinFile path))
  else return none

/-- The files with what stands on the way along a path. -/
def loadPath (files : Files) (path : String) : IO Files := do
  let location := locationOf files.working path
  let mut result := files
  for k in List.range location.length do
    let part := location.take (k + 1)
    match ← nodeAt part with
    | some node => result := result.put part node
    | none => pure ()
  return result

/-- The files with what stands on the way along paths. -/
def loadPaths (files : Files) (names : List String) : IO Files :=
  names.foldlM loadPath files

/-- Adds to the file under a path what a run added to it. -/
def saveAdded (before after : Files) (path : String) : IO Unit := do
  let old := match before.read path with
    | .ok content => content
    | .error _ => ByteArray.empty
  match after.read path with
  | .ok content =>
    if old.size < content.size then
      let handle ← IO.FS.Handle.mk path IO.FS.Mode.append
      handle.write (content.extract old.size content.size)
  | .error _ => pure ()

-- ---------------------------------------------------------------------------
-- Variables, the clock and zones
-- ---------------------------------------------------------------------------

/-- Names that a file with this content may ask for: its words and the parts between underscores. -/
def namesIn (content : ByteArray) : List String :=
  let words := (Environment.textLines (Environment.bytePieces content.toList)).flatMap Text.words
  (words ++ words.flatMap (Text.pieces '_')).map String.ofList

/-- The variables with these names that are set. -/
def variablesOf (names : List String) : IO Environment := do
  let values ← names.mapM fun name => return (name, ← IO.getEnv name)
  return values.filterMap fun (name, value) => value.map fun v => (name, v)

def presentInstant : IO Instant := do
  let now ← Std.Time.Timestamp.now
  match Instant.ofMillis? now.toMillisecondsSinceUnixEpoch.val with
  | some t => return t
  | none => throw (IO.userError "the clock is out of range")

/-- The zone of these rules, up to the last change that they list. -/
def zoneOf (name : String) (rules : Std.Time.TimeZone.ZoneRules) : Zone where
  name := name
  initialOffset := rules.initialLocalTimeType.gmtOffset.second.val
  changes := rules.transitions.toList.map fun t =>
    (t.time.val, t.localTimeType.gmtOffset.second.val)

/-- The table of the zone with this name, if the machine's database has it. -/
def presentZones (name : String) : IO ZoneTable := do
  try
    return .ofZones [zoneOf name (← Std.Time.Database.defaultGetZoneRules name)]
  catch _ =>
    return .ofZones []

/-- The libraries of this program, which refuse in few words. -/
def librariesWith (zones : ZoneTable) : Libraries where
  zones := zones
  feed := ⟨fun _ _ => "the text is no feed", fun _ => "a field is not of its kind"⟩
  noSettings := fun _ => "the text is no settings file"
  badVariable := fun bad => ⟨"cannot set " ++ bad.name ++ "\n"⟩

-- ---------------------------------------------------------------------------
-- The run
-- ---------------------------------------------------------------------------

/-- The settings that the file gives, as far as they can be read without knowing any zone. -/
def draftSettings (env : Environment) (files : Files) : Settings :=
  match files.readText (Command.settingsFile env) with
  | .ok text => ((Toml.entriesOfText? text).bind Settings.ofEntries?).getD .default
  | .error _ => .default

/-- What a run is given on this machine: the libraries, the host and the paths it may write to. -/
def present (arguments : List String) : IO (Libraries × Host × List String) := do
  let working := (Files.names (← IO.currentDir).toString).2
  let start ← loadPaths ⟨working, []⟩ ((List.range (working.length + 1)).map fun n =>
    pathOf (working.take n ++ [Environment.fileName]))
  let mentioned := ((Environment.content? start).map namesIn).getD []
  let exported ← variablesOf
    ([Command.settingsVariable, Command.addressVariable] ++ mentioned)
  let env := match Environment.load exported start with
    | .ok env => env
    | .error _ => exported
  let files ← loadPaths start [Command.settingsFile env]
  let settings := draftSettings env files
  let fixture := match Arguments.parse arguments with
    | .ok a => a.fixture.toList
    | .error _ => []
  let host : Host := {
    files := ← loadPaths files (settings.journalFile.toList ++ fixture)
    exported := exported
    network := fun _ => .ok (.failed "there is no transport")
    now := ← presentInstant }
  return (librariesWith (← presentZones settings.timeZone), host, settings.journalFile.toList)

end OpeningHours

open OpeningHours in
def main (arguments : List String) : IO UInt32 := do
  let (lib, host, journals) ← present arguments
  let result := Command.run lib arguments host
  IO.print result.output
  IO.eprint result.messages
  for path in journals do
    saveAdded host.files result.files path
  return result.exitCode.toUInt32
