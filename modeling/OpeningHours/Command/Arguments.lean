import OpeningHours.Text
import OpeningHours.TimeOfDay

/-!
# OpeningHours — command line arguments

Arguments are options, some of them followed by their values, and search words. Of an option that is
given twice the last one counts. The first argument that cannot be taken decides what is reported.

* `Arguments.parse` — the meaning of an argument list.
-/

namespace OpeningHours

/-- The moment that a day code and a clock `HH:MM` name, whose numbers need no zeros. -/
def Moment.ofWords? (day time : String) : Option Moment := do
  let weekday ← Weekday.ofCode? day.toList
  let (hour, minute) ← Text.splitOnce ':' (Text.trim time.toList)
  let time ← TimeOfDay.ofClock? (← Text.boundedNumber? 65536 hour)
      (← Text.boundedNumber? 65536 minute)
  some ⟨weekday, time⟩

/-- What the command line asks for. -/
structure Arguments where
  /-- The listing is written as JSON. -/
  json : Bool
  /-- Schedules are audited instead of listed. -/
  audit : Bool
  /-- A saved feed to be read instead of the directory's. -/
  fixture : Option String
  /-- A moment to take instead of the present one. -/
  pinned : Option Moment
  search : List String
deriving DecidableEq

/-- Why arguments cannot be taken. -/
inductive ArgumentError where
  | noPath
  | noDay
  | noTime
  | noMoment (day time : String)
  /-- The way of calling the program was asked for. -/
  | usage
deriving DecidableEq

/-- The wording of an error. -/
def ArgumentError.text : ArgumentError → String
  | noPath => "--fixture needs a path"
  | noDay => "--at needs a day code"
  | noTime => "--at needs a time"
  | noMoment day time => "cannot read '" ++ day ++ " " ++ time ++ "' as a day code and HH:MM"
  | usage =>
    "Usage: agency_hours [--json] [--verify] [--fixture PATH] [--at CODE HH:MM] [SEARCH...]"

namespace Arguments

/-- What an empty command line asks for. -/
def none : Arguments := ⟨false, false, .none, .none, []⟩

/-- A saved feed or a given moment is used. -/
def isOffline (a : Arguments) : Bool :=
  a.fixture.isSome || a.pinned.isSome

/-- Takes arguments after others were taken. -/
def parseAfter (a : Arguments) : List String → Except ArgumentError Arguments
  | [] => .ok a
  | "--json" :: rest => parseAfter { a with json := true } rest
  | "--verify" :: rest => parseAfter { a with audit := true } rest
  | ["--fixture"] => .error .noPath
  | "--fixture" :: path :: rest => parseAfter { a with fixture := some path } rest
  | ["--at"] => .error .noDay
  | ["--at", _] => .error .noTime
  | "--at" :: day :: time :: rest =>
    match Moment.ofWords? day time with
    | some m => parseAfter { a with pinned := some m } rest
    | .none => .error (.noMoment day time)
  | "-h" :: _ => .error .usage
  | "--help" :: _ => .error .usage
  | word :: rest => parseAfter { a with search := a.search ++ [word] } rest

/-- The meaning of an argument list. -/
def parse (arguments : List String) : Except ArgumentError Arguments :=
  none.parseAfter arguments

/-- The search text. -/
def query (a : Arguments) : String :=
  " ".intercalate a.search

end Arguments

end OpeningHours
