import OpeningHours.Schedule.Notation
import OpeningHours.Text

/-!
# OpeningHours — the week of a schedule text

A schedule text is read into one entry per day. The line of a day is the first one with the day's
code before its first colon; the day is closed when a closing word stands in its hours, else open in
the merged spans that its hours name. What is missing or unreadable becomes an issue, never a
failure.

The table shows every line that the provider published, whether or not it names a day. A line with
the code of a day is labelled by that code, any other by what stands before its colon; a line
without hours shows the closed mark.

At a moment an agency is open or closed, and the next change is named: the end of the current span,
the start of a later span of the day, or the next day with opening hours. The search for that day
goes once around the week, so an agency that opens once a week names its own day.

## Results

* `Week.day_ofText`    — every day is read on its own.
-/

namespace OpeningHours

-- ---------------------------------------------------------------------------
-- Reading a week
-- ---------------------------------------------------------------------------

/-- What the schedule says of one day. -/
inductive DaySchedule where
  /-- There is no line for the day. -/
  | missing
  /-- The day is marked closed, or its line names no span. -/
  | closed
  /-- The day is open in these merged spans. -/
  | opened (spans : List Span)
deriving DecidableEq

/-- The day has opening hours. -/
def DaySchedule.isOpen : DaySchedule → Bool
  | opened _ => true
  | _ => false

/-- A flaw of a schedule text. -/
inductive ScheduleIssue where
  | missingDay (day : Weekday)
  | unreadableHours (day : Weekday) (hours : String)
  | noSchedule
deriving DecidableEq

/-- The wording of an issue. -/
def ScheduleIssue.text : ScheduleIssue → String
  | missingDay d => "Missing day line: " ++ d.code
  | unreadableHours d hours => "Unparsable range for " ++ d.code ++ ": '" ++ hours ++ "'"
  | noSchedule => "Schedule unavailable"

/-- A schedule that was read: one entry per day, and the flaws found. -/
structure Week where
  days : PerDay DaySchedule
  issues : List ScheduleIssue

/-- The entry of one day. -/
def Week.day (w : Week) (d : Weekday) : DaySchedule :=
  w.days.get d

/-- No day has a line. -/
def Week.isUnavailable (w : Week) : Bool :=
  Weekday.all.all fun d => w.day d = .missing

namespace Schedule

/-- The words that close a day, folded. -/
def closingWords : List (List Char) :=
  ["ferme".toList, "fermee".toList, "closed".toList]

/-- A closing word stands in the hours, apart from case and accents. -/
def isClosedMarked (hours : List Char) : Bool :=
  (Text.words (Text.fold hours)).any fun w => closingWords.contains w

/-- The day and the hours of a line that starts with the code of a day and a colon. -/
def splitLine (line : List Char) : Option (Weekday × List Char) := do
  let (code, hours) ← Text.splitOnce ':' line
  let d ← Weekday.ofCode? code
  some (d, hours)

/-- The hours of the first line of a day. -/
def findHours (lines : List (List Char)) (d : Weekday) : Option (List Char) :=
  lines.findSome? fun line =>
    match splitLine line with
    | some (e, hours) => if e = d then some hours else none
    | none => none

/-- What the hours of a day's line say, with the flaw found in them. -/
def readHours (d : Weekday) (hours : List Char) : DaySchedule × Option ScheduleIssue :=
  if isClosedMarked hours then (.closed, none)
  else
    match Span.merge (spans hours) with
    | [] => (.closed, some (.unreadableHours d (String.ofList (Text.trim hours))))
    | s :: rest => (.opened (s :: rest), none)

/-- What a text's lines say of one day, with the flaw found there. -/
def readDay (lines : List (List Char)) (d : Weekday) : DaySchedule × Option ScheduleIssue :=
  match findHours lines d with
  | none => (.missing, some (.missingDay d))
  | some hours => readHours d hours

end Schedule

open Schedule in
/-- Reads a schedule text. -/
def Week.ofText (text : List Char) : Week :=
  if (Text.trim text).isEmpty then
    { days := PerDay.ofFn fun _ => .missing, issues := [.noSchedule] }
  else
    let lines := Text.lines text
    { days := PerDay.ofFn fun d => (readDay lines d).1
      issues := Weekday.all.filterMap fun d => (readDay lines d).2 }

/-- Every day of a text that is not blank is read on its own. -/
theorem Week.day_ofText {text : List Char} (h : Text.trim text ≠ []) (d : Weekday) :
    (Week.ofText text).day d = (Schedule.readDay (Text.lines text) d).1 := by
  rw [Week.ofText, if_neg (by simpa using h)]
  simp [Week.day]

end OpeningHours

namespace OpeningHours.Schedule

-- ---------------------------------------------------------------------------
-- The hours table
-- ---------------------------------------------------------------------------

/-- A row of the hours table. -/
structure Row where
  label : String
  hours : String
deriving DecidableEq

/-- The row of a line, cut at its first colon; both parts are trimmed. -/
def rowOfLine (line : List Char) : Row :=
  let (label, hours) :=
    match Text.splitOnce ':' line with
    | some (before, after) =>
      match Weekday.ofCode? before with
      | some d => (d.code, Text.trim after)
      | none => (String.ofList (Text.trim before), Text.trim after)
    | none => (String.ofList line, [])
  ⟨label, if hours.isEmpty then closedMark else String.ofList hours⟩

/-- The rows of a schedule text: one for every line that is not blank. -/
def rows (text : List Char) : List Row :=
  (((Text.lines text).map Text.trim).filter fun line => !line.isEmpty).map rowOfLine

end OpeningHours.Schedule

namespace OpeningHours

-- ---------------------------------------------------------------------------
-- Open or closed
-- ---------------------------------------------------------------------------

/-- Whether the doors are open. -/
inductive OpenState where
  | opened
  | closed
deriving DecidableEq

/-- The French word for a state. -/
def OpenState.label : OpenState → String
  | opened => "Ouvert"
  | closed => Schedule.closedMark

/-- Why no change can be named. -/
inductive Unknown where
  /-- The day has no line. -/
  | schedule
  /-- No day has opening hours. -/
  | hours
deriving DecidableEq

/-- The next change of state. -/
inductive NextEvent where
  | closesAt (time : TimeOfDay)
  | opensAt (time : TimeOfDay)
  | opensOn (day : Weekday)
  | unavailable (what : Unknown)
deriving DecidableEq

/-- The French wording of the next change. -/
def NextEvent.text : NextEvent → String
  | closesAt t => "Ferme à " ++ String.ofList t.displayText
  | opensAt t => "Ouvre à " ++ String.ofList t.displayText
  | opensOn d => "Ouvre " ++ d.frenchName
  | unavailable .schedule => "Horaire indisponible"
  | unavailable .hours => "Horaires indisponibles"

/-- The state at a moment and the next change. -/
structure Evaluation where
  state : OpenState
  next : NextEvent
deriving DecidableEq

namespace Week

/-- The next day with opening hours after a day, that day a week later included. -/
def nextOpenDay (w : Week) (today : Weekday) : NextEvent :=
  match ([1, 2, 3, 4, 5, 6, 7].map today.addDays).find? fun d => (w.day d).isOpen with
  | some d => .opensOn d
  | none => .unavailable .hours

/-- The state of an agency with this schedule at a moment, and its next change. -/
def evaluate (w : Week) (now : Moment) : Evaluation :=
  match w.day now.weekday with
  | .missing => ⟨.closed, .unavailable .schedule⟩
  | .closed => ⟨.closed, w.nextOpenDay now.weekday⟩
  | .opened spans =>
    match spans.find? fun s => s.covers now.time with
    | some current => ⟨.opened, .closesAt current.stop⟩
    | none =>
      match spans.find? fun s => now.time.minutes < s.start.minutes with
      | some upcoming => ⟨.closed, .opensAt upcoming.start⟩
      | none => ⟨.closed, w.nextOpenDay now.weekday⟩

end Week

end OpeningHours
