import OpeningHours.Decimal.Shortest
import OpeningHours.Feed.Directory
import OpeningHours.Json.Tree
import OpeningHours.Schedule.Week
import OpeningHours.Text

/-!
# OpeningHours — the audit of schedules

The audit says of every agency whether its schedule can be used: completely, in part, or not at all.

* `Finding.ofAgency` — what the audit finds for an agency.
* `Report.ofAgencies` — the findings for agencies, with a summary.
-/

namespace OpeningHours.Audit

open Feed (Agency)
open Json (Tree)

/-- How far a schedule can be used. -/
inductive Verdict where
  /-- Some day is open and nothing is missing or unreadable. -/
  | complete
  /-- Some day is open, but something is missing or unreadable. -/
  | partially
  /-- No day is open. -/
  | failed
deriving DecidableEq

/-- The word for a verdict in a report. -/
def Verdict.label : Verdict → String
  | complete => "Success"
  | partially => "PartialSuccess"
  | failed => "Failed"

/-- The sign for a verdict in a summary. -/
def Verdict.mark : Verdict → String
  | complete => "✓"
  | partially => "⚠"
  | failed => "✗"

/-- What the audit finds for one agency. -/
structure Finding where
  name : String
  verdict : Verdict
  /-- The days that have a line. -/
  linesFound : Nat
  openDays : List Weekday
  closedDays : List Weekday
  issues : List ScheduleIssue
deriving DecidableEq

/-- The verdict on a schedule with these open days and flaws. -/
def verdictOn (openDays : List Weekday) (issues : List ScheduleIssue) : Verdict :=
  if openDays.isEmpty then .failed else if issues.isEmpty then .complete else .partially

/-- The days of a week with opening hours, Monday first. -/
def daysOpen (w : Week) : List Weekday :=
  Weekday.mondayFirst.filter fun d => (w.day d).isOpen

/-- The closed days of a week, Monday first. -/
def daysClosed (w : Week) : List Weekday :=
  Weekday.mondayFirst.filter fun d => w.day d = .closed

/-- What the audit finds for an agency. -/
def Finding.ofAgency (a : Agency) : Finding :=
  let w := Week.ofText a.schedule.toList
  { name := a.name
    verdict := verdictOn (daysOpen w) w.issues
    linesFound := (daysOpen w).length + (daysClosed w).length
    openDays := daysOpen w
    closedDays := daysClosed w
    issues := w.issues }

/-- How many schedules of which verdict there are. -/
structure Summary where
  total : Nat
  complete : Nat
  partially : Nat
  failed : Nat
deriving DecidableEq

/-- The findings of an audit, with their summary. -/
structure Report where
  findings : List Finding
  summary : Summary

/-- The count of findings with a verdict. -/
def countOf (v : Verdict) (findings : List Finding) : Nat :=
  findings.countP fun f => f.verdict = v

def Report.ofAgencies (agencies : List Agency) : Report :=
  let findings := agencies.map Finding.ofAgency
  { findings := findings
    summary := {
      total := agencies.length
      complete := countOf .complete findings
      partially := countOf .partially findings
      failed := countOf .failed findings } }

-- ---------------------------------------------------------------------------
-- Writing a report
-- ---------------------------------------------------------------------------

/-- The codes of days in JSON. -/
def daysTree (days : List Weekday) : Tree :=
  .array (days.map fun d => .ofString d.code)

/-- A finding in JSON. -/
def Finding.tree (f : Finding) : Tree :=
  .record [
    ("name", .ofString f.name),
    ("status", .ofString f.verdict.label),
    ("lines_found", .number (.ofNat f.linesFound)),
    ("open_days", daysTree f.openDays),
    ("closed_days", daysTree f.closedDays),
    ("issues", .array (f.issues.map fun i => .ofString i.text))]

/-- A summary in JSON. -/
def Summary.tree (s : Summary) : Tree :=
  .record [
    ("total", .number (.ofNat s.total)),
    ("complete", .number (.ofNat s.complete)),
    ("partial", .number (.ofNat s.partially)),
    ("failed", .number (.ofNat s.failed))]

/-- A report made at a time, in JSON. -/
def Report.tree (timestamp : String) (r : Report) : Tree :=
  .record [
    ("timestamp", .ofString timestamp),
    ("results", .array (r.findings.map Finding.tree)),
    ("summary", r.summary.tree)]

/-- The codes of days between blanks, a dash for none. -/
def daysText (days : List Weekday) : String :=
  if days.isEmpty then "-" else " ".intercalate (days.map Weekday.code)

/-- The lines on a finding. -/
def Finding.text (f : Finding) : String :=
  "  " ++ f.verdict.mark ++ " " ++ f.name ++ " (" ++ Text.decimal f.linesFound ++
    "/7 days, open: " ++ daysText f.openDays ++ ")\n" ++
    String.join (f.issues.map fun i => "      " ++ i.text ++ "\n")

/-- The share of complete schedules in percent, none of none being zero. -/
def Summary.rate (s : Summary) : Float :=
  if s.total = 0 then 0 else Float.ofNat s.complete / Float.ofNat s.total * 100

/-- The rule above and below a summary. -/
def rule : String :=
  String.ofList (List.replicate 59 '═')

/-- The lines on a summary. -/
def Summary.text (s : Summary) : String :=
  "Complete: " ++ Text.decimal s.complete ++ "  Partial: " ++ Text.decimal s.partially ++
    "  Failed: " ++ Text.decimal s.failed ++ "  (total " ++ Text.decimal s.total ++ ")\n" ++
    "Clean decode rate: " ++ String.ofList (Decimal.oneDecimal s.rate) ++ "%\n"

def Report.text (r : Report) : String :=
  "\n" ++ rule ++ "\n" ++ "📊 SCHEDULE VERIFICATION\n" ++ rule ++ "\n" ++
    String.join (r.findings.map Finding.text) ++ "\n" ++ r.summary.text ++ rule ++ "\n"

end OpeningHours.Audit
