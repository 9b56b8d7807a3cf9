import OpeningHours.Feed.Directory
import OpeningHours.Journal
import OpeningHours.Json.Tree
import OpeningHours.Schedule.Week

/-!
# OpeningHours — the listing

The listing shows for every agency its state at a moment, the next change and the hours table. It is
searched by a piece of an agency's name, city or address, apart from case and accents, and written
as text or as JSON.

* `View.ofAgency` — what the listing shows of an agency.
* `search`        — the views that a search text finds, in order.
* `render`, `renderJson` — the listing as text and as JSON.
-/

namespace OpeningHours

open Feed (Agency)
open Json (Tree)

/-- What the listing shows of an agency. -/
structure View where
  agency : Agency
  evaluation : Evaluation
  rows : List Schedule.Row

namespace View

/-- The view of an agency at a moment. -/
def ofAgency (now : Moment) (a : Agency) : View where
  agency := a
  evaluation := (Week.ofText a.schedule.toList).evaluate now
  rows := Schedule.rows a.schedule.toList

/-- The agency is open. -/
def isOpen (v : View) : Bool :=
  v.evaluation.state = .opened

end View

namespace Listing

/-- The journal's entry about a flaw in an agency's schedule. -/
def issueEntry (a : Agency) (issue : ScheduleIssue) : Journal.Entry where
  level := .debug
  source := .schedule
  subject := some a.name
  message := issue.text

/-- The entries about the flaws in the schedules of agencies. -/
def entries (agencies : List Agency) : List Journal.Entry :=
  agencies.flatMap fun a => (Week.ofText a.schedule.toList).issues.map (issueEntry a)

/-- The texts that a search looks into. -/
def searched (v : View) : List String :=
  [v.agency.name, v.agency.city, v.agency.address]

/-- The view has the folded text as a piece of a text that is searched; an empty one is in all. -/
def hasPiece (needle : List Char) (v : View) : Bool :=
  needle.isEmpty || (searched v).any fun s => Text.occursIn needle (Text.fold s.toList)

/-- The views that a search text finds, in order. -/
def search (query : String) (views : List View) : List View :=
  views.filter (hasPiece (Text.fold (Text.trim query.toList)))

/-- The text filled up with blanks to a width. -/
def padTo (width : Nat) (s : String) : String :=
  s ++ String.ofList (List.replicate (width - s.toList.length) ' ')

/-- A line of the listing for a text that is left out if it is empty. -/
def optionalLine (label value : String) : String :=
  if value = "" then "" else "  " ++ label ++ " : " ++ value ++ "\n"

/-- The line of a row of the hours table. -/
def rowLine (r : Schedule.Row) : String :=
  "    " ++ padTo 4 r.label ++ r.hours ++ "\n"

/-- The block of an agency. -/
def block (v : View) : String :=
  "Agence de " ++ v.agency.name ++ "\n" ++
    "  Adresse : " ++ v.agency.address ++ "\n" ++
    "  Code Postal : " ++ v.agency.postalCode ++ " - " ++ v.agency.city ++ "\n" ++
    optionalLine "Téléphone" v.agency.phone ++
    optionalLine "Fax" v.agency.fax ++
    "  " ++ v.evaluation.state.label ++ " • " ++ v.evaluation.next.text ++ "\n" ++
    String.join (v.rows.map rowLine) ++ "\n"

/-- The listing as text. -/
def render (views : List View) : String :=
  String.join (views.map block)

/-- A row of the hours table in JSON. -/
def rowTree (r : Schedule.Row) : Tree :=
  .record [("day", .ofString r.label), ("hours", .ofString r.hours)]

/-- A view in JSON. -/
def viewTree (v : View) : Tree :=
  .record [
    ("name", .ofString v.agency.name),
    ("address", .ofString v.agency.address),
    ("postal_code", .ofString v.agency.postalCode),
    ("city", .ofString v.agency.city),
    ("phone", .ofString v.agency.phone),
    ("fax", .ofString v.agency.fax),
    ("latitude", .ofFloat v.agency.latitude),
    ("longitude", .ofFloat v.agency.longitude),
    ("is_open", .bool v.isOpen),
    ("status", .ofString v.evaluation.state.label),
    ("next", .ofString v.evaluation.next.text),
    ("schedule", .array (v.rows.map rowTree))]

/-- The listing as JSON. -/
def renderJson (views : List View) : String :=
  String.ofList (Tree.array (views.map viewTree)).layout

end Listing

end OpeningHours
