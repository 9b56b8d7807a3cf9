import OpeningHours.Decimal.Shortest
import OpeningHours.Feed.Collection
import OpeningHours.Schedule.DayRecord
import OpeningHours.Schedule.Notation

/-!
# OpeningHours — the directory of a feed

A feature of the feed describes one agency: where it is, and its properties under the provider's
names. Texts may be given as numbers or truth values. Hours are given as a text or as records, and
records win if there are any.

Every feature is read on its own. One that is no agency is passed over with a warning, named by the
provider's text or else by its position, and a summary closes the reading.

* `Feature.ofValue?` — the feature that a JSON value gives.
* `Feature.agency`   — the agency of a feature, or why it has none.
* `readAll`          — the agencies of a feed in order, and what the journal is told.
-/

namespace OpeningHours.Feed

-- ---------------------------------------------------------------------------
-- Agencies
-- ---------------------------------------------------------------------------

/-- An agency of the directory. -/
structure Agency where
  name : String
  address : String
  postalCode : String
  city : String
  phone : String
  fax : String
  latitude : Float
  longitude : Float
  /-- The schedule text, one line per day. -/
  schedule : String

-- ---------------------------------------------------------------------------
-- Features
-- ---------------------------------------------------------------------------

open Json (Value optional?)
open Schedule (DayRecord textOfRecords unknownDayEntries unifyBreaks)

/-- The properties of a feature. -/
structure Properties where
  name : Option String
  address : Option Value
  postalCode : Option Value
  city : Option Value
  phone : Option Value
  fax : Option Value
  hoursText : Option String
  hoursRecords : Option (List DayRecord)

/-- A feature, with the coordinates of its geometry, longitude first. -/
structure Feature where
  coordinates : Option (List Float)
  properties : Properties

/-- Why a feature is no agency. -/
inductive FeatureError where
  /-- The fields are not of the kinds they should be, as the reader of values says. -/
  | malformed (reason : String)
  | missingName
  | missingGeometry
deriving DecidableEq

/-- The wording of an error. -/
def FeatureError.text : FeatureError → String
  | malformed reason => "malformed feature: " ++ reason
  | missingName => "feature has no TEXTE attribute"
  | missingGeometry => "feature has no point geometry"

/-- The properties of a feature that gives none. -/
def Properties.none : Properties :=
  ⟨.none, .none, .none, .none, .none, .none, .none, .none⟩

def Properties.fieldNames : List (List String) :=
  [["TEXTE"], ["ADRESSE"], ["CODE_POSTAL"], ["VILLE"], ["TEL"], ["FAX"], ["HORAIRE"], ["HORAIRES"]]

/-- The records that a JSON value gives. -/
def recordsOf? : Value → Option (List DayRecord)
  | .array items => items.mapM DayRecord.ofValue?
  | _ => .none

/-- The properties that a JSON value gives. -/
def Properties.ofValue? (v : Value) : Option Properties := do
  match ← v.fields? 8 fieldNames with
  | [name, address, postalCode, city, phone, fax, hoursText, hoursRecords] =>
    some ⟨← optional? Value.string? name, ← optional? some address, ← optional? some postalCode,
      ← optional? some city, ← optional? some phone, ← optional? some fax,
      ← optional? Value.string? hoursText, ← optional? recordsOf? hoursRecords⟩
  | _ => .none

/-- The float that a JSON value gives. -/
def floatOf? : Value → Option Float
  | .number n => some n.toFloat
  | _ => .none

/-- The coordinates that a geometry gives. -/
def coordinatesOf? (v : Value) : Option (List Float) := do
  match ← v.fields? 1 [["coordinates"]] with
  | [some (.array items)] => items.mapM floatOf?
  | _ => .none

/-- The properties of a feature, all of them left out where there is no such field. -/
def propertiesOf? : Option Value → Option Properties
  | .none => some .none
  | some v => Properties.ofValue? v

/-- The feature that a JSON value gives. -/
def Feature.ofValue? (v : Value) : Option Feature := do
  match ← v.fields? 1 [["geometry"], ["properties"]] with
  | [geometry, properties] =>
    some ⟨← optional? coordinatesOf? geometry, ← propertiesOf? properties⟩
  | _ => .none

/-- The text of a number: an integer in digits, a float in its shortest digits. -/
def numberText : Decimal.Number → List Char
  | .integer n => (Decimal.Literal.ofInt n).text
  | .real x => (Decimal.Literal.ofFloat x).text

/-- A property as text: strings trimmed, numbers and truth values written out, all else empty. -/
def propertyText : Option Value → String
  | some (.string s) => String.ofList (Text.trim s.toList)
  | some (.number n) => String.ofList (numberText n)
  | some (.bool b) => if b then "true" else "false"
  | _ => ""

namespace Properties

/-- The name of the agency, if there is one that is not blank. -/
def trimmedName (p : Properties) : Option String :=
  match p.name with
  | some s =>
    if (Text.trim s.toList).isEmpty then .none
    else some (String.ofList (Text.trim s.toList))
  | .none => .none

/-- The records of the hours, if there are any. -/
def usedRecords (p : Properties) : List DayRecord :=
  p.hoursRecords.getD []

/-- The schedule text: from the records if there are any, else the provider's text. -/
def schedule (zone : Zone) (p : Properties) : List Char :=
  match p.usedRecords, p.hoursText with
  | r :: rs, _ => textOfRecords zone (r :: rs)
  | [], some text => unifyBreaks text.toList
  | [], .none => []

end Properties

namespace Feature

/-- The position of a feature as latitude and longitude. -/
def position? (f : Feature) : Option (Float × Float) :=
  match f.coordinates with
  | some (longitude :: latitude :: _) => some (latitude, longitude)
  | _ => .none

/-- The agency of a feature in a zone. -/
def agency (zone : Zone) (f : Feature) : Except FeatureError Agency :=
  match f.properties.trimmedName, f.position? with
  | .none, _ => .error .missingName
  | some _, .none => .error .missingGeometry
  | some name, some (latitude, longitude) =>
    .ok {
      name := name
      address := propertyText f.properties.address
      postalCode := propertyText f.properties.postalCode
      city := propertyText f.properties.city
      phone := propertyText f.properties.phone
      fax := propertyText f.properties.fax
      latitude := latitude
      longitude := longitude
      schedule := String.ofList (f.properties.schedule zone) }

/-- The warnings that go with the agency of a feature. -/
def entries (f : Feature) : List Journal.Entry :=
  unknownDayEntries f.properties.usedRecords

end Feature

-- ---------------------------------------------------------------------------
-- All features of a feed
-- ---------------------------------------------------------------------------

open Json (Value)

/-- The name under which a feature at a position is reported. -/
def subjectOf (position : Nat) (v : Value) : String :=
  match (v.member? "properties").bind (Value.member? "TEXTE") with
  | some (.string s) => s
  | _ => "feature #" ++ Text.decimal position

/-- The warning about a feature that is passed over. -/
def skipEntry (position : Nat) (v : Value) (e : FeatureError) : Journal.Entry where
  level := .warning
  source := .feed
  subject := some (subjectOf position v)
  message := "Skipping feature: " ++ e.text

/-- The agency that a JSON value describes, with the warnings that go with it. -/
def agencyOfValue (words : Wording) (zone : Zone) (v : Value) :
    Except FeatureError (Agency × List Journal.Entry) :=
  match Feature.ofValue? v with
  | none => .error (.malformed (words.badFeature v))
  | some f =>
    match f.agency zone with
    | .ok a => .ok (a, f.entries)
    | .error e => .error e

/-- What one feature gives: an agency or none, and entries. -/
def readOne (words : Wording) (zone : Zone) (position : Nat) (v : Value) :
    Option Agency × List Journal.Entry :=
  match agencyOfValue words zone v with
  | .ok (a, entries) => (some a, entries)
  | .error e => (none, [skipEntry position v e])

/-- The summary of a reading: graver if features were passed over, gravest if all were. -/
def summaryEntry (total mapped skipped : Nat) : Journal.Entry where
  level := if skipped = 0 then .info else if mapped = 0 then .error else .warning
  source := .feed
  subject := none
  message := "Ingestion complete: " ++ Text.decimal mapped ++ "/" ++ Text.decimal total ++
    " agencies mapped, " ++ Text.decimal skipped ++ " skipped"

/-- What the features from a position on give. -/
def readFrom (words : Wording) (zone : Zone) (position : Nat) :
    List Value → List Agency × List Journal.Entry
  | [] => ([], [])
  | v :: vs =>
    let (agency, entries) := readOne words zone position v
    let (agencies, later) := readFrom words zone (position + 1) vs
    (agency.toList ++ agencies, entries ++ later)

/-- The agencies of a feed, and the entries of its reading. -/
def readAll (words : Wording) (zone : Zone) (features : List Value) :
    List Agency × List Journal.Entry :=
  let (agencies, entries) := readFrom words zone 0 features
  (agencies, entries ++
    [summaryEntry features.length agencies.length (features.length - agencies.length)])

end OpeningHours.Feed
