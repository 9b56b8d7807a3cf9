import OpeningHours.Audit
import OpeningHours.Proofs.CutTags
import OpeningHours.Proofs.DirectoryReading
import OpeningHours.Proofs.RecordedWeek

/-!
# OpeningHours — hours as records and hours as text

A feature gives its hours as records or as a text, and an agency keeps a text in either case. The
text of records holds no carriage return and opens no break tag, so nothing in it is a break that
would have to be unified. A provider who publishes this text in place of the records therefore gets
the same agency, whatever else the feature holds, and whether the field of the records is then left
out, null or an empty list.

* `Feature.withText` — the feature with its hours as a text.
* `GivesHours`       — what a JSON value gives for the fields of a feature.

## Results

* `unifyBreaks_textOfRecords` — the text of records is left as it is.
* `agency_withText`           — a feature has the same agency with the text of its records.
* `Feature.ofValue?_eq`       — what a value gives for the hours is read apart from the rest of it.
* `agencyOf?_of_text`         — so the values that features are read from give the same agency.
* `agency_of_either_shape`    — both shapes of the hours lead to the same agency.
-/

namespace OpeningHours.Schedule

-- ---------------------------------------------------------------------------
-- The text of records
-- ---------------------------------------------------------------------------

/-- The characters of the text of records are line feeds and those of its lines. -/
theorem not_mem_textOfRecords {c : Char} (hfeed : c ≠ '\n')
    (hline : ∀ d ranges, c ∉ dayLine d ranges) (zone : Zone) (records : List DayRecord) :
    c ∉ textOfRecords zone records := by
  intro hc
  rw [textOfRecords, ofLines] at hc
  rcases Text.mem_of_mem_join hc with hsep | ⟨line, hmem, hc⟩
  · exact hfeed (List.mem_singleton.mp hsep)
  · obtain ⟨d, -, rfl⟩ := List.mem_map.mp hmem
    exact hline d _ hc

/-- The text of records is left as it is. -/
theorem unifyBreaks_textOfRecords (zone : Zone) (records : List DayRecord) :
    unifyBreaks (textOfRecords zone records) = textOfRecords zone records := by
  have hreturn := not_mem_textOfRecords (by decide) (break_not_mem_dayLine (.inr rfl)) zone records
  have hopen := not_mem_textOfRecords (by decide) open_not_mem_dayLine zone records
  refine unifyBreaks_eq_self_iff.mpr ⟨hreturn, ?_⟩
  rintro ⟨tag, ⟨_, -, hwrites⟩, hwithin⟩
  -- a tag would have to be opened
  obtain ⟨tail, rfl⟩ := hwrites.exists_tail
  exact hopen (hwithin.subset (List.mem_cons_self ..))

end OpeningHours.Schedule

namespace OpeningHours.Feed

open Json (Value optional?)
open Schedule (DayRecord textOfRecords unifyBreaks unifyBreaks_textOfRecords)

-- ---------------------------------------------------------------------------
-- Features
-- ---------------------------------------------------------------------------

/-- The properties with these hours in place of their own. -/
def Properties.withHours (text : Option String) (records : Option (List DayRecord))
    (p : Properties) : Properties :=
  { p with hoursText := text, hoursRecords := records }

/-- The feature with a text for its hours, and these records beside it. -/
def Feature.withText (text : List Char) (records : Option (List DayRecord)) (f : Feature) :
    Feature :=
  { f with properties := f.properties.withHours (some (String.ofList text)) records }

/-- Records are written as their text. -/
theorem schedule_of_records {zone : Zone} {p : Properties} {records : List DayRecord}
    (hrecords : p.hoursRecords = some records) (hne : records ≠ []) :
    p.schedule zone = textOfRecords zone records := by
  cases records with
  | nil => exact absurd rfl hne
  | cons r rs =>
    have hused : p.usedRecords = r :: rs := by rw [Properties.usedRecords, hrecords]; rfl
    rw [Properties.schedule, hused]

/-- A text counts if no records stand beside it. -/
theorem schedule_of_text {zone : Zone} {p : Properties} {text : String}
    (hrecords : p.hoursRecords = none ∨ p.hoursRecords = some [])
    (htext : p.hoursText = some text) : p.schedule zone = unifyBreaks text.toList := by
  have hused : p.usedRecords = [] := by
    rcases hrecords with hnone | hempty
    · rw [Properties.usedRecords, hnone]; rfl
    · rw [Properties.usedRecords, hempty]; rfl
  rw [Properties.schedule, hused, htext]

/-- An agency keeps the schedule of its feature. -/
theorem schedule_of_agency {zone : Zone} {f : Feature} {a : Agency}
    (h : (f.agency zone).toOption = some a) :
    a.schedule = String.ofList (f.properties.schedule zone) := by
  unfold Feature.agency at h
  split at h
  · cases h
  · cases h
  · cases h
    rfl

/-- A feature has the same agency with the text of its records. -/
theorem agency_withText {zone : Zone} {f : Feature} {records : List DayRecord}
    {listed : Option (List DayRecord)} (hrecords : f.properties.hoursRecords = some records)
    (hne : records ≠ []) (hlisted : listed = none ∨ listed = some []) :
    (f.withText (textOfRecords zone records) listed).agency zone = f.agency zone := by
  have hschedule : (f.withText (textOfRecords zone records) listed).properties.schedule zone =
      f.properties.schedule zone := by
    rw [schedule_of_text hlisted rfl, schedule_of_records hrecords hne, String.toList_ofList,
      unifyBreaks_textOfRecords]
  -- all that an agency takes from a feature besides its schedule was kept
  rw [Feature.agency, Feature.agency, hschedule]
  rfl

-- ---------------------------------------------------------------------------
-- Values
-- ---------------------------------------------------------------------------

/-- The properties with the six values that describe an agency, and without hours. -/
def Properties.ofAbout? : List (Option Value) → Option Properties
  | [name, address, postalCode, city, phone, fax] => do
    some ⟨← optional? Value.string? name, ← optional? some address, ← optional? some postalCode,
      ← optional? some city, ← optional? some phone, ← optional? some fax, .none, .none⟩
  | _ => .none

/-- The value has the fields of a feature: its geometry, and properties with the six values that
describe an agency, the text of its hours and their records. -/
def GivesHours (v : Value) (geometry : Option Value) (about : List (Option Value))
    (text records : Option Value) : Prop :=
  about.length = 6 ∧ ∃ properties,
    v.fields? 1 [["geometry"], ["properties"]] = some [geometry, some properties] ∧
    properties.fields? 8 Properties.fieldNames = some (about ++ [text, records])

/-- No records are given: their field is left out, null or an empty list. -/
inductive NoRecords : Option Value → Prop
  | absent : NoRecords none
  | null : NoRecords (some .null)
  | empty : NoRecords (some (.array []))

/-- A field without records gives none, or an empty list of them. -/
theorem NoRecords.exists_listed {field : Option Value} (h : NoRecords field) :
    ∃ listed, optional? recordsOf? field = some listed ∧ (listed = none ∨ listed = some []) := by
  cases h with
  | absent => exact ⟨none, rfl, .inl rfl⟩
  | null => exact ⟨none, rfl, .inl rfl⟩
  | empty => exact ⟨some [], rfl, .inr rfl⟩

section

variable {about : List (Option Value)} {hours field : Option Value} {text : Option String}
  {records : Option (List DayRecord)} (hhours : optional? Value.string? hours = some text)
  (hfield : optional? recordsOf? field = some records)
include hhours hfield

/-- What describes an agency is read apart from its hours. -/
theorem Properties.ofValue?_eq {v : Value} (habout : about.length = 6)
    (hfields : v.fields? 8 fieldNames = some (about ++ [hours, field])) :
    ofValue? v = (ofAbout? about).map (withHours text records) := by
  obtain ⟨name, address, postalCode, city, phone, fax, rfl⟩ :
      ∃ name address postalCode city phone fax,
        about = [name, address, postalCode, city, phone, fax] := by
    match about, habout with
    | [name, address, postalCode, city, phone, fax], _ => exact ⟨_, _, _, _, _, _, rfl⟩
  simp only [ofValue?, hfields, ofAbout?, List.cons_append, List.nil_append, Option.bind_eq_bind,
    Option.bind_some, hhours, hfield, Option.map_bind, Function.comp_def, Option.map_some,
    withHours]

/-- The feature that a value gives, by what it gives for the hours. -/
theorem Feature.ofValue?_eq {v : Value} {geometry : Option Value}
    (h : GivesHours v geometry about hours field) :
    ofValue? v = (optional? coordinatesOf? geometry).bind fun coordinates =>
      (Properties.ofAbout? about).map fun p => ⟨coordinates, p.withHours text records⟩ := by
  obtain ⟨habout, properties, hv, hfields⟩ := h
  have hproperties := Properties.ofValue?_eq hhours hfield habout hfields
  simp only [ofValue?, hv, propertiesOf?, hproperties, Option.bind_eq_bind, Option.bind_some,
    Option.bind_assoc, Function.comp_def, Option.map_eq_bind]

end

/-- A feature that gives the text of records has the agency of the one that gives the records. -/
theorem agencyOf?_of_text {zone : Zone} {records : List DayRecord} (hne : records ≠ [])
    {v v' : Value} {geometry hours field field' : Option Value} {about : List (Option Value)}
    (hv : GivesHours v geometry about hours field) (hhours : optional? Value.string? hours ≠ none)
    (hfield : optional? recordsOf? field = some (some records))
    (hv' : GivesHours v' geometry about
      (some (.string (String.ofList (textOfRecords zone records)))) field')
    (hfield' : NoRecords field') : agencyOf? zone v' = agencyOf? zone v := by
  obtain ⟨found, hfound⟩ := Option.ne_none_iff_exists'.mp hhours
  obtain ⟨listed, hlisted, hnone⟩ := hfield'.exists_listed
  have hread := Feature.ofValue?_eq hfound hfield hv
  have hread' := Feature.ofValue?_eq rfl hlisted hv'
  rw [agencyOf?, agencyOf?, hread, hread']
  -- what is unreadable besides the hours is so in both features
  cases optional? coordinatesOf? geometry with
  | none => rfl
  | some coordinates =>
    cases Properties.ofAbout? about with
    | none => rfl
    | some p =>
      have hrecords : (p.withHours found (some records)).hoursRecords = some records := rfl
      exact congrArg Except.toOption
        (agency_withText (f := ⟨coordinates, p.withHours found (some records)⟩) hrecords hne hnone)

/-- The agency of a feature that gives records keeps their text. -/
theorem schedule_of_agencyOf? {zone : Zone} {records : List DayRecord} (hne : records ≠ [])
    {v : Value} {geometry hours field : Option Value} {about : List (Option Value)} {a : Agency}
    (hv : GivesHours v geometry about hours field) (hhours : optional? Value.string? hours ≠ none)
    (hfield : optional? recordsOf? field = some (some records)) (ha : agencyOf? zone v = some a) :
    a.schedule = String.ofList (textOfRecords zone records) := by
  obtain ⟨found, hfound⟩ := Option.ne_none_iff_exists'.mp hhours
  obtain ⟨f, hf, ha⟩ := Option.bind_eq_some_iff.mp ha
  rw [Feature.ofValue?_eq hfound hfield hv] at hf
  obtain ⟨coordinates, -, hf⟩ := Option.bind_eq_some_iff.mp hf
  obtain ⟨p, -, rfl⟩ := Option.map_eq_some_iff.mp hf
  rw [schedule_of_agency ha, schedule_of_records rfl hne]

/-- **Both shapes of the hours lead to the same agency.** The text of records is left as it is, so a
feature that gives this text, and no records, has the agency of the feature with the records, and
all that is told of the one is told of the other. -/
theorem agency_of_either_shape (zone : Zone) {records : List DayRecord} (hne : records ≠ []) :
    let text := textOfRecords zone records
    unifyBreaks text = text ∧
    (∀ (f : Feature) (listed : Option (List DayRecord)), f.properties.hoursRecords = some records →
      (listed = none ∨ listed = some []) → (f.withText text listed).agency zone = f.agency zone) ∧
    ∀ (v v' : Value) (geometry hours field field' : Option Value) (about : List (Option Value)),
      GivesHours v geometry about hours field → optional? Value.string? hours ≠ none →
      optional? recordsOf? field = some (some records) →
      GivesHours v' geometry about (some (.string (String.ofList text))) field' →
      NoRecords field' →
      agencyOf? zone v' = agencyOf? zone v ∧
      ∀ a a', agencyOf? zone v = some a → agencyOf? zone v' = some a' →
        a.schedule = String.ofList text ∧ a' = a ∧
        Schedule.rows a'.schedule.toList = Schedule.rows a.schedule.toList ∧
        Audit.Finding.ofAgency a' = Audit.Finding.ofAgency a ∧
        ∀ now, (Week.ofText a'.schedule.toList).evaluate now =
          (Week.ofText a.schedule.toList).evaluate now := by
  intro text
  refine ⟨unifyBreaks_textOfRecords zone records, ?_, ?_⟩
  · exact fun f listed hrecords hlisted => agency_withText hrecords hne hlisted
  · intro v v' geometry hours field field' about hv hhours hfield hv' hfield'
    have hsame := agencyOf?_of_text hne hv hhours hfield hv' hfield'
    refine ⟨hsame, ?_⟩
    intro a a' ha ha'
    obtain rfl : a = a' := Option.some.inj (ha.symm.trans (hsame.symm.trans ha'))
    exact ⟨schedule_of_agencyOf? hne hv hhours hfield ha, rfl, rfl, rfl, fun now => rfl⟩

/-- A feature with a position, a name and these fields for its hours. -/
def namedFeature (hours : List (String × Value)) : Value :=
  .object [
    ("geometry",
      .object [("coordinates", .array [.number (.integer 166), .number (.integer (-22))])]),
    ("properties", .object (("TEXTE", .string "Centre") :: hours))]

/-- A day's record in the provider's names, and its text with null for the records. -/
theorem agency_of_either_shape_monday :
    let records : List DayRecord := [⟨"LU", some (.text "08:00"), some (.text "12:00"), none, none⟩]
    let text := textOfRecords .noumea records
    let v := namedFeature [("HORAIRES", .array [.object [("JOUR", .string "LU"),
      ("DEBUT_MATIN", .string "08:00"), ("FIN_MATIN", .string "12:00")]])]
    let v' := namedFeature [("HORAIRE", .string (String.ofList text)), ("HORAIRES", .null)]
    records ≠ [] ∧ (agencyOf? .noumea v).isSome = true ∧
      agencyOf? .noumea v' = agencyOf? .noumea v := by
  intro records text v v'
  have hne : records ≠ [] := by simp [records]
  refine ⟨hne, rfl, ?_⟩
  have hv : GivesHours v _ [some (.string "Centre"), none, none, none, none, none] none _ :=
    ⟨rfl, _, rfl, rfl⟩
  have hv' : GivesHours v' _ [some (.string "Centre"), none, none, none, none, none] _
      (some .null) := ⟨rfl, _, rfl, rfl⟩
  exact ((agency_of_either_shape .noumea hne).2.2 v v' _ _ _ _ _ hv nofun rfl hv' .null).1

end OpeningHours.Feed
