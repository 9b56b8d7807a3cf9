import OpeningHours.Text

/-!
# OpeningHours — the days of the week

Days count from Sunday. A schedule line names its day by a two-letter code, structured records may
also use a day name, and clocks use short names.

* `Weekday.ofCode?` — the code, in any case and with blanks around it.
* `Weekday.ofKey?`  — a code or a French or English day name, in any case and with or without
  accents.
* `Weekday.ofShortName?` — the first three letters of a day name, with or without a full stop.

## Results

* `Weekday.ofIndex_index`, `Weekday.index_ofIndex` — days and their positions modulo 7 correspond.
* `Weekday.ofCode?_code`, `Weekday.ofShortName?_shortName` — every day is found by its code and by
  its short name.
-/

namespace OpeningHours

/-- A day of the week. -/
inductive Weekday where
  | sunday
  | monday
  | tuesday
  | wednesday
  | thursday
  | friday
  | saturday
deriving DecidableEq

namespace Weekday

/-- All days, Sunday first. -/
def all : List Weekday :=
  [sunday, monday, tuesday, wednesday, thursday, friday, saturday]

/-- All days in the order of the printed week, Monday first. -/
def mondayFirst : List Weekday :=
  [monday, tuesday, wednesday, thursday, friday, saturday, sunday]

/-- The position of a day, counted from Sunday. -/
def index : Weekday → Nat
  | sunday => 0
  | monday => 1
  | tuesday => 2
  | wednesday => 3
  | thursday => 4
  | friday => 5
  | saturday => 6

/-- The day at a position counted from Sunday, modulo the week. -/
def ofIndex (n : Nat) : Weekday :=
  match n % 7 with
  | 0 => sunday
  | 1 => monday
  | 2 => tuesday
  | 3 => wednesday
  | 4 => thursday
  | 5 => friday
  | _ => saturday

/-- The day that is `k` days after this one. -/
def addDays (d : Weekday) (k : Nat) : Weekday :=
  ofIndex (d.index + k)

/-- The two-letter code of a day. -/
def code : Weekday → String
  | sunday => "DI"
  | monday => "LU"
  | tuesday => "MA"
  | wednesday => "ME"
  | thursday => "JE"
  | friday => "VE"
  | saturday => "SA"

/-- The French name of a day. -/
def frenchName : Weekday → String
  | sunday => "dimanche"
  | monday => "lundi"
  | tuesday => "mardi"
  | wednesday => "mercredi"
  | thursday => "jeudi"
  | friday => "vendredi"
  | saturday => "samedi"

/-- The English name of a day. -/
def englishName : Weekday → String
  | sunday => "Sunday"
  | monday => "Monday"
  | tuesday => "Tuesday"
  | wednesday => "Wednesday"
  | thursday => "Thursday"
  | friday => "Friday"
  | saturday => "Saturday"

/-- The short name of a day, as clocks write it. -/
def shortName : Weekday → String
  | sunday => "Sun"
  | monday => "Mon"
  | tuesday => "Tue"
  | wednesday => "Wed"
  | thursday => "Thu"
  | friday => "Fri"
  | saturday => "Sat"

/-- Both names of a day in lower case. -/
def lowerNames (d : Weekday) : List (List Char) :=
  [d.frenchName.toList, d.englishName.toList.map Char.toLower]

/-- The day whose code the text is, apart from the case of ASCII letters and blanks around it. -/
def ofCode? (text : List Char) : Option Weekday :=
  all.find? fun d => decide (d.code.toList.map Char.toLower = (Text.trim text).map Char.toLower)

/-- The day that a record's key names: by its code, or by a name apart from case and accents. -/
def ofKey? (key : List Char) : Option Weekday :=
  match ofCode? key with
  | some d => some d
  | none => all.find? fun d => d.lowerNames.contains (Text.fold (Text.trim key))

/-- A text without the full stops at its end. -/
def dropStops (text : List Char) : List Char :=
  (text.reverse.dropWhile (· = '.')).reverse

/-- The day of a short name: the first three letters of a name, in any case, full stops allowed. -/
def ofShortName? (name : List Char) : Option Weekday :=
  all.find? fun d =>
    (d.lowerNames.map (List.take 3)).contains (Unicode.lower (dropStops (Text.trim name)))

/-- A day is found from its index. -/
@[simp] theorem ofIndex_index (d : Weekday) : ofIndex d.index = d := by
  cases d <;> rfl

theorem index_lt (d : Weekday) : d.index < 7 := by
  cases d <;> decide

@[simp] theorem index_ofIndex (n : Nat) : (ofIndex n).index = n % 7 := by
  have h : n % 7 < 7 := Nat.mod_lt _ (by decide)
  unfold ofIndex
  split <;> simp_all [index]
  omega

/-- Days are counted around the week. -/
theorem index_addDays (d : Weekday) (k : Nat) : (d.addDays k).index = (d.index + k) % 7 := by
  simp [addDays]

theorem mem_all (d : Weekday) : d ∈ all := by
  cases d <;> decide

theorem mem_mondayFirst (d : Weekday) : d ∈ mondayFirst := by
  cases d <;> decide

/-- A day is found from its code. -/
@[simp] theorem ofCode?_code (d : Weekday) : ofCode? d.code.toList = some d := by
  cases d <;> rfl

/-- A day is found from its short name. -/
@[simp] theorem ofShortName?_shortName (d : Weekday) :
    ofShortName? d.shortName.toList = some d := by
  cases d <;> rfl

end Weekday

/-- One value for every day of the week. -/
structure PerDay (α : Type) where
  sunday : α
  monday : α
  tuesday : α
  wednesday : α
  thursday : α
  friday : α
  saturday : α

namespace PerDay

variable {α : Type}

/-- The value of one day. -/
def get (p : PerDay α) : Weekday → α
  | .sunday => p.sunday
  | .monday => p.monday
  | .tuesday => p.tuesday
  | .wednesday => p.wednesday
  | .thursday => p.thursday
  | .friday => p.friday
  | .saturday => p.saturday

/-- The table of a function on days. -/
def ofFn (f : Weekday → α) : PerDay α :=
  ⟨f .sunday, f .monday, f .tuesday, f .wednesday, f .thursday, f .friday, f .saturday⟩

@[simp] theorem get_ofFn (f : Weekday → α) (d : Weekday) : (ofFn f).get d = f d := by
  cases d <;> rfl

/-- Two tables are equal when they agree on every day. -/
theorem ext_get {p q : PerDay α} (h : ∀ d, p.get d = q.get d) : p = q := by
  cases p
  cases q
  have h0 := h .sunday
  have h1 := h .monday
  have h2 := h .tuesday
  have h3 := h .wednesday
  have h4 := h .thursday
  have h5 := h .friday
  have h6 := h .saturday
  simp only [get] at h0 h1 h2 h3 h4 h5 h6
  simp [h0, h1, h2, h3, h4, h5, h6]

end PerDay

end OpeningHours
