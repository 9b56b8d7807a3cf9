import OpeningHours.Proofs.CanonicalText
import OpeningHours.Proofs.CivilDates
import OpeningHours.Proofs.PaddedNumbers
import OpeningHours.Schedule.DayRecord

/-!
# OpeningHours — instants as numbers and as texts

A boundary can give an instant by the milliseconds since the start of 1970, or by the date and the
clock of some place together with the place's offset from UTC. The date of a text goes through the
calendar, that of a number does not, and a fraction of a second is cut where a number has no more
room. For each instant the two ways end in the same time of day, in every zone.

* `Spells ms cs`  — the text spells the instant of so many milliseconds. The date and the clock are
  those of stamps, for an instant that is ahead by the offset.
* `Figures`       — a date of a year of four digits, and a clock.
* `Figures.Shows` — the figures are those of an instant in UTC.

## Results

* `readOffset_eq`, `readFraction_append` — a written offset and a written fraction are read.
* `readRfc3339_written`           — written figures are read.
* `Figures.exists_shows`, `Figures.exists_shown` — instants have figures, and figures an instant.
* `spellsPlain_iff`               — all figures spell, with any fraction and any offset.
* `SpellsPlain.exists_instant`    — a text that spells an instant is read as that instant.
* `Boundary.time?_text_of_spells` — a text and a number of one instant stand for the same time.
-/

namespace OpeningHours

namespace Calendar

open Text

-- ---------------------------------------------------------------------------
-- The notation
-- ---------------------------------------------------------------------------

/-- Hours and minutes of an offset. -/
def offsetClock (hours minutes : Nat) : List Char :=
  (padded 2 hours).toList ++ ':' :: (padded 2 minutes).toList

/-- The characters write an offset from UTC in minutes. -/
inductive WritesOffset : Int → List Char → Prop
  | universal {c : Char} (hc : c = 'Z' ∨ c = 'z') : WritesOffset 0 [c]
  | ahead {hours minutes : Nat} (hhours : hours < 24) (hminutes : minutes < 60) :
      WritesOffset (hours * 60 + minutes) ('+' :: offsetClock hours minutes)
  | behind {hours minutes : Nat} {sign : Char} (hsign : sign = '-' ∨ sign = '\u2212')
      (hhours : hours < 24) (hminutes : minutes < 60) :
      WritesOffset (-(hours * 60 + minutes)) (sign :: offsetClock hours minutes)

/-- The characters write a fraction of a second that has so many full milliseconds. -/
inductive WritesFraction : Nat → List Char → Prop
  | absent : WritesFraction 0 []
  | digits {ds : List Char} (hne : ds ≠ []) (hds : AllDigits ds) :
      WritesFraction (number ds * 1000 / 10 ^ ds.length) ('.' :: ds)

/-- A date of a year of four digits, and a clock. -/
structure Figures where
  year : Nat
  month : Nat
  day : Nat
  hour : Nat
  minute : Nat
  second : Nat
  isDate : isDate year month day = true
  year_lt : year < 10000
  hour_lt : hour < 24
  minute_lt : minute < 60
  second_lt : second < 60

namespace Figures

/-- The figures in writing, with a mark between date and clock and a tail behind them. -/
def written (f : Figures) (mark : Char) (tail : List Char) : List Char :=
  (padded 4 f.year).toList ++ '-' :: ((padded 2 f.month).toList ++ '-' ::
    ((padded 2 f.day).toList ++ mark :: ((padded 2 f.hour).toList ++ ':' ::
      ((padded 2 f.minute).toList ++ ':' :: ((padded 2 f.second).toList ++ tail)))))

/-- The milliseconds from the start of 1970 to a date and a clock that is ahead of UTC by so many
minutes, with a fraction of a second in milliseconds. -/
def millis (f : Figures) (fraction : Nat) (shift : Int) : Int :=
  ((epochDay f.year f.month f.day * 1440 + (f.hour * 60 + f.minute : Nat) - shift) * 60 + f.second)
    * 1000 + fraction

end Figures

/-- The day that is so many days after 1 January 1970 has a year of four digits. -/
def HasPlainYear (day : Int) : Prop :=
  ∃ y : Nat, y < 10000 ∧ (dateOfDay day).year = y

/-- The text names the instant so many milliseconds after the start of 1970 by the date and the
clock of some place. Both are written as stamps write them, for the instant that is ahead by the
offset. -/
inductive SpellsPlain (ms : Int) : List Char → Prop
  | mk {shift : Int} {mark : Char} {fraction offset : List Char} (shown : Instant)
      (hshown : shown.millis = ms + shift * 60000) (hyear : HasPlainYear (shown.seconds / 86400))
      (hmark : mark = 'T' ∨ mark = 't' ∨ mark = ' ')
      (hfraction : WritesFraction (shown.millis % 1000).toNat fraction)
      (hoffset : WritesOffset shift offset) :
      SpellsPlain ms
        ((dateText shown).toList ++ mark :: ((clockText shown).toList ++ (fraction ++ offset)))

/-- The text names the instant so many milliseconds after the start of 1970, with or without blanks
around the name. -/
def Spells (ms : Int) (cs : List Char) : Prop :=
  ∃ front plain back, AllBlank front ∧ AllBlank back ∧ SpellsPlain ms plain ∧
    cs = front ++ plain ++ back

-- ---------------------------------------------------------------------------
-- Reading the parts
-- ---------------------------------------------------------------------------

/-- A padded number below 100 is read back. -/
theorem readDigits_two {n : Nat} (h : n < 100) (rest : List Char) :
    readDigits 2 ((padded 2 n).toList ++ rest) = some (n, rest) :=
  readDigits_padded h (by decide) rest

/-- The size of an offset is read back from its clock. -/
theorem readOffsetSize_offsetClock {hours minutes : Nat} (hhours : hours < 24)
    (hminutes : minutes < 60) :
    readOffsetSize (offsetClock hours minutes) = some ((hours * 60 + minutes : Int), []) := by
  have hread := readDigits_two (n := hours) (by omega) (':' :: (padded 2 minutes).toList)
  have hread' := readDigits_two (n := minutes) (by omega) []
  rw [List.append_nil] at hread'
  simp [readOffsetSize, offsetClock, hread, hread', expect, hhours, hminutes]

/-- A written offset is read. -/
theorem readOffset_eq {shift : Int} {offset : List Char} (h : WritesOffset shift offset) :
    readOffset offset = some (shift, []) := by
  cases h with
  | universal hc => rw [readOffset, if_pos hc]
  | ahead hhours hminutes =>
    rw [readOffset, if_neg (by decide), if_pos rfl, readOffsetSize_offsetClock hhours hminutes]
  | behind hsign hhours hminutes =>
    rcases hsign with rfl | rfl
    all_goals
      rw [readOffset, if_neg (by decide), if_neg (by decide), if_pos (by decide),
        readOffsetSize_offsetClock hhours hminutes]
      rfl

/-- An offset begins with no digit and no point. -/
theorem WritesOffset.exists_cons {shift : Int} {offset : List Char}
    (h : WritesOffset shift offset) :
    ∃ c rest, offset = c :: rest ∧ c.isDigit = false ∧ c ≠ '.' := by
  cases h with
  | universal hc => rcases hc with rfl | rfl <;> exact ⟨_, _, rfl, by decide, by decide⟩
  | ahead _ _ => exact ⟨_, _, rfl, by decide, by decide⟩
  | behind hsign _ _ => rcases hsign with rfl | rfl <;> exact ⟨_, _, rfl, by decide, by decide⟩

/-- A written fraction is read, where an offset stands behind it. -/
theorem readFraction_append {ms : Nat} {shift : Int} {fraction offset : List Char}
    (h : WritesFraction ms fraction) (hoffset : WritesOffset shift offset) :
    readFraction (fraction ++ offset) = some (ms, offset) := by
  obtain ⟨c, rest, rfl, hdigit, hpoint⟩ := hoffset.exists_cons
  cases h with
  | absent =>
    rw [List.nil_append, readFraction]
    intro digits heq
    exact hpoint (List.cons.inj heq).1
  | @digits ds hne hds =>
    have hstop : ∀ d, (c :: rest).head? = some d → d.isDigit = false := fun d hd => by
      rwa [← Option.some.inj hd]
    rw [List.cons_append, readFraction, leadingDigits_append hds hstop,
      afterDigits_append hds hstop, ← fractionMillis_eq hds]
    cases ds with
    | nil => exact absurd rfl hne
    | cons d ds => rfl

-- ---------------------------------------------------------------------------
-- Reading the whole
-- ---------------------------------------------------------------------------

theorem bind_of_some {α β : Type} {o : Option α} {a : α} {f : α → Option β} (h : o = some a) :
    (o >>= f) = f a := by
  rw [h]
  rfl

theorem bind_of_none {α β : Type} {o : Option α} {f : α → Option β} (h : o = none) :
    (o >>= f) = none := by
  rw [h]
  rfl

theorem expect_cons (c : Char) (rest : List Char) : expect c (c :: rest) = some rest :=
  if_pos rfl

theorem readDateMark_cons {mark : Char} (h : mark = 'T' ∨ mark = 't' ∨ mark = ' ')
    (rest : List Char) : readDateMark (mark :: rest) = some rest :=
  if_pos h

/-- Written figures are read. -/
theorem readRfc3339_written (f : Figures) {fraction : Nat} {shift : Int} {mark : Char}
    {tail offset : List Char} (hmark : mark = 'T' ∨ mark = 't' ∨ mark = ' ')
    (hfraction : readFraction tail = some (fraction, offset))
    (hoffset : readOffset offset = some (shift, [])) :
    readRfc3339 (f.written mark tail) = some (f.millis fraction shift, []) := by
  have hsecond := f.second_lt
  have hvalid : isDate f.year f.month f.day = true ∧ f.hour < 24 ∧ f.minute < 60 ∧ f.second ≤ 60 :=
    ⟨f.isDate, f.hour_lt, f.minute_lt, by omega⟩
  have hsharp : min f.second 59 = f.second := by omega
  have hbounds := isDate_bounds f.isDate
  have hmonth : f.month < 100 := by omega
  have hday : f.day < 100 := by omega
  unfold readRfc3339
  refine (bind_of_some (readDigits_padded f.year_lt (by decide) _)).trans ?_
  refine (bind_of_some (expect_cons ..)).trans ?_
  refine (bind_of_some (readDigits_two hmonth _)).trans ?_
  refine (bind_of_some (expect_cons ..)).trans ?_
  refine (bind_of_some (readDigits_two hday _)).trans ?_
  refine (bind_of_some (readDateMark_cons hmark _)).trans ?_
  refine (bind_of_some (readDigits_two (by omega) _)).trans ?_
  refine (bind_of_some (expect_cons ..)).trans ?_
  refine (bind_of_some (readDigits_two (by omega) _)).trans ?_
  refine (bind_of_some (expect_cons ..)).trans ?_
  refine (bind_of_some (readDigits_two (by omega) _)).trans ?_
  refine (bind_of_some hfraction).trans ?_
  refine (bind_of_some hoffset).trans ?_
  dsimp only
  rw [if_pos hvalid, hsharp, Figures.millis]

-- ---------------------------------------------------------------------------
-- Stamps
-- ---------------------------------------------------------------------------

namespace Figures

/-- The figures are those of an instant in UTC. -/
structure Shows (f : Figures) (t : Instant) : Prop where
  date : dateOfDay (t.seconds / 86400) = ⟨f.year, f.month, f.day⟩
  clock : (t.seconds % 86400).toNat = (f.hour * 60 + f.minute) * 60 + f.second

variable {f : Figures} {t : Instant}

/-- The stamp of an instant is its figures. -/
theorem Shows.stamp_eq (h : f.Shows t) (mark : Char) (tail : List Char) :
    (dateText t).toList ++ mark :: ((clockText t).toList ++ tail) = f.written mark tail := by
  have hlt := f.year_lt
  have hlt' := f.minute_lt
  have hlt'' := f.second_lt
  have hyear : yearText f.year = padded 4 f.year := by
    rw [yearText, if_neg (by omega), if_neg (by omega)]
    rfl
  have hhour : ((f.hour * 60 + f.minute) * 60 + f.second) / 3600 = f.hour := by omega
  have hminute : ((f.hour * 60 + f.minute) * 60 + f.second) / 60 % 60 = f.minute := by omega
  have hsecond : ((f.hour * 60 + f.minute) * 60 + f.second) % 60 = f.second := by omega
  have hdash : "-".toList = ['-'] := rfl
  have hcolon : ":".toList = [':'] := rfl
  simp only [dateText, clockText, written, h.date, h.clock, hyear, hhour, hminute, hsecond, hdash,
    hcolon, String.toList_append, List.append_assoc, List.cons_append, List.nil_append]

/-- The figures of an instant lead back to it. -/
theorem Shows.millis_eq (h : f.Shows t) (shift : Int) :
    f.millis (t.millis % 1000).toNat shift = t.millis - shift * 60000 := by
  have hyear : (dateOfDay (t.seconds / 86400)).year = f.year := by rw [h.date]
  have hday := (epochDay_dateOfDay hyear).1
  have hclock := h.clock
  rw [h.date] at hday
  rw [millis, hday]
  unfold Instant.seconds at hclock ⊢
  omega

/-- An instant in a year of four digits has its figures. -/
theorem exists_shows (hyear : HasPlainYear (t.seconds / 86400)) : ∃ f : Figures, f.Shows t := by
  obtain ⟨y, hlt, hy⟩ := hyear
  obtain ⟨second, hsecond⟩ : ∃ n, (t.seconds % 86400).toNat = n := ⟨_, rfl⟩
  have hhour : second / 3600 < 24 := by omega
  have hminute : second / 60 % 60 < 60 := by omega
  refine ⟨⟨y, _, _, second / 3600, second / 60 % 60, second % 60, (epochDay_dateOfDay hy).2, hlt,
    hhour, hminute, Nat.mod_lt second (by decide)⟩, ?_, ?_⟩
  · rw [← hy]
  · show _ = (second / 3600 * 60 + second / 60 % 60) * 60 + second % 60
    omega

/-- All figures are those of an instant. -/
theorem exists_shown (f : Figures) {ms : Nat} (hms : ms < 1000) :
    ∃ t : Instant, f.Shows t ∧ t.millis % 1000 = ms := by
  have hbounds := epochDay_bounds f.isDate
  have hyear := f.year_lt
  have hhour := f.hour_lt
  have hminute := f.minute_lt
  have hsecond := f.second_lt
  obtain ⟨millis, hmillis⟩ : ∃ m, f.millis ms 0 = m := ⟨_, rfl⟩
  unfold Figures.millis at hmillis
  have hday : millis / 1000 / 86400 = epochDay f.year f.month f.day := by omega
  refine ⟨⟨millis, by omega⟩, ⟨?_, ?_⟩, ?_⟩
  · show dateOfDay (millis / 1000 / 86400) = _
    rw [hday, dateOfDay_epochDay f.isDate]
  · show (millis / 1000 % 86400).toNat = _
    omega
  · show millis % 1000 = _
    omega

end Figures

-- ---------------------------------------------------------------------------
-- Spellings
-- ---------------------------------------------------------------------------

/-- A fraction has less than a second. -/
theorem WritesFraction.lt {ms : Nat} {fraction : List Char} (h : WritesFraction ms fraction) :
    ms < 1000 := by
  cases h with
  | absent => decide
  | @digits ds _ hds =>
    apply Nat.div_lt_of_lt_mul
    exact Nat.mul_lt_mul_of_pos_right (number_lt hds) (by decide)

/-- The minutes of an offset stay below those of a day. -/
theorem WritesOffset.bounds {shift : Int} {offset : List Char} (h : WritesOffset shift offset) :
    -1440 < shift ∧ shift < 1440 := by
  cases h with
  | universal _ => decide
  | ahead _ _ => omega
  | behind _ _ _ => omega

/-- The instants that figures with an offset can stand for all have a date. -/
theorem Figures.millis_bounds (f : Figures) {fraction : Nat} {shift : Int} (hms : fraction < 1000)
    (hshift : -1440 < shift ∧ shift < 1440) :
    -8334601228800000 ≤ f.millis fraction shift ∧ f.millis fraction shift ≤ 8210266876799999 := by
  have hbounds := epochDay_bounds f.isDate
  have hyear := f.year_lt
  have hhour := f.hour_lt
  have hminute := f.minute_lt
  have hsecond := f.second_lt
  unfold Figures.millis
  omega

/-- What spells an instant is figures, with a fraction and an offset behind them. -/
theorem spellsPlain_iff {ms : Int} {cs : List Char} :
    SpellsPlain ms cs ↔ ∃ (f : Figures) (n : Nat) (shift : Int) (mark : Char)
      (fraction offset : List Char), (mark = 'T' ∨ mark = 't' ∨ mark = ' ') ∧
      WritesFraction n fraction ∧ WritesOffset shift offset ∧ f.millis n shift = ms ∧
      f.written mark (fraction ++ offset) = cs := by
  constructor
  · rintro @⟨shift, mark, fraction, offset, shown, hshown, hyear, hmark, hfraction, hoffset⟩
    obtain ⟨f, hf⟩ := Figures.exists_shows hyear
    refine ⟨f, _, shift, mark, fraction, offset, hmark, hfraction, hoffset, ?_,
      (hf.stamp_eq ..).symm⟩
    rw [hf.millis_eq]
    omega
  · rintro ⟨f, n, shift, mark, fraction, offset, hmark, hfraction, hoffset, rfl, rfl⟩
    obtain ⟨shown, hf, hrest⟩ := f.exists_shown hfraction.lt
    have hmillis := hf.millis_eq shift
    rw [hrest, Int.toNat_natCast] at hmillis
    rw [← hf.stamp_eq]
    refine .mk shown ?_ ⟨f.year, f.year_lt, by rw [hf.date]⟩ hmark ?_ hoffset
    · omega
    · rwa [hrest]

variable {ms : Int} {cs : List Char}

/-- What is spelled is the instant of the number. -/
theorem SpellsPlain.exists_instant (h : SpellsPlain ms cs) :
    ∃ t : Instant, t.millis = ms ∧ Instant.ofMillis? ms = some t ∧
      instantOfRfc3339? cs = some t := by
  obtain ⟨f, n, shift, mark, fraction, offset, hmark, hfraction, hoffset, rfl, rfl⟩ :=
    spellsPlain_iff.mp h
  have hread := readRfc3339_written f hmark (readFraction_append hfraction hoffset)
    (readOffset_eq hoffset)
  have hrange := f.millis_bounds hfraction.lt hoffset.bounds
  refine ⟨⟨_, hrange⟩, rfl, dif_pos hrange, ?_⟩
  rw [instantOfRfc3339?, hread]
  exact dif_pos hrange

theorem not_blank_of_isDigit {c : Char} (h : c.isDigit = true) : isBlank c = false := by
  have hbounds := digit_bounds h
  exact Schedule.IsRangeChar.not_blank ⟨by omega, by omega⟩

/-- A name of an instant begins with the digits of its year. -/
theorem SpellsPlain.exists_digits (h : SpellsPlain ms cs) :
    ∃ a b c rest, cs = a :: b :: c :: rest ∧ a.isDigit = true ∧ b.isDigit = true ∧
      c.isDigit = true := by
  obtain ⟨f, -, -, mark, fraction, offset, -, -, -, -, rfl⟩ := spellsPlain_iff.mp h
  have hlength : (padded 4 f.year).toList.length = 4 := length_padded f.year_lt (by decide)
  obtain ⟨a, b, c, rest, hyear, hdigits⟩ :=
    (allDigits_padded 4 f.year).exists_three (by omega)
  rw [Figures.written, hyear]
  exact ⟨a, b, c, _, rfl, hdigits⟩

/-- An offset's clock does not end with a blank. -/
theorem exists_offsetClock_end (hours : Nat) {minutes : Nat} (hminutes : minutes < 60) :
    ∃ front c, offsetClock hours minutes = front ++ [c] ∧ isBlank c = false := by
  have hlength : (padded 2 minutes).toList.length = 2 := length_padded (by omega) (by decide)
  have hne : (padded 2 minutes).toList ≠ [] := List.ne_nil_of_length_pos (by omega)
  have hlast := List.dropLast_concat_getLast hne
  refine ⟨(padded 2 hours).toList ++ ':' :: (padded 2 minutes).toList.dropLast, _, ?_,
    not_blank_of_isDigit (allDigits_padded 2 minutes _ (List.getLast_mem hne))⟩
  rw [List.append_assoc, List.cons_append, hlast, offsetClock]

/-- An offset ends in a letter or a digit. -/
theorem WritesOffset.exists_end {shift : Int} {offset : List Char} (h : WritesOffset shift offset) :
    ∃ front c, offset = front ++ [c] ∧ isBlank c = false := by
  cases h with
  | universal hc => rcases hc with rfl | rfl <;> exact ⟨[], _, rfl, by decide⟩
  | @ahead hours minutes _ hminutes =>
    obtain ⟨front, c, hend, hblank⟩ := exists_offsetClock_end hours hminutes
    exact ⟨'+' :: front, c, by rw [hend, List.cons_append], hblank⟩
  | @behind hours minutes sign _ _ hminutes =>
    obtain ⟨front, c, hend, hblank⟩ := exists_offsetClock_end hours hminutes
    exact ⟨sign :: front, c, by rw [hend, List.cons_append], hblank⟩

/-- Nothing is cut off at the ends of a name. -/
theorem SpellsPlain.trim_eq (h : SpellsPlain ms cs) : trim cs = cs := by
  obtain ⟨a, b, c, rest, hcs, ha, -, -⟩ := h.exists_digits
  have hstart : trimStart cs = cs := by
    rw [hcs]
    exact trimStart_append_cons (not_blank_of_isDigit ha) [] _
  obtain @⟨shift, mark, fraction, offset, shown, hshown, hyear, hmark, hfraction, hoffset⟩ := h
  obtain ⟨front, last, rfl, hlast⟩ := hoffset.exists_end
  have hend := trimEnd_append_cons hlast
    ((dateText shown).toList ++ mark :: ((clockText shown).toList ++ (fraction ++ front))) []
  rw [trim, hstart]
  simpa [trimEnd] using hend

end Calendar

-- ---------------------------------------------------------------------------
-- Boundaries
-- ---------------------------------------------------------------------------

namespace Schedule

open Text Calendar

/-- Digits without a colon among the first three begin neither kind of clock. -/
theorem timeOfText?_of_digits {a b c : Char} (ha : a.isDigit = true) (hb : b.isDigit = true)
    (hc : c.isDigit = true) (zone : Zone) (rest : List Char) :
    timeOfText? zone (a :: b :: c :: rest) =
      (instantOfRfc3339? (a :: b :: c :: rest)).bind zone.timeAt? := by
  have hstart : trimStart (a :: b :: c :: rest) = a :: b :: c :: rest :=
    trimStart_append_cons (not_blank_of_isDigit ha) [] _
  have hhour : readClockNumber (a :: b :: c :: rest) = some (number [a, b], c :: rest) := by
    simp [readClockNumber, hstart, readUpTo, leadingDigits, ha, hb]
  have hcolon : expect ':' (c :: rest) = none := if_neg fun heq => by
    rw [heq] at hc
    exact absurd hc (by decide)
  have hshort : timeOfShortClock? (a :: b :: c :: rest) = none := by
    rw [timeOfShortClock?, bind_of_some hhour]
    exact bind_of_none hcolon
  have hlong : timeOfLongClock? (a :: b :: c :: rest) = none := by
    rw [timeOfLongClock?, bind_of_some hhour]
    exact bind_of_none hcolon
  rw [timeOfText?, hshort, hlong]

namespace Boundary

/-- **A text and a number of one instant stand for the same time.** It is the time that the clocks
of the zone show at the instant, whatever offset, fraction, mark and blanks the text has. -/
theorem time?_text_of_spells {ms : Int} {s : String} (h : Spells ms s.toList) (zone : Zone) :
    ∃ t : Instant, t.millis = ms ∧ (text s).time? zone = some (zone.momentAt t).time ∧
      (millis ms).time? zone = some (zone.momentAt t).time := by
  obtain ⟨front, plain, back, hfront, hback, hplain, hs⟩ := h
  obtain ⟨t, hms, hnumber, htext⟩ := hplain.exists_instant
  obtain ⟨a, b, c, rest, hdigits, ha, hb, hc⟩ := hplain.exists_digits
  have htrim : trim s.toList = plain := by
    rw [hs, trim_append_of_blank hfront hback, hplain.trim_eq]
  have hclock := timeOfText?_of_digits ha hb hc zone rest
  rw [← hdigits, htext] at hclock
  refine ⟨t, hms, ?_, ?_⟩
  · rw [time?, htrim, hclock, Option.bind_some, zone.timeAt?_eq]
  · rw [time?, hnumber, Option.bind_some, zone.timeAt?_eq]

/-- The last millisecond before 1970, by a clock that is five and a half hours ahead. -/
theorem time?_text_of_spells_minus_one :
    Spells (-1) "  1970-01-01t05:29:59.99999+05:30 ".toList ∧
      ∃ t : Instant, t.millis = -1 ∧
        (text "  1970-01-01t05:29:59.99999+05:30 ").time? Zone.noumea =
          some (Zone.noumea.momentAt t).time ∧
        (millis (-1)).time? Zone.noumea = some (Zone.noumea.momentAt t).time := by
  have hfraction : WritesFraction 999 ['.', '9', '9', '9', '9', '9'] :=
    @WritesFraction.digits ['9', '9', '9', '9', '9'] (by decide) (List.all_eq_true.mp (by decide))
  have hoffset : WritesOffset 330 ('+' :: offsetClock 5 30) :=
    @WritesOffset.ahead 5 30 (by decide) (by decide)
  have hplain : SpellsPlain (-1) _ :=
    .mk ⟨19799999, by decide⟩ (by decide) ⟨1970, by decide, by decide⟩ (.inr (.inl rfl)) hfraction
      hoffset
  have hspells : Spells (-1) "  1970-01-01t05:29:59.99999+05:30 ".toList :=
    ⟨[' ', ' '], _, [' '], List.all_eq_true.mp (by decide), List.all_eq_true.mp (by decide), hplain,
      by decide +kernel⟩
  exact ⟨hspells, time?_text_of_spells hspells Zone.noumea⟩

end Boundary

end Schedule

end OpeningHours
