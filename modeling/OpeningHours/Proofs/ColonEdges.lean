import OpeningHours.Proofs.PickedTokens

/-!
# OpeningHours — colons beside a range

A token ends where no word goes on, and a colon is no part of a word. So a token may begin behind a
colon and end in front of one. Its own clocks have a colon inside, which leaves two digits between
two colons: where no text of this kind occurs, no range is reported beside a colon.

Clocks with seconds are such texts. Between two of them the scan does not pass over the whole but
reads the minute and the second of the first as a clock, and the hour and the minute of the second.

* `BesideColon hours p` — a colon stands directly before or after the token.
* `HasMiddlePair hours` — two digits stand between two colons.
* `SecondsRange`        — two clocks that are written with their seconds.

## Results

* `spans_secondsText`   — what is read of hours that are written with seconds.
* `colons_beside_range` — where a colon stands beside a reported range, and what is then reported.
* `range_inside_clocks` — a range is reported out of the middle of two clocks with seconds.
-/

namespace OpeningHours.Schedule

open Text

/-- A range is reported for this token: it is picked, and it counts. -/
def Reported (hours : List Char) (p : Placed) : Prop :=
  ∃ picked, Picks hours 0 picked ∧ p ∈ possibleOf picked

/-- A colon stands directly before the token or directly after it. -/
def BesideColon (hours : List Char) (p : Placed) : Prop :=
  (∃ n, n + 1 = p.start ∧ hours[n]? = some ':') ∨ hours[p.stop]? = some ':'

/-- Two digits stand between two colons, as the minute of a clock with seconds does. -/
def HasMiddlePair (hours : List Char) : Prop :=
  ∃ front back, ∃ p : DigitPair, (∀ c ∈ p.chars, Unicode.isDecimalDigit c = true) ∧
    hours = front ++ ':' :: (p.chars ++ ':' :: back)

-- ---------------------------------------------------------------------------
-- Reported tokens
-- ---------------------------------------------------------------------------

theorem Reported.isToken {hours : List Char} {p : Placed} (h : Reported hours p) :
    IsToken hours p := by
  obtain ⟨picked, hpicks, hp⟩ := h
  exact hpicks.isToken p (List.mem_of_mem_filter hp)

/-- A possible token that no other one touches is reported. -/
theorem reported_of_alone {hours : List Char} {p : Placed} (hp : IsToken hours p)
    (hpossible : p.token.Possible) (halone : Alone hours p) : Reported hours p := by
  obtain ⟨picked, hpicks, -⟩ := exists_picks [] hours 0
  have hmem := hpicks.mem_of_alone hp (Nat.zero_le _) halone
  exact ⟨picked, hpicks, List.mem_filter.mpr ⟨hmem, by simpa using hpossible⟩⟩

-- ---------------------------------------------------------------------------
-- Colons
-- ---------------------------------------------------------------------------

/-- Such hours have two colons at a distance of three. -/
theorem HasMiddlePair.exists_colons {hours : List Char} (h : HasMiddlePair hours) :
    ∃ n < hours.length, hours[n]? = some ':' ∧ hours[n + 3]? = some ':' := by
  obtain ⟨front, back, p, -, rfl⟩ := h
  exact ⟨front.length, by simp, by simp, by simp [DigitPair.chars]⟩

/-- A token starts with two digits in front of a colon. -/
theorem WritesToken.exists_behind {slice : List Char} {t : RangeToken} (h : WritesToken slice t) :
    ∃ p : DigitPair, (∀ c ∈ p.chars, Unicode.isDecimalDigit c = true) ∧
      ∃ cs, slice = p.chars ++ ':' :: cs := by
  obtain ⟨hdigits, -, -⟩ := h
  simp only [RangeToken.digits, List.forall_mem_append] at hdigits
  exact ⟨t.startHour, hdigits.1.1.1, _, List.append_assoc _ _ _⟩

/-- A token ends with two digits behind a colon. -/
theorem WritesToken.exists_front {slice : List Char} {t : RangeToken} (h : WritesToken slice t) :
    ∃ p : DigitPair, (∀ c ∈ p.chars, Unicode.isDecimalDigit c = true) ∧
      ∃ cs, slice = cs ++ ':' :: p.chars := by
  obtain ⟨hdigits, -, -⟩ := h
  rename_i before after
  simp only [RangeToken.digits, List.forall_mem_append] at hdigits
  refine ⟨t.stopMinute, hdigits.2, clockOf t.startHour t.startMinute ++
    (before ++ '-' :: (after ++ t.stopHour.chars)), ?_⟩
  simp only [clockOf, List.append_assoc, List.cons_append]

/-- With a colon beside it, a token has two of its digits between two colons. -/
theorem IsToken.hasMiddlePair {hours : List Char} {p : Placed} (h : IsToken hours p)
    (hbeside : BesideColon hours p) : HasMiddlePair hours := by
  obtain ⟨front, slice, back, rfl, hstart, hstop, hwrites, -, -⟩ := h
  rcases hbeside with ⟨n, hn, hcolon⟩ | hcolon
  · -- the colon ends the text in front, and the first hour stands between it and its own colon
    have hlast : front.getLast? = some ':' := by
      rw [List.getElem?_append_left (by omega)] at hcolon
      rw [List.getLast?_eq_getElem?, ← hcolon]
      congr 1
      omega
    obtain ⟨front', rfl⟩ := List.getLast?_eq_some_iff.mp hlast
    obtain ⟨hour, hdigits, cs, rfl⟩ := hwrites.exists_behind
    exact ⟨front', cs ++ back, hour, hdigits, by simp⟩
  · -- the colon starts the text behind, and the last minute stands between its own colon and it
    rw [hstop, List.getElem?_append_right (Nat.le_add_right ..), Nat.add_sub_cancel_left,
      List.getElem?_append_right (Nat.le_refl _), Nat.sub_self, ← List.head?_eq_getElem?] at hcolon
    obtain ⟨back', rfl⟩ := List.head?_eq_some_iff.mp hcolon
    obtain ⟨minute, hdigits, cs, rfl⟩ := hwrites.exists_front
    exact ⟨front ++ cs, back', minute, hdigits, by simp⟩

-- ---------------------------------------------------------------------------
-- Clocks with seconds
-- ---------------------------------------------------------------------------

/-- A clock that is written with its second. -/
structure SecondsClock where
  time : TimeOfDay
  second : Fin 60

/-- The clock in digits, such as `08:00:00`. -/
def SecondsClock.text (c : SecondsClock) : List Char :=
  c.time.clockText ++ ':' :: TimeOfDay.twoDigits c.second

/-- Two clocks with seconds, with a dash between them. -/
structure SecondsRange where
  start : SecondsClock
  stop : SecondsClock

/-- The clocks in digits, such as `08:00:00-12:00:00`. -/
def SecondsRange.text (r : SecondsRange) : List Char :=
  r.start.text ++ '-' :: r.stop.text

/-- The span that is read across the dash: it starts at the minute and second of the first clock,
taken for an hour and a minute, and stops at the hour and minute of the other. -/
def SecondsRange.across? (r : SecondsRange) : Option Span := do
  Span.between? (← TimeOfDay.ofClock? r.start.time.minute r.start.second) r.stop.time

/-- The token that is read across the dash. -/
def SecondsRange.token (r : SecondsRange) : RangeToken :=
  ⟨pairOf r.start.time.minute, pairOf r.start.second, pairOf r.stop.time.hour,
    pairOf r.stop.time.minute⟩

/-- What is read across the dash, in characters. -/
def SecondsRange.middle (r : SecondsRange) : List Char :=
  clockOf r.token.startHour r.token.startMinute ++
    '-' :: clockOf r.token.stopHour r.token.stopMinute

/-- The token in the middle of a range with seconds stands for the range across. -/
theorem span?_token (r : SecondsRange) : r.token.span? = r.across? := by
  have := r.start.time.minute_lt
  have := r.start.second.isLt
  have := r.stop.time.hour_lt
  have := r.stop.time.minute_lt
  simp only [RangeToken.span?, SecondsRange.token]
  rw [value?_pairOf (by omega), value?_pairOf (by omega), value?_pairOf (by omega),
    value?_pairOf (by omega)]
  simp [SecondsRange.across?]

theorem isDecimalDigit_pairOf {n : Nat} (h : n < 60) :
    ∀ c ∈ (pairOf n).chars, Unicode.isDecimalDigit c = true := by
  have htens := isDecimalDigit_digitChar (n / 10) (by omega)
  have hones := isDecimalDigit_digitChar (n % 10) (by omega)
  exact List.forall_mem_cons.mpr ⟨htens, List.forall_mem_singleton.mpr hones⟩

theorem SecondsClock.isDecimalDigit_hour (c : SecondsClock) :
    ∀ d ∈ (pairOf c.time.hour).chars, Unicode.isDecimalDigit d = true :=
  isDecimalDigit_pairOf (Nat.lt_trans c.time.hour_lt (by decide))

theorem SecondsClock.isDecimalDigit_minute (c : SecondsClock) :
    ∀ d ∈ (pairOf c.time.minute).chars, Unicode.isDecimalDigit d = true :=
  isDecimalDigit_pairOf c.time.minute_lt

/-- The middle of a range with seconds writes a token. -/
theorem SecondsRange.writes_middle (r : SecondsRange) : WritesToken r.middle r.token := by
  have hblank : AllBlank [] := List.forall_mem_nil _
  refine WritesToken.mk (t := r.token) ?_ hblank hblank
  simp only [RangeToken.digits, List.forall_mem_append]
  exact ⟨⟨⟨r.start.isDecimalDigit_minute, isDecimalDigit_pairOf r.start.second.isLt⟩,
    r.stop.isDecimalDigit_hour⟩, r.stop.isDecimalDigit_minute⟩

/-- What is read across the dash stands between the hour of the first clock and the second of the
other, each with a colon of its own. -/
theorem SecondsRange.text_append (r : SecondsRange) (rest : List Char) :
    r.text ++ rest = (pairOf r.start.time.hour).chars ++
      ':' :: (r.middle ++ ':' :: ((pairOf r.stop.second).chars ++ rest)) := by
  have hpair : ∀ n, TimeOfDay.twoDigits n = (pairOf n).chars := fun _ => rfl
  simp only [SecondsRange.text, SecondsClock.text, TimeOfDay.clockText, SecondsRange.middle,
    SecondsRange.token, clockOf, hpair, List.append_assoc, List.cons_append]

-- ---------------------------------------------------------------------------
-- The scan of clocks with seconds
-- ---------------------------------------------------------------------------

/-- A token ends in a digit, and so in a word. -/
theorem WritesToken.endsInWord {slice : List Char} {t : RangeToken} (h : WritesToken slice t)
    (before : Bool) : endsInWord before slice = true := by
  obtain ⟨p, hdigits, cs, rfl⟩ := h.exists_front
  have hlast : cs ++ ':' :: p.chars = cs ++ [':', p.tens] ++ [p.ones] := by
    simp [DigitPair.chars]
  rw [hlast, endsInWord_concat]
  exact isWord_of_isDecimalDigit (hdigits p.ones (by simp [DigitPair.chars]))

/-- A clock that goes on with a colon starts no token. -/
theorem readToken_of_colon {hour minute : DigitPair}
    (hhour : ∀ c ∈ hour.chars, Unicode.isDecimalDigit c = true)
    (hminute : ∀ c ∈ minute.chars, Unicode.isDecimalDigit c = true) (cs : List Char) :
    readToken (clockOf hour minute ++ ':' :: cs) = none := by
  have hcolon : trimStart (':' :: cs) = ':' :: cs := rfl
  rw [readToken, readClock_eq_some_iff.mpr ⟨rfl, hhour, hminute⟩]
  simp [hcolon, expect]

/-- Two digits with no colon behind them start no token. -/
theorem readToken_of_not_colon {p : DigitPair} {rest : List Char}
    (h : ∀ c ∈ rest.head?, c ≠ ':') : readToken (p.chars ++ rest) = none := by
  cases hread : readToken (p.chars ++ rest) with
  | none => rfl
  | some found =>
    obtain ⟨⟨slice, heq, hwrites⟩, -⟩ := readToken_eq_some_iff.mp hread
    obtain ⟨q, -, cs, rfl⟩ := hwrites.exists_behind
    rw [List.append_assoc] at heq
    obtain ⟨-, rfl⟩ := List.append_inj heq rfl
    exact absurd rfl (h ':' rfl)

/-- Inside a word no token starts. -/
theorem tokensFrom_of_word (c : Char) (cs : List Char) :
    tokensFrom true 0 (c :: cs) = tokensFrom (isWord c) 0 cs := by
  rw [tokensFrom]
  rfl

/-- Behind a colon a word may start. -/
theorem tokensFrom_colon (before : Bool) (cs : List Char) :
    tokensFrom before 0 (':' :: cs) = tokensFrom false 0 cs := by
  have hdigit : Unicode.isDecimalDigit ':' = false := by decide
  have hword : isWord ':' = false := by decide
  rw [tokensFrom_of_readToken_none (readToken_of_not_digit hdigit _), hword]

/-- Two digits are passed over if no token starts with them. -/
theorem tokensFrom_pair {p : DigitPair} (h : ∀ c ∈ p.chars, Unicode.isDecimalDigit c = true)
    {cs : List Char} (hnone : readToken (p.chars ++ cs) = none) :
    tokensFrom false 0 (p.chars ++ cs) = tokensFrom true 0 cs := by
  have htens := isWord_of_isDecimalDigit (h p.tens (by simp [DigitPair.chars]))
  have hones := isWord_of_isDecimalDigit (h p.ones (by simp [DigitPair.chars]))
  simp only [DigitPair.chars, List.cons_append, List.nil_append] at hnone ⊢
  rw [tokensFrom_of_readToken_none hnone, htens, tokensFrom_of_word, hones]

/-- Of two clocks with seconds one token is read, which starts behind the colon of the first hour
and ends in front of the colon of the last second. -/
theorem tokensFrom_text (r : SecondsRange) {rest : List Char} (h : ∀ c ∈ rest.head?, c ≠ ':') :
    tokensFrom false 0 (r.text ++ rest) = r.token :: tokensFrom true 0 rest := by
  have hcolon : isWord ':' = false := by decide
  have hne : r.middle ≠ [] := by simp [SecondsRange.middle, clockOf]
  have hfirst : readToken (r.text ++ rest) = none := by
    rw [SecondsRange.text, SecondsClock.text, List.append_assoc, List.append_assoc]
    exact readToken_of_colon r.start.isDecimalDigit_hour r.start.isDecimalDigit_minute _
  have hmiddle : ∀ cs, readToken (r.middle ++ ':' :: cs) = some (r.token, ':' :: cs) := fun cs =>
    readToken_eq_some_iff.mpr ⟨⟨_, rfl, r.writes_middle⟩, startsInWord_of_not_word hcolon cs⟩
  rw [r.text_append] at hfirst ⊢
  rw [tokensFrom_pair r.start.isDecimalDigit_hour hfirst, tokensFrom_colon,
    tokensFrom_of_readToken hne (hmiddle _), r.writes_middle.endsInWord, tokensFrom_colon,
    tokensFrom_pair (isDecimalDigit_pairOf r.stop.second.isLt) (readToken_of_not_colon h)]

/-- The hours that are written with seconds, with slashes between them. -/
def secondsText (ranges : List SecondsRange) : List Char :=
  join rangeSeparator.toList (ranges.map SecondsRange.text)

/-- Of hours with seconds those spans are read that lie across a dash. -/
theorem spans_secondsText (ranges : List SecondsRange) :
    spans (secondsText ranges) = ranges.filterMap SecondsRange.across? := by
  have htokens : tokens (secondsText ranges) = ranges.map SecondsRange.token := by
    refine tokensFrom_join ?_ ranges
    intro r rest hrest
    refine tokensFrom_text r ?_
    intro c hc
    rw [hrest c hc]
    decide
  have hspan : RangeToken.span? ∘ SecondsRange.token = SecondsRange.across? := funext span?_token
  rw [spans, htokens, List.filterMap_map, hspan]

/-- **Colons beside a range.** Where no two digits stand between two colons, no range is reported
that a colon stands beside. Of hours that are written with seconds, each two clocks give the range
from the minute and second of the first to the hour and minute of the other, if there is one. -/
theorem colons_beside_range (hours : List Char) :
    (¬ HasMiddlePair hours → ∀ p, Reported hours p → ¬ BesideColon hours p) ∧
    ∀ ranges, hours = secondsText ranges →
      spans hours = ranges.filterMap SecondsRange.across? := by
  constructor
  · intro hno p hreported hbeside
    exact hno (hreported.isToken.hasMiddlePair hbeside)
  · rintro ranges rfl
    exact spans_secondsText ranges

/-- Hours behind a label and a colon, which does not stand beside them, and two clocks with seconds
between which nothing is read. -/
theorem colons_beside_range_labelled :
    (¬ HasMiddlePair "matin : 08:00-12:00".toList ∧
      Reported "matin : 08:00-12:00".toList
        ⟨8, 19, ⟨⟨'0', '8'⟩, ⟨'0', '0'⟩, ⟨'1', '2'⟩, ⟨'0', '0'⟩⟩⟩ ∧
      ¬ BesideColon "matin : 08:00-12:00".toList
        ⟨8, 19, ⟨⟨'0', '8'⟩, ⟨'0', '0'⟩, ⟨'1', '2'⟩, ⟨'0', '0'⟩⟩⟩) ∧
    spans "08:30:00-12:00:00".toList = [] := by
  have hno : ¬ HasMiddlePair "matin : 08:00-12:00".toList := fun h =>
    absurd h.exists_colons (by decide)
  have hreported : Reported "matin : 08:00-12:00".toList
      ⟨8, 19, ⟨⟨'0', '8'⟩, ⟨'0', '0'⟩, ⟨'1', '2'⟩, ⟨'0', '0'⟩⟩⟩ :=
    reported_of_alone (by decide) (by decide) (by decide)
  have hnothing : spans "08:30:00-12:00:00".toList =
      [⟨⟨⟨510, by decide⟩, 0⟩, ⟨⟨720, by decide⟩, 0⟩⟩].filterMap SecondsRange.across? :=
    (colons_beside_range _).2 _ (by decide)
  exact ⟨⟨hno, hreported, (colons_beside_range _).1 hno _ hreported⟩, hnothing⟩

/-- A range is reported out of the middle of two clocks with seconds, from the minute of the
first. -/
theorem range_inside_clocks :
    Reported "08:00:00-12:00:00".toList
      ⟨3, 14, ⟨⟨'0', '0'⟩, ⟨'0', '0'⟩, ⟨'1', '2'⟩, ⟨'0', '0'⟩⟩⟩ ∧
    BesideColon "08:00:00-12:00:00".toList
      ⟨3, 14, ⟨⟨'0', '0'⟩, ⟨'0', '0'⟩, ⟨'1', '2'⟩, ⟨'0', '0'⟩⟩⟩ ∧
    (spans "08:00:00-12:00:00".toList).map (fun s => (s.start.minutes, s.stop.minutes)) =
      [(0, 720)] :=
  ⟨reported_of_alone (by decide) (by decide) (by decide), .inr rfl, by decide⟩

end OpeningHours.Schedule
