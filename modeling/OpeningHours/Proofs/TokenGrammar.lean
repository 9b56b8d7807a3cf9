import OpeningHours.Proofs.BlankEdges

/-!
# OpeningHours — the grammar of range tokens

A range token is a part of the text: two clocks of two and two decimal digits, a dash with blanks
around it between them, and no word character directly before or after. This is said of the text and
two places in it, without a word on how tokens are looked for, and tokens may overlap.

The reader of a token takes exactly what the grammar writes. It takes one token at most, so a place
of a text starts at most one, and whether one stands at a place can be decided.

* `WritesToken slice t` — the characters write this token.
* `IsToken hours p`     — a token stands at this place of the text.
* `Alone hours p`       — it overlaps no other token.

## Results

* `readToken_eq_some_iff` — the reader of a token takes what the grammar writes.
* `isToken_iff`           — what is read at a place is what stands there.
* `IsToken.unique`        — a place starts at most one token.
-/

namespace OpeningHours.Schedule

open Text

-- ---------------------------------------------------------------------------
-- The grammar
-- ---------------------------------------------------------------------------

/-- The two digits of a pair, as they are written. -/
def DigitPair.chars (p : DigitPair) : List Char := [p.tens, p.ones]

/-- The digits of a token, in order. -/
def RangeToken.digits (t : RangeToken) : List Char :=
  t.startHour.chars ++ t.startMinute.chars ++ t.stopHour.chars ++ t.stopMinute.chars

/-- A clock, as it is written. -/
def clockOf (hour minute : DigitPair) : List Char := hour.chars ++ ':' :: minute.chars

/-- The characters write a token, with these blanks around its dash. -/
inductive WritesToken : List Char → RangeToken → Prop where
  | mk {t : RangeToken} {before after : List Char}
      (hdigits : ∀ c ∈ t.digits, Unicode.isDecimalDigit c = true)
      (hbefore : AllBlank before) (hafter : AllBlank after) :
      WritesToken (clockOf t.startHour t.startMinute ++
        (before ++ '-' :: (after ++ clockOf t.stopHour t.stopMinute))) t

/-- A token with the place where it starts and the place behind it. -/
structure Placed where
  start : Nat
  stop : Nat
  token : RangeToken
deriving DecidableEq

/-- A token stands at this place of the text, with no word character directly before or after. -/
def IsToken (hours : List Char) (p : Placed) : Prop :=
  ∃ front slice back, hours = front ++ (slice ++ back) ∧ p.start = front.length ∧
    p.stop = front.length + slice.length ∧ WritesToken slice p.token ∧
    (∀ c ∈ front.getLast?, isWord c = false) ∧ (∀ c ∈ back.head?, isWord c = false)

/-- Two tokens have a place in common. -/
def Placed.Overlaps (p q : Placed) : Prop := p.start < q.stop ∧ q.start < p.stop

/-- The token overlaps no other token of the text. -/
def Alone (hours : List Char) (p : Placed) : Prop :=
  ∀ q, IsToken hours q → q.Overlaps p → q = p

-- ---------------------------------------------------------------------------
-- Reading a token
-- ---------------------------------------------------------------------------

/-- A pair is read exactly where two decimal digits stand. -/
theorem readPair_eq_some_iff {cs rest : List Char} {p : DigitPair} :
    readPair cs = some (p, rest) ↔
      cs = p.chars ++ rest ∧ ∀ c ∈ p.chars, Unicode.isDecimalDigit c = true := by
  match cs with
  | a :: b :: cs =>
    obtain ⟨tens, ones⟩ := p
    simp only [readPair, DigitPair.chars, List.cons_append, List.nil_append, List.cons.injEq,
      List.forall_mem_cons, List.not_mem_nil, false_imp_iff, implies_true, and_true]
    constructor
    · intro h
      split at h
      · rename_i hdigits
        obtain ⟨⟨rfl, rfl⟩, rfl⟩ := by simpa using h
        exact ⟨⟨rfl, rfl, rfl⟩, hdigits⟩
      · simp at h
    · rintro ⟨⟨rfl, rfl, rfl⟩, hdigits⟩
      rw [if_pos hdigits]
  | [a] => simp [readPair, DigitPair.chars]
  | [] => simp [readPair, DigitPair.chars]

theorem expect_eq_some_iff {c : Char} {cs rest : List Char} :
    expect c cs = some rest ↔ cs = c :: rest := by
  cases cs with
  | nil => simp [expect]
  | cons d cs =>
    rw [expect, List.cons.injEq]
    split
    · simp_all
    · simp_all

/-- A clock is read exactly where one is written. -/
theorem readClock_eq_some_iff {cs rest : List Char} {hour minute : DigitPair} :
    readClock cs = some ((hour, minute), rest) ↔ cs = clockOf hour minute ++ rest ∧
      (∀ c ∈ hour.chars, Unicode.isDecimalDigit c = true) ∧
      ∀ c ∈ minute.chars, Unicode.isDecimalDigit c = true := by
  rw [readClock]
  constructor
  · intro h
    obtain ⟨⟨hour', behindHour⟩, hreadHour, h⟩ := Option.bind_eq_some_iff.mp h
    obtain ⟨behindColon, hcolon, h⟩ := Option.bind_eq_some_iff.mp h
    obtain ⟨⟨minute', rest'⟩, hreadMinute, h⟩ := Option.bind_eq_some_iff.mp h
    obtain ⟨⟨rfl, rfl⟩, rfl⟩ := by simpa using h
    obtain ⟨rfl, hhour⟩ := readPair_eq_some_iff.mp hreadHour
    obtain rfl := expect_eq_some_iff.mp hcolon
    obtain ⟨rfl, hminute⟩ := readPair_eq_some_iff.mp hreadMinute
    refine ⟨?_, hhour, hminute⟩
    rw [clockOf, List.append_assoc, List.cons_append]
  · rintro ⟨rfl, hhour, hminute⟩
    rw [clockOf, List.append_assoc, readPair_eq_some_iff.mpr ⟨rfl, hhour⟩]
    simp only [Option.bind_eq_bind, Option.bind_some, List.cons_append]
    rw [expect_eq_some_iff.mpr rfl, Option.bind_some, readPair_eq_some_iff.mpr ⟨rfl, hminute⟩]
    rfl

/-- Blanks in front of a character that is none are passed over. -/
theorem trimStart_blanks {blanks : List Char} (h : AllBlank blanks) {c : Char}
    (hc : isBlank c = false) (cs : List Char) : trimStart (blanks ++ c :: cs) = c :: cs := by
  rw [trimStart_append_cons hc, trimStart_eq_nil_iff.mpr h, List.nil_append]

theorem exists_blanks (cs : List Char) : ∃ blanks, AllBlank blanks ∧ cs = blanks ++ trimStart cs :=
  ⟨cs.takeWhile isBlank, List.all_eq_true.mp List.all_takeWhile,
    List.takeWhile_append_dropWhile.symm⟩

/-- A clock starts with a digit, so no blank in front of it is part of it. -/
theorem trimStart_clockOf {blanks : List Char} (h : AllBlank blanks) {hour minute : DigitPair}
    (hdigits : ∀ c ∈ hour.chars, Unicode.isDecimalDigit c = true) (cs : List Char) :
    trimStart (blanks ++ (clockOf hour minute ++ cs)) = clockOf hour minute ++ cs := by
  have hblank : isBlank hour.tens = false := by
    cases hb : isBlank hour.tens with
    | false => rfl
    | true =>
      have hdigit := hdigits hour.tens (List.mem_cons_self ..)
      simp [isDecimalDigit_of_isBlank hb] at hdigit
  exact trimStart_blanks h hblank _

/-- The reader of a token takes what the grammar writes, if no word goes on behind it. -/
theorem readToken_eq_some_iff {cs rest : List Char} {t : RangeToken} :
    readToken cs = some (t, rest) ↔
      (∃ slice, cs = slice ++ rest ∧ WritesToken slice t) ∧ startsInWord rest = false := by
  rw [readToken]
  constructor
  · intro h
    obtain ⟨⟨⟨startHour, startMinute⟩, behindStart⟩, hstart, h⟩ := Option.bind_eq_some_iff.mp h
    obtain ⟨behindDash, hdash, h⟩ := Option.bind_eq_some_iff.mp h
    obtain ⟨⟨⟨stopHour, stopMinute⟩, behindStop⟩, hstop, h⟩ := Option.bind_eq_some_iff.mp h
    dsimp only at h
    split at h
    · simp at h
    · rename_i hfree
      obtain ⟨rfl, rfl⟩ := by simpa using h
      obtain ⟨rfl, hstartHour, hstartMinute⟩ := readClock_eq_some_iff.mp hstart
      obtain ⟨hstop, hstopHour, hstopMinute⟩ := readClock_eq_some_iff.mp hstop
      obtain ⟨before, hbefore, heq⟩ := exists_blanks behindStart
      obtain ⟨after, hafter, heq'⟩ := exists_blanks behindDash
      rw [expect_eq_some_iff.mp hdash] at heq
      rw [hstop] at heq'
      refine ⟨⟨_, ?_, .mk ?_ hbefore hafter⟩, by simpa using hfree⟩
      · simp only [heq, heq', List.append_assoc, List.cons_append]
      · simp only [RangeToken.digits, List.forall_mem_append]
        exact ⟨⟨⟨hstartHour, hstartMinute⟩, hstopHour⟩, hstopMinute⟩
  · rintro ⟨⟨slice, rfl, hwrites⟩, hfree⟩
    obtain ⟨hdigits, hbefore, hafter⟩ := hwrites
    simp only [RangeToken.digits, List.forall_mem_append] at hdigits
    obtain ⟨⟨⟨hstartHour, hstartMinute⟩, hstopHour⟩, hstopMinute⟩ := hdigits
    rw [List.append_assoc, readClock_eq_some_iff.mpr ⟨rfl, hstartHour, hstartMinute⟩]
    have hdash : isBlank '-' = false := by decide
    simp only [Option.bind_eq_bind, Option.bind_some, List.append_assoc, List.cons_append,
      trimStart_blanks hbefore hdash, expect_eq_some_iff.mpr rfl,
      trimStart_clockOf hafter hstopHour]
    rw [readClock_eq_some_iff.mpr ⟨rfl, hstopHour, hstopMinute⟩, Option.bind_some, hfree]
    rfl

-- ---------------------------------------------------------------------------
-- Tokens at a place
-- ---------------------------------------------------------------------------

/-- Two clocks and a dash are eleven characters, without the blanks. -/
theorem WritesToken.le_length {slice : List Char} {t : RangeToken} (h : WritesToken slice t) :
    11 ≤ slice.length := by
  cases h
  simp only [clockOf, DigitPair.chars, List.length_append, List.length_cons, List.length_nil]
  omega

/-- A token is not empty. -/
theorem IsToken.start_lt_stop {hours : List Char} {p : Placed} (h : IsToken hours p) :
    p.start < p.stop := by
  obtain ⟨front, slice, back, -, hstart, hstop, hwrites, -, -⟩ := h
  have := hwrites.le_length
  omega

/-- A token ends within the text. -/
theorem IsToken.stop_le_length {hours : List Char} {p : Placed} (h : IsToken hours p) :
    p.stop ≤ hours.length := by
  obtain ⟨front, slice, back, rfl, -, hstop, -, -, -⟩ := h
  simp only [List.length_append]
  omega

/-- A text ends in a word if its last character is one of a word. -/
theorem endsInWord_eq_getD (before : Bool) (cs : List Char) :
    endsInWord before cs = (cs.getLast?.map isWord).getD before := by
  induction cs generalizing before with
  | nil => rfl
  | cons c cs ih =>
    rw [endsInWord, ih, List.getLast?_cons]
    cases cs.getLast? <;> rfl

theorem endsInWord_concat (before : Bool) (front : List Char) (c : Char) :
    endsInWord before (front ++ [c]) = isWord c := by
  rw [endsInWord_eq_getD, List.getLast?_concat]
  rfl

theorem endsInWord_eq_false_iff {front : List Char} :
    endsInWord false front = false ↔ ∀ c ∈ front.getLast?, isWord c = false := by
  rw [endsInWord_eq_getD]
  cases front.getLast? <;> simp

theorem startsInWord_eq_false_iff {back : List Char} :
    startsInWord back = false ↔ ∀ c ∈ back.head?, isWord c = false := by
  cases back <;> simp [startsInWord]

/-- The token that starts at a place of the text, if one does. -/
def tokenAt? (hours : List Char) (n : Nat) : Option Placed :=
  if endsInWord false (hours.take n) then none
  else (readToken (hours.drop n)).map fun (token, rest) =>
    ⟨n, hours.length - rest.length, token⟩

theorem start_of_tokenAt? {hours : List Char} {n : Nat} {p : Placed}
    (h : tokenAt? hours n = some p) : p.start = n := by
  rw [tokenAt?] at h
  split at h
  · simp at h
  · obtain ⟨_, -, rfl⟩ := Option.map_eq_some_iff.mp h
    rfl

/-- What is read at a place is what stands there. -/
theorem isToken_iff {hours : List Char} {p : Placed} :
    IsToken hours p ↔ tokenAt? hours p.start = some p := by
  obtain ⟨start, stop, token⟩ := p
  constructor
  · rintro ⟨front, slice, back, rfl, rfl, rfl, hwrites, hfront, hback⟩
    have hread : readToken (slice ++ back) = some (token, back) :=
      readToken_eq_some_iff.mpr ⟨⟨slice, rfl, hwrites⟩, startsInWord_eq_false_iff.mpr hback⟩
    have hstop : (front ++ (slice ++ back)).length - back.length = front.length + slice.length := by
      simp only [List.length_append]
      omega
    rw [tokenAt?, List.take_left, List.drop_left, endsInWord_eq_false_iff.mpr hfront, hread]
    simp only [Bool.false_eq_true, if_false, Option.map_some, hstop]
  · intro h
    rw [tokenAt?] at h
    split at h
    · simp at h
    · rename_i hfree
      obtain ⟨⟨token', back⟩, hread, heq⟩ := Option.map_eq_some_iff.mp h
      obtain ⟨rfl, rfl⟩ := by simpa using heq
      obtain ⟨⟨slice, hslice, hwrites⟩, hback⟩ := readToken_eq_some_iff.mp hread
      -- something is left of the text behind the place, so the place is one of the text
      have hlen := congrArg List.length hslice
      have hpos := hwrites.le_length
      simp only [List.length_drop, List.length_append] at hlen
      have htake : (hours.take start).length = start := by
        rw [List.length_take]
        omega
      refine ⟨hours.take start, slice, back, ?_, htake.symm, ?_, hwrites,
        endsInWord_eq_false_iff.mp (by simpa using hfree), startsInWord_eq_false_iff.mp hback⟩
      · rw [← hslice, List.take_append_drop]
      · show hours.length - back.length = _
        omega

/-- A place starts at most one token. -/
theorem IsToken.unique {hours : List Char} {p q : Placed} (hp : IsToken hours p)
    (hq : IsToken hours q) (h : p.start = q.start) : p = q := by
  rw [isToken_iff] at hp hq
  rw [h, hq] at hp
  exact (Option.some.inj hp).symm

instance (hours : List Char) (p : Placed) : Decidable (IsToken hours p) :=
  decidable_of_iff _ isToken_iff.symm

instance (p q : Placed) : Decidable (p.Overlaps q) :=
  inferInstanceAs (Decidable (_ ∧ _))

/-- A token is alone exactly if no place has another one that overlaps it. -/
theorem alone_iff {hours : List Char} {p : Placed} :
    Alone hours p ↔ ∀ n < hours.length, ∀ q ∈ tokenAt? hours n, q.Overlaps p → q = p := by
  constructor
  · intro h n _ q hq
    obtain rfl := start_of_tokenAt? hq
    exact h q (isToken_iff.mpr hq)
  · intro h q hq
    have hlt := hq.start_lt_stop
    have hle := hq.stop_le_length
    exact h q.start (by omega) q (isToken_iff.mp hq)

instance (hours : List Char) (p : Placed) : Decidable (Alone hours p) :=
  decidable_of_iff _ alone_iff.symm

end OpeningHours.Schedule
