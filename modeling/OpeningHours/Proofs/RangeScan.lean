import OpeningHours.Schedule.Notation

/-!
# OpeningHours — scanning written ranges

Ranges are written as two clocks with a dash between them and joined by slashes. The scan finds each
of them as one token: the first digit of a range stands behind a blank or a slash and its last digit
in front of a slash or the end, so every range lies between word boundaries, and nothing between two
ranges begins with a digit.

A written clock has two digits for the hour and two for the minute, and they are read back as the
numbers they stand for. So a range stands for a span exactly when its start is the earlier time.

## Results

* `readToken_rangeText` — a written range is read as its token.
* `tokensFrom_skip`     — characters that belong to a token are passed over.
* `tokensFrom_join`     — the tokens of texts joined by slashes, in order.
* `spans_hoursText`     — the spans that written ranges stand for.
-/

namespace OpeningHours.Schedule

-- ---------------------------------------------------------------------------
-- Two digits
-- ---------------------------------------------------------------------------

/-- The digits of a number below 100. -/
def pairOf (n : Nat) : DigitPair := ⟨Nat.digitChar (n / 10), Nat.digitChar (n % 10)⟩

theorem isDigit_digitChar : ∀ n < 10, (Nat.digitChar n).isDigit = true := by decide

theorem isDecimalDigit_digitChar : ∀ n < 10, Unicode.isDecimalDigit (Nat.digitChar n) = true := by
  decide

/-- Two written digits are read back as their number. -/
theorem value?_pairOf {n : Nat} (h : n < 100) : (pairOf n).value? = some n := by
  have htens : n / 10 < 10 := by omega
  have hones : n % 10 < 10 := by omega
  have hdigits := And.intro (isDigit_digitChar _ htens) (isDigit_digitChar _ hones)
  rw [DigitPair.value?, pairOf, if_pos hdigits, Nat.toNat_digitChar_of_lt_ten htens,
    Nat.toNat_digitChar_of_lt_ten hones]
  congr 1
  omega

/-- Two written digits are read. -/
theorem readPair_twoDigits {n : Nat} (h : n < 100) (rest : List Char) :
    readPair (TimeOfDay.twoDigits n ++ rest) = some (pairOf n, rest) := by
  have htens : n / 10 < 10 := by omega
  have hones : n % 10 < 10 := by omega
  have hdigits := And.intro (isDecimalDigit_digitChar _ htens) (isDecimalDigit_digitChar _ hones)
  show (if _ then _ else _) = _
  rw [if_pos hdigits]
  rfl

-- ---------------------------------------------------------------------------
-- Written clocks and ranges
-- ---------------------------------------------------------------------------

/-- The token of a written range. -/
def tokenOf (start stop : TimeOfDay) : RangeToken :=
  ⟨pairOf start.hour, pairOf start.minute, pairOf stop.hour, pairOf stop.minute⟩

/-- A written range stands for the span between its times. -/
theorem span?_tokenOf (start stop : TimeOfDay) :
    (tokenOf start stop).span? = Span.between? start stop := by
  have := start.hour_lt
  have := start.minute_lt
  have := stop.hour_lt
  have := stop.minute_lt
  simp only [RangeToken.span?, tokenOf]
  rw [value?_pairOf (by omega), value?_pairOf (by omega), value?_pairOf (by omega),
    value?_pairOf (by omega)]
  simp

/-- A written clock is read. -/
theorem readClock_clockText (t : TimeOfDay) (rest : List Char) :
    readClock (t.clockText ++ rest) = some ((pairOf t.hour, pairOf t.minute), rest) := by
  have := t.hour_lt
  have := t.minute_lt
  rw [readClock, TimeOfDay.clockText, List.append_assoc, readPair_twoDigits (by omega)]
  simp only [Option.bind_eq_bind, Option.bind_some, List.cons_append, Text.expect, if_true]
  rw [readPair_twoDigits (by omega)]
  rfl

/-- A clock starts with a digit, so there is no blank in front of it to be passed over. -/
theorem trimStart_clockText (t : TimeOfDay) (rest : List Char) :
    Text.trimStart (t.clockText ++ rest) = t.clockText ++ rest := by
  have hblank : ∀ n < 10, Text.isBlank (Nat.digitChar n) = false := by decide
  have := t.hour_lt
  have hfirst := hblank (t.hour / 10) (by omega)
  show List.dropWhile Text.isBlank (Nat.digitChar (t.hour / 10) :: _) = _
  rw [List.dropWhile_cons, hfirst]
  rfl

/-- A written range is read as its token, unless a word goes on behind it. -/
theorem readToken_rangeText (start stop : TimeOfDay) {rest : List Char}
    (h : startsInWord rest = false) :
    readToken (rangeText start stop ++ rest) = some (tokenOf start stop, rest) := by
  have hdash : ∀ cs, Text.trimStart ('-' :: cs) = '-' :: cs := fun _ => rfl
  rw [readToken, rangeText, List.append_assoc, List.cons_append, readClock_clockText]
  simp only [Option.bind_eq_bind, Option.bind_some, hdash, Text.expect, if_true,
    trimStart_clockText, readClock_clockText, h]
  rfl

-- ---------------------------------------------------------------------------
-- The scan
-- ---------------------------------------------------------------------------

/-- A word character stands at the end of the text, where `before` says so of an empty one. -/
def endsInWord (before : Bool) : List Char → Bool
  | [] => before
  | c :: cs => endsInWord (Text.isWord c) cs

/-- Characters that belong to a token are passed over. -/
theorem tokensFrom_skip (before : Bool) (taken rest : List Char) :
    tokensFrom before taken.length (taken ++ rest) =
      tokensFrom (endsInWord before taken) 0 rest := by
  induction taken generalizing before with
  | nil => rfl
  | cons c taken ih => exact ih (Text.isWord c)

/-- Where a token is read, the scan goes on behind it. -/
theorem tokensFrom_of_readToken {token : RangeToken} {taken rest : List Char} (hne : taken ≠ [])
    (h : readToken (taken ++ rest) = some (token, rest)) :
    tokensFrom false 0 (taken ++ rest) =
      token :: tokensFrom (endsInWord false taken) 0 rest := by
  cases taken with
  | nil => exact absurd rfl hne
  | cons c taken =>
    rw [List.cons_append] at h ⊢
    -- the first character is passed at once, the others of the token are skipped
    have hlen : (taken ++ rest).length - rest.length = taken.length := by simp
    rw [tokensFrom, if_neg (by simp), h]
    dsimp only
    rw [hlen, tokensFrom_skip]
    rfl

/-- Where no token starts, the scan goes on one character later. -/
theorem tokensFrom_of_readToken_none {c : Char} {cs : List Char} (h : readToken (c :: cs) = none)
    (before : Bool) : tokensFrom before 0 (c :: cs) = tokensFrom (Text.isWord c) 0 cs := by
  rw [tokensFrom, h]
  cases before <;> rfl

/-- A token starts with a digit. -/
theorem readToken_of_not_digit {c : Char} (h : Unicode.isDecimalDigit c = false) (cs : List Char) :
    readToken (c :: cs) = none := by
  have hpair : readPair (c :: cs) = none := by
    cases cs with
    | nil => rfl
    | cons d cs => simp [readPair, h]
  simp [readToken, readClock, hpair]

theorem startsInWord_of_not_word {c : Char} (h : Text.isWord c = false) (cs : List Char) :
    startsInWord (c :: cs) = false := h

/-- A range ends in a digit, and so in a word. -/
theorem endsInWord_rangeText (before : Bool) (start stop : TimeOfDay) :
    endsInWord before (rangeText start stop) = true := by
  have hdigit : stop.minute % 10 < 10 := by omega
  show Text.isWord (Nat.digitChar (stop.minute % 10)) = true
  exact Text.isWord_of_isDecimalDigit (isDecimalDigit_digitChar _ hdigit)

/-- A written range gives its token, and the scan goes on behind it. -/
theorem tokensFrom_rangeText (start stop : TimeOfDay) {rest : List Char}
    (h : startsInWord rest = false) :
    tokensFrom false 0 (rangeText start stop ++ rest) =
      tokenOf start stop :: tokensFrom true 0 rest := by
  have hne : rangeText start stop ≠ [] := by simp [rangeText]
  rw [tokensFrom_of_readToken hne (readToken_rangeText start stop h), endsInWord_rangeText]

/-- A slash ends a word. -/
theorem startsInWord_of_slash {rest : List Char} (h : ∀ c ∈ rest.head?, c = '/') :
    startsInWord rest = false := by
  cases rest with
  | nil => rfl
  | cons c cs =>
    obtain rfl := h c rfl
    rfl

/-- Of texts joined by slashes that give one token each, these tokens are read, in order. -/
theorem tokensFrom_join {α : Type} {text : α → List Char} {token : α → RangeToken}
    (h : ∀ a rest, (∀ c ∈ rest.head?, c = '/') →
      tokensFrom false 0 (text a ++ rest) = token a :: tokensFrom true 0 rest) (l : List α) :
    tokensFrom false 0 (Text.join rangeSeparator.toList (l.map text)) = l.map token := by
  induction l with
  | nil => rfl
  | cons a others ih =>
    cases others with
    | nil =>
      -- the last token ends the text, and with it its last word
      have hlast := h a [] (by simp)
      rw [List.append_nil] at hlast
      exact hlast
    | cons next others =>
      rw [List.map_cons, List.map_cons, Text.join, List.append_assoc]
      · -- behind the token stands a slash, which ends its last word and starts no token
        have hslash : Unicode.isDecimalDigit '/' = false := by decide
        rw [show rangeSeparator.toList = ['/'] from rfl, List.singleton_append,
          h a _ (by simp), tokensFrom_of_readToken_none (readToken_of_not_digit hslash _)]
        exact congrArg _ ih
      · simp

/-- The spans that ranges stand for: those whose start is the earlier time. -/
def spansOf (ranges : List (TimeOfDay × TimeOfDay)) : List Span :=
  ranges.filterMap fun (start, stop) => Span.between? start stop

/-- The spans that are read from written hours are those that the ranges stand for. -/
theorem spans_hoursText {ranges : List (TimeOfDay × TimeOfDay)} (hne : ranges ≠ []) :
    spans (' ' :: hoursText ranges) = spansOf ranges := by
  have hblank : Unicode.isDecimalDigit ' ' = false := by decide
  have hnot : ranges.isEmpty = false := by simpa using hne
  -- no token starts at the blank, and the scan goes on behind it as at the start of a word
  have htokens : tokens (' ' :: hoursText ranges) =
      ranges.map fun (start, stop) => tokenOf start stop := by
    rw [tokens, tokensFrom_of_readToken_none (readToken_of_not_digit hblank _), hoursText, hnot]
    refine tokensFrom_join ?_ ranges
    rintro ⟨start, stop⟩ rest hrest
    exact tokensFrom_rangeText start stop (startsInWord_of_slash hrest)
  have hspan : (RangeToken.span? ∘ fun (start, stop) => tokenOf start stop) =
      fun (start, stop) => Span.between? start stop := by
    funext ⟨start, stop⟩
    exact span?_tokenOf start stop
  rw [spans, htokens, List.filterMap_map, hspan, spansOf]

end OpeningHours.Schedule
