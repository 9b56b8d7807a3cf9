import OpeningHours.Text
import OpeningHours.TimeOfDay

/-!
# OpeningHours — the notation of schedules

Providers break lines by carriage returns, line feeds, both, or break tags such as `<br>`. All of
them become line feeds: first carriage returns, each together with a line feed behind it, then the
tags of the text that results, which may be written in any case, with blanks and a slash in front of
the closing bracket.

A schedule is written one line per day: the code of the day, a separator, and either the closed mark
or ranges joined by slashes. Lines are joined by line feeds, with none at the end.

A range token is two clocks `HH:MM` with a dash between them and blanks around the dash, where
decimal digits of any script count, and with no word character directly before or after it. The
tokens of a text are found from left to right, each search starting where the token before it ended.
A token stands for a span when its digits are ASCII, its clocks are possible and the first is the
earlier one; other tokens are passed over.

* `unifyBreaks` — the text with line feeds only.
* `tokens`   — the tokens of a text, in order.
* `RangeToken.span?` — the span a token stands for.
* `spans`    — the spans that an hours text names.
-/

namespace OpeningHours.Schedule

-- ---------------------------------------------------------------------------
-- Line breaks
-- ---------------------------------------------------------------------------

/-- The text with a line feed for every carriage return and the line feed behind it. -/
def unifyReturns : List Char → List Char
  | [] => []
  | '\r' :: '\n' :: rest => '\n' :: unifyReturns rest
  | c :: rest => (if c = '\r' then '\n' else c) :: unifyReturns rest

/-- The text behind the closing bracket of a tag, a slash in front of it allowed. -/
def closeTag : List Char → Option (List Char)
  | '/' :: '>' :: rest => some rest
  | '>' :: rest => some rest
  | _ => none

/-- The text behind a break tag. -/
def readBreakTag : List Char → Option (List Char)
  | '<' :: b :: r :: rest =>
    if b.toLower = 'b' ∧ r.toLower = 'r' then closeTag (Text.trimStart rest) else none
  | _ => none

/-- The text with a line feed for every break tag, where `skip` characters still belong to the tag
read last. -/
def unifyTagsFrom : Nat → List Char → List Char
  | _, [] => []
  | skip + 1, _ :: cs => unifyTagsFrom skip cs
  | 0, c :: cs =>
    match readBreakTag (c :: cs) with
    -- the line feed that is written never becomes part of a later tag
    | some rest => '\n' :: unifyTagsFrom (cs.length - rest.length) cs
    | none => c :: unifyTagsFrom 0 cs

/-- The text with line feeds as its only breaks. -/
def unifyBreaks (text : List Char) : List Char :=
  unifyTagsFrom 0 (unifyReturns text)

-- ---------------------------------------------------------------------------
-- The canonical text
-- ---------------------------------------------------------------------------

/-- What stands in place of the hours of a closed day. -/
def closedMark : String := "Fermé"

/-- What stands between the code of a day and its hours. -/
def daySeparator : String := " : "

/-- What stands between two ranges of one day. -/
def rangeSeparator : String := "/"

/-- A range as it is written, whichever of its times is the earlier one. -/
def rangeText (start stop : TimeOfDay) : List Char :=
  start.clockText ++ '-' :: stop.clockText

/-- The hours of a day with these ranges: the closed mark if there are none. -/
def hoursText (ranges : List (TimeOfDay × TimeOfDay)) : List Char :=
  if ranges.isEmpty then closedMark.toList
  else Text.join rangeSeparator.toList (ranges.map fun (start, stop) => rangeText start stop)

def dayLine (d : Weekday) (ranges : List (TimeOfDay × TimeOfDay)) : List Char :=
  d.code.toList ++ daySeparator.toList ++ hoursText ranges

/-- The schedule text with these lines. -/
def ofLines (lines : List (List Char)) : List Char :=
  Text.join ['\n'] lines

-- ---------------------------------------------------------------------------
-- Range tokens
-- ---------------------------------------------------------------------------

/-- Two digits as they are written. -/
structure DigitPair where
  tens : Char
  ones : Char
deriving DecidableEq

/-- The number that two ASCII digits write. -/
def DigitPair.value? (p : DigitPair) : Option Nat :=
  if p.tens.isDigit ∧ p.ones.isDigit then some ((p.tens.toNat - 48) * 10 + (p.ones.toNat - 48))
  else none

/-- A range as it is written: hour and minute of its start and of its end. -/
structure RangeToken where
  startHour : DigitPair
  startMinute : DigitPair
  stopHour : DigitPair
  stopMinute : DigitPair
deriving DecidableEq

/-- The span that a token stands for, if its clocks are possible and in order. -/
def RangeToken.span? (t : RangeToken) : Option Span := do
  let start ← TimeOfDay.ofClock? (← t.startHour.value?) (← t.startMinute.value?)
  let stop ← TimeOfDay.ofClock? (← t.stopHour.value?) (← t.stopMinute.value?)
  Span.between? start stop

/-- Reads two decimal digits. -/
def readPair : List Char → Option (DigitPair × List Char)
  | a :: b :: rest =>
    if Unicode.isDecimalDigit a ∧ Unicode.isDecimalDigit b then some (⟨a, b⟩, rest) else none
  | _ => none

/-- Reads a clock `HH:MM`. -/
def readClock (cs : List Char) : Option ((DigitPair × DigitPair) × List Char) := do
  let (hour, rest) ← readPair cs
  let rest ← Text.expect ':' rest
  let (minute, rest) ← readPair rest
  some ((hour, minute), rest)

/-- The text starts with a word character. -/
def startsInWord : List Char → Bool
  | [] => false
  | c :: _ => Text.isWord c

/-- Reads a range token, whatever stands before it. -/
def readToken (cs : List Char) : Option (RangeToken × List Char) := do
  let ((startHour, startMinute), rest) ← readClock cs
  let rest ← Text.expect '-' (Text.trimStart rest)
  let ((stopHour, stopMinute), rest) ← readClock (Text.trimStart rest)
  if startsInWord rest then none
  else some (⟨startHour, startMinute, stopHour, stopMinute⟩, rest)

/-- The tokens of a text, where `afterWord` says that a word character stands before it and `skip`
characters still belong to the token read last. -/
def tokensFrom (afterWord : Bool) : Nat → List Char → List RangeToken
  | _, [] => []
  | skip + 1, c :: cs => tokensFrom (Text.isWord c) skip cs
  | 0, c :: cs =>
    match if afterWord then none else readToken (c :: cs) with
    -- the search goes on behind the token
    | some (token, rest) => token :: tokensFrom (Text.isWord c) (cs.length - rest.length) cs
    | none => tokensFrom (Text.isWord c) 0 cs

/-- The range tokens of a text, in order. -/
def tokens (cs : List Char) : List RangeToken :=
  tokensFrom false 0 cs

/-- The spans that an hours text names, in order. -/
def spans (hours : List Char) : List Span :=
  (tokens hours).filterMap RangeToken.span?

end OpeningHours.Schedule
