import OpeningHours.Calendar.Civil
import OpeningHours.Decimal.Literal
import OpeningHours.Text

/-!
# OpeningHours — values in TOML

A document is a tree of tables. A table remembers how it came to be, for that decides what may still
be added to it: a header defines a table once, and implies the tables on the way to it; dotted keys
make tables of their own, which only further dotted keys extend. Numbers with a fraction and dates
are kept without their values, which no setting has.

Strings stand between double quotes with escapes, or between single quotes without. Three quotes
open a string over several lines: a line break right behind them does not count, every break is a
line feed, and up to two quotes may stand in front of the closing ones.

Digits may be grouped by single underscores. Integers are words of 64 bits with a sign, in decimal
or behind `0x`, `0o` and `0b`; decimals other than zero do not start with a zero. Floats have a
fraction, an exponent or both, or are one of the words `inf` and `nan`; one that is too large is
refused. A date, a time, or both with one of `T`, `t` and a space between them may have an offset
behind both. Only their form is checked, as far as each number goes.

* `readString`  — reads a string of any of the four kinds.
* `readKeyText` — reads a string that may be a key.
* `readInteger` — reads an integer.
* `readFloat`   — reads a float, whose value is not kept.
* `readDate`    — reads a date, a time or both.
-/

namespace OpeningHours.Toml

-- ---------------------------------------------------------------------------
-- Items
-- ---------------------------------------------------------------------------

/-- How a table came to be. -/
inductive Origin where
  /-- It has a header of its own, or is an element of an array of tables. -/
  | header
  /-- It lies on the way to a table with a header. -/
  | implied
  /-- It lies on the way of a dotted key. -/
  | dotted
deriving DecidableEq

/-- What stands under a key. -/
inductive Item where
  | string (s : String)
  | integer (n : Int)
  | boolean (b : Bool)
  | real
  | date
  | array (items : List Item)
  /-- A table written between braces, to which nothing is added later. -/
  | closedTable (entries : List (String × Item))
  | table (origin : Origin) (entries : List (String × Item))
  /-- An array of tables, the last of which is being written. -/
  | tables (elements : List (List (String × Item)))

/-- The entries of a table, in the order in which they were written. -/
abbrev Entries := List (String × Item)

/-- A key: the names of the tables on the way, and the name of the entry. -/
structure Key where
  parents : List String
  name : String
deriving DecidableEq

/-- A statement of a document. -/
inductive Statement where
  | pair (key : Key) (item : Item)
  | header (key : Key)
  | arrayHeader (key : Key)

-- ---------------------------------------------------------------------------
-- Strings, comments and line ends
-- ---------------------------------------------------------------------------

open OpeningHours.Text (hexValue? hexNumber?)

/-- The character may stand in comments and strings: no control but the tabulator. -/
def isTextChar (c : Char) : Bool :=
  c = '\t' || (0x20 ≤ c.toNat && c.toNat ≠ 0x7F)

/-- The character is a blank within a line. -/
def isGap (c : Char) : Bool :=
  c = ' ' || c = '\t'

/-- The text without the gaps at its start. -/
def skipGaps (cs : List Char) : List Char :=
  cs.dropWhile isGap

/-- Reads a line break: a line feed, a carriage return in front of it allowed. -/
def readBreak : List Char → Option (List Char)
  | '\n' :: rest => some rest
  | '\r' :: '\n' :: rest => some rest
  | _ => none

/-- The text behind a comment, if the text starts with one. -/
def skipComment : List Char → List Char
  | '#' :: rest => rest.dropWhile isTextChar
  | cs => cs

/-- Reads the end of a line, with gaps and a comment before it. -/
def readLineEnd (cs : List Char) : Option (List Char) :=
  match skipComment (skipGaps cs) with
  | [] => some []
  | rest => readBreak rest

/-- The text behind gaps and line breaks. -/
def skipBreaks : List Char → List Char
  | [] => []
  | '\r' :: '\n' :: rest => skipBreaks rest
  | c :: rest => if c = '\n' ∨ isGap c then skipBreaks rest else c :: rest

/-- Reads a character by its number in so many hexadecimal digits. -/
def readCode (count : Nat) (cs : List Char) : Option (Char × List Char) := do
  if (cs.take count).length = count then
    let n ← hexNumber? (cs.take count)
    if n.isValidChar then some (Char.ofNat n, cs.drop count) else none
  else none

/-- Reads an escape behind its backslash. -/
def readEscape : List Char → Option (Char × List Char)
  | 'b' :: rest => some ('\x08', rest)
  | 't' :: rest => some ('\t', rest)
  | 'n' :: rest => some ('\n', rest)
  | 'f' :: rest => some ('\x0c', rest)
  | 'r' :: rest => some ('\r', rest)
  | '"' :: rest => some ('"', rest)
  | '\\' :: rest => some ('\\', rest)
  | 'u' :: rest => readCode 4 rest
  | 'U' :: rest => readCode 8 rest
  | _ => none

/-- Puts a character in front of a text that was read. -/
def before (c : Char) : List Char × List Char → List Char × List Char
  | (cs, rest) => (c :: cs, rest)

/-- Reads a string of one line up to its closing double quote. -/
def readBasic : Nat → List Char → Option (List Char × List Char)
  | 0, _ => none
  | _ + 1, [] => none
  | fuel + 1, c :: rest =>
    if c = '"' then some ([], rest)
    else if c = '\\' then
      match readEscape rest with
      | some (d, rest) => (readBasic fuel rest).map (before d)
      | none => none
    else if isTextChar c then (readBasic fuel rest).map (before c)
    else none

/-- Reads a string of one line up to its closing single quote. -/
def readLiteral : List Char → Option (List Char × List Char)
  | [] => none
  | c :: rest =>
    if c = '\'' then some ([], rest)
    else if isTextChar c then (readLiteral rest).map (before c)
    else none

/-- Reads a string over several lines up to its three closing quotes. -/
def readLong (quote : Char) (escapes : Bool) : Nat → List Char → Option (List Char × List Char)
  | 0, _ => none
  | _ + 1, [] => none
  | fuel + 1, c :: rest =>
    let run := ((c :: rest).takeWhile (· = quote)).length
    -- of three to five quotes the last three close the string
    if 3 ≤ run then
      let kept := min (run - 3) 2
      some (List.replicate kept quote, (c :: rest).drop (kept + 3))
    else
      match readBreak (c :: rest) with
      | some rest => (readLong quote escapes fuel rest).map (before '\n')
      | none =>
        if escapes ∧ c = '\\' then
          -- a backslash in front of a line break takes away all blanks that follow
          match readBreak (skipGaps rest) with
          | some rest => readLong quote escapes fuel (skipBreaks rest)
          | none =>
            match readEscape rest with
            | some (d, rest) => (readLong quote escapes fuel rest).map (before d)
            | none => none
        else if isTextChar c then (readLong quote escapes fuel rest).map (before c)
        else none

/-- The text behind a line break at its start, if there is one. -/
def skipBreak (cs : List Char) : List Char :=
  (readBreak cs).getD cs

/-- Reads a string of one line. -/
def readKeyText : List Char → Option (List Char × List Char)
  | '"' :: rest => readBasic (rest.length + 1) rest
  | '\'' :: rest => readLiteral rest
  | _ => none

def readString : List Char → Option (List Char × List Char)
  | '"' :: '"' :: '"' :: rest => readLong '"' true (rest.length + 1) (skipBreak rest)
  | '\'' :: '\'' :: '\'' :: rest => readLong '\'' false (rest.length + 1) (skipBreak rest)
  | cs => readKeyText cs

-- ---------------------------------------------------------------------------
-- Numbers
-- ---------------------------------------------------------------------------

open OpeningHours.Decimal (twoTo tenTo signedBound fitsSigned)
open OpeningHours.Text (number)

/-- The digits behind a digit, without their underscores, and the rest. -/
def moreDigits (isDigit : Char → Bool) : List Char → List Char × List Char
  | [] => ([], [])
  | '_' :: c :: rest =>
    if isDigit c then before c (moreDigits isDigit rest) else ([], '_' :: c :: rest)
  | c :: rest => if isDigit c then before c (moreDigits isDigit rest) else ([], c :: rest)

/-- Reads digits, underscores between them allowed. -/
def readGrouped (isDigit : Char → Bool) : List Char → Option (List Char × List Char)
  | [] => none
  | c :: rest => if isDigit c then some (before c (moreDigits isDigit rest)) else none

/-- Reads a sign, and says whether it is a minus. -/
def readSign : List Char → Bool × List Char
  | '+' :: rest => (false, rest)
  | '-' :: rest => (true, rest)
  | rest => (false, rest)

/-- Reads the digits of a decimal without superfluous zeros. -/
def readWhole : List Char → Option (List Char × List Char)
  | '0' :: rest => some (['0'], rest)
  | cs => readGrouped Char.isDigit cs

/-- The number of digits in a base. -/
def numberIn (base : Nat) (ds : List Char) : Nat :=
  ds.foldl (fun n c => n * base + (Text.hexValue? c).getD 0) 0

/-- Reads a number behind the mark of its base. -/
def readBased (base : Nat) (cs : List Char) : Option (Int × List Char) := do
  let (ds, rest) ← readGrouped (fun c => match Text.hexValue? c with
    | some v => v < base
    | none => false) cs
  if numberIn base ds < signedBound then some (numberIn base ds, rest) else none

/-- Reads a decimal integer. -/
def readDecimal (cs : List Char) : Option (Int × List Char) := do
  let (negative, rest) := readSign cs
  let (ds, rest) ← readWhole rest
  let n : Int := if negative then -number ds else number ds
  if fitsSigned n then some (n, rest) else none

def readInteger : List Char → Option (Int × List Char)
  | '0' :: 'x' :: rest => readBased 16 rest
  | '0' :: 'o' :: rest => readBased 8 rest
  | '0' :: 'b' :: rest => readBased 2 rest
  | cs => readDecimal cs

/-- Reads the fraction of a float. -/
def readFraction : List Char → Option (List Char × List Char)
  | '.' :: rest => readGrouped Char.isDigit rest
  | _ => none

/-- Reads the exponent of a float. -/
def readExponent : List Char → Option (Int × List Char)
  | [] => none
  | c :: rest =>
    if c = 'e' ∨ c = 'E' then do
      let (negative, rest) := readSign rest
      let (ds, rest) ← readGrouped Char.isDigit rest
      some (if negative then -number ds else number ds, rest)
    else none

/-- The least number that is too large for a float: half a step above the largest one. -/
def floatBound : Nat := twoTo 1024 - twoTo 970

/-- The number with these digits, its last one counting a power of ten, is too large for a float. -/
def overflows (ds : List Char) (power : Int) : Bool :=
  let significant := ds.dropWhile (· = '0')
  let magnitude : Int := significant.length + power
  if significant.isEmpty ∨ magnitude < 300 then false
  else if 320 < magnitude then true
  else floatBound * tenTo (-power).toNat ≤ number significant * tenTo power.toNat

/-- Reads the fraction and the exponent of a float, one of which may be missing. -/
def readScale (cs : List Char) : Option (List Char × Int × List Char) :=
  match readExponent cs with
  | some (power, rest) => some ([], power, rest)
  | none =>
    match readFraction cs with
    | none => none
    | some (ds, rest) =>
      match readExponent rest with
      | some (power, rest) => some (ds, power, rest)
      | none => some (ds, 0, rest)

/-- Reads one of the words for floats without digits. -/
def readFloatWord : List Char → Option (List Char)
  | 'i' :: 'n' :: 'f' :: rest => some rest
  | 'n' :: 'a' :: 'n' :: rest => some rest
  | _ => none

def readFloatDigits (cs : List Char) : Option (List Char) := do
  let (negative, rest) := readSign cs
  let (whole, rest) ← readWhole rest
  let (fraction, power, rest) ← readScale rest
  -- a number above all floats is refused, one below them is not
  if !negative ∧ overflows (whole ++ fraction) (power - fraction.length) then none else some rest

def readFloat (cs : List Char) : Option (List Char) :=
  match readFloatDigits cs with
  | some rest => some rest
  | none => readFloatWord (readSign cs).2

-- ---------------------------------------------------------------------------
-- Dates and times
-- ---------------------------------------------------------------------------

open OpeningHours.Text (readDigits expect leadingDigits afterDigits)

/-- Reads a date of the calendar. -/
def readDay (cs : List Char) : Option (List Char) := do
  let (year, rest) ← readDigits 4 cs
  let rest ← expect '-' rest
  let (month, rest) ← readDigits 2 rest
  let rest ← expect '-' rest
  let (day, rest) ← readDigits 2 rest
  if Calendar.isDate year month day then some rest else none

/-- Reads the fraction of a second, where there is one. -/
def skipFraction : List Char → Option (List Char)
  | '.' :: rest => if (leadingDigits rest).isEmpty then none else some (afterDigits rest)
  | rest => some rest

/-- Reads a time, sixty seconds allowed. -/
def readTime (cs : List Char) : Option (List Char) := do
  let (hour, rest) ← readDigits 2 cs
  let rest ← expect ':' rest
  let (minute, rest) ← readDigits 2 rest
  let rest ← expect ':' rest
  let (second, rest) ← readDigits 2 rest
  if hour < 24 ∧ minute < 60 ∧ second ≤ 60 then skipFraction rest else none

/-- Reads hours and minutes of an offset. -/
def readOffsetClock (cs : List Char) : Option (List Char) := do
  let (hour, rest) ← readDigits 2 cs
  let rest ← expect ':' rest
  let (minute, rest) ← readDigits 2 rest
  if hour < 24 ∧ minute < 60 then some rest else none

/-- The text behind an offset, if the text starts with one. -/
def skipOffset : List Char → List Char
  | [] => []
  | c :: rest =>
    if c = 'Z' ∨ c = 'z' then rest
    else if c = '+' ∨ c = '-' then (readOffsetClock rest).getD (c :: rest)
    else c :: rest

/-- The text behind a time with its offset, if one follows a date. -/
def skipTimeOfDate : List Char → List Char
  | [] => []
  | c :: rest =>
    if c = 'T' ∨ c = 't' ∨ c = ' ' then
      match readTime rest with
      | some rest => skipOffset rest
      | none => c :: rest
    else c :: rest

/-- Reads a date, a time or both. -/
def readDate (cs : List Char) : Option (List Char) :=
  match readDay cs with
  | some rest => some (skipTimeOfDate rest)
  | none => readTime cs

end OpeningHours.Toml
