import OpeningHours.Unicode.Decomposition
import OpeningHours.Unicode.LowerCase
import OpeningHours.Unicode.Property

/-!
# OpeningHours — texts

Texts that are taken apart are lists of characters. The characters of the Unicode property
`White_Space` are blank, and blanks are cut away at the ends of a text. A text is cut into pieces at
a separator, and into lines at line feeds. The last line needs no line feed, and a line that has one
also gives up one carriage return in front of it.

Two spellings of a word fold to the same text when they differ only in case or in accents of the
block of combining diacritical marks. Closing words, day names and search words are compared folded.
Word characters are the letters, marks, decimal digits, connectors and joiners of Unicode. The words
of a text are its maximal runs of word characters.

## Results

* `trimStart_eq_nil_iff` — cutting leaves a blank text empty, and only that.
* `pieces_ne_nil`   — there is always a piece.
* `splitOnce_append` — a text is cut at its first separator.
* `leadingDigits_append`, `afterDigits_append` — a run of digits ends at a character that is none.
* `isWord_of_isDecimalDigit` — every decimal digit is a word character.
-/

namespace OpeningHours.Text

-- ---------------------------------------------------------------------------
-- Blanks
-- ---------------------------------------------------------------------------

/-- Ranges of the Unicode property `White_Space`. -/
def blankRanges : Unicode.RangeTable :=
  [(0x9, 0xD), (0x20, 0x20), (0x85, 0x85), (0xA0, 0xA0), (0x1680, 0x1680), (0x2000, 0x200A),
   (0x2028, 0x2029), (0x202F, 0x202F), (0x205F, 0x205F), (0x3000, 0x3000)]

/-- The character is white space. -/
def isBlank (c : Char) : Bool :=
  Unicode.RangeTable.has c.toNat blankRanges

/-- The text without the blanks at its start. -/
def trimStart (cs : List Char) : List Char :=
  cs.dropWhile isBlank

/-- The text without the blanks at its end. -/
def trimEnd (cs : List Char) : List Char :=
  (cs.reverse.dropWhile isBlank).reverse

/-- The text without the blanks at both ends. -/
def trim (cs : List Char) : List Char :=
  trimEnd (trimStart cs)

/-- Cutting leaves a blank text empty, and only that. -/
theorem trimStart_eq_nil_iff {cs : List Char} : trimStart cs = [] ↔ ∀ c ∈ cs, isBlank c = true := by
  induction cs with
  | nil => simp [trimStart]
  | cons c cs ih =>
    rw [trimStart] at ih
    rw [trimStart, List.dropWhile_cons, List.forall_mem_cons]
    split
    · rename_i hc
      exact ih.trans ⟨fun h => ⟨hc, h⟩, And.right⟩
    · rename_i hc
      exact ⟨nofun, fun h => absurd h.1 hc⟩

-- ---------------------------------------------------------------------------
-- Pieces and lines
-- ---------------------------------------------------------------------------

/-- The pieces of a text between the separators, one more than there are separators. -/
def pieces (sep : Char) : List Char → List (List Char)
  | [] => [[]]
  | c :: cs =>
    if c = sep then [] :: pieces sep cs
    else
      match pieces sep cs with
      | [] => [[c]]
      | p :: ps => (c :: p) :: ps

theorem pieces_ne_nil (sep : Char) (cs : List Char) : pieces sep cs ≠ [] := by
  cases cs with
  | nil => simp [pieces]
  | cons c cs =>
    rw [pieces]
    split
    · simp
    · split <;> simp

/-- A line without the carriage return that ends it, if one does. -/
def dropReturn (cs : List Char) : List Char :=
  if cs.getLast? = some '\r' then cs.dropLast else cs

/-- The lines that the pieces between line feeds stand for: all but the last piece were ended by a
line feed, and the last one is a line only if it holds something. -/
def linesOfPieces : List (List Char) → List (List Char)
  | [] => []
  | [last] => if last.isEmpty then [] else [last]
  | p :: ps => dropReturn p :: linesOfPieces ps

/-- The lines of a text. -/
def lines (cs : List Char) : List (List Char) :=
  linesOfPieces (pieces '\n' cs)

/-- What stands before and after the first separator, if there is one. -/
def splitOnce (sep : Char) : List Char → Option (List Char × List Char)
  | [] => none
  | c :: cs =>
    if c = sep then some ([], cs)
    else (splitOnce sep cs).map fun (before, after) => (c :: before, after)

/-- A text is cut at the first separator. -/
theorem splitOnce_append {sep : Char} {before : List Char} (after : List Char)
    (h : sep ∉ before) : splitOnce sep (before ++ sep :: after) = some (before, after) := by
  induction before with
  | nil => simp [splitOnce]
  | cons c before ih =>
    simp only [List.mem_cons, not_or] at h
    simp [splitOnce, Ne.symm h.1, ih h.2]

/-- The texts joined by a separator text. -/
def join (sep : List Char) : List (List Char) → List Char
  | [] => []
  | [p] => p
  | p :: ps => p ++ sep ++ join sep ps

/-- The text occurs in the other one as a run of neighbouring characters. -/
def occursIn (needle : List Char) : List Char → Bool
  | [] => needle.isEmpty
  | c :: cs => needle.isPrefixOf (c :: cs) || occursIn needle cs

-- ---------------------------------------------------------------------------
-- Digits
-- ---------------------------------------------------------------------------

/-- The number that a run of ASCII digits writes, read on from a number. -/
def numberFrom (n : Nat) : List Char → Nat
  | [] => n
  | c :: cs => numberFrom (n * 10 + (c.toNat - 48)) cs

/-- The number that a run of ASCII digits writes. -/
def number (cs : List Char) : Nat :=
  numberFrom 0 cs

/-- A number in decimal digits. -/
def decimal (n : Nat) : String :=
  String.ofList (Nat.toDigits 10 n)

/-- The ASCII digits at the front of a text. -/
def leadingDigits (cs : List Char) : List Char :=
  cs.takeWhile Char.isDigit

/-- The text behind the ASCII digits at its front. -/
def afterDigits (cs : List Char) : List Char :=
  cs.dropWhile Char.isDigit

/-- Reads a number of exactly so many ASCII digits. -/
def readDigits (count : Nat) (cs : List Char) : Option (Nat × List Char) :=
  if (cs.take count).length = count ∧ (cs.take count).all Char.isDigit then
    some (number (cs.take count), cs.drop count)
  else none

/-- Reads a number of at least one ASCII digit, and no further than so many of them. -/
def readUpTo (count : Nat) (cs : List Char) : Option (Nat × List Char) :=
  match leadingDigits (cs.take count) with
  | [] => none
  | ds => some (number ds, cs.drop ds.length)

/-- The value of a hexadecimal digit. -/
def hexValue? (c : Char) : Option Nat :=
  if c.isDigit then some (c.toNat - 48)
  else if 'a' ≤ c ∧ c ≤ 'f' then some (c.toNat - 87)
  else if 'A' ≤ c ∧ c ≤ 'F' then some (c.toNat - 55)
  else none

/-- The number that hexadecimal digits write, read on from a number. -/
def hexNumberFrom? (n : Nat) : List Char → Option Nat
  | [] => some n
  | c :: cs =>
    match hexValue? c with
    | some v => hexNumberFrom? (n * 16 + v) cs
    | none => none

/-- The number that hexadecimal digits write. -/
def hexNumber? (cs : List Char) : Option Nat :=
  hexNumberFrom? 0 cs

/-- Reads one given character. -/
def expect (c : Char) : List Char → Option (List Char)
  | [] => none
  | d :: rest => if d = c then some rest else none

/-- The number that a whole text writes, if it is a run of ASCII digits, a plus sign in front
allowed, and below a bound. -/
def boundedNumber? (bound : Nat) (cs : List Char) : Option Nat :=
  let digits := match cs with
    | '+' :: rest => rest
    | _ => cs
  if digits ≠ [] ∧ digits.all Char.isDigit ∧ number digits < bound then some (number digits)
  else none

section

variable {ds rest : List Char} (hds : ∀ c ∈ ds, c.isDigit = true)
  (hrest : ∀ c, rest.head? = some c → c.isDigit = false)
include hds hrest

/-- A run of digits is taken up to what is none. -/
theorem leadingDigits_append : leadingDigits (ds ++ rest) = ds := by
  rw [leadingDigits, List.takeWhile_append_of_pos hds]
  cases rest with
  | nil => exact List.append_nil ds
  | cons c rest => simp [hrest c rfl]

/-- What is left behind a run of digits. -/
theorem afterDigits_append : afterDigits (ds ++ rest) = rest := by
  rw [afterDigits, List.dropWhile_append_of_pos hds]
  cases rest with
  | nil => rfl
  | cons c rest => simp [hrest c rfl]

end

-- ---------------------------------------------------------------------------
-- Folding case and accents away
-- ---------------------------------------------------------------------------

/-- The character is one of the combining diacritical marks `U+0300` to `U+036F`. -/
def isDiacritic (c : Char) : Bool :=
  0x300 ≤ c.toNat && c.toNat ≤ 0x36F

/-- The text in lower case and without diacritics. -/
def fold (cs : List Char) : List Char :=
  (Unicode.decompose (Unicode.lower cs)).filter fun c => !isDiacritic c

-- ---------------------------------------------------------------------------
-- Words
-- ---------------------------------------------------------------------------

/-- Ranges of the category `Pc`, which joins words into longer ones, and the two joiners. -/
def connectorRanges : Unicode.RangeTable :=
  [(0x5F, 0x5F), (0x200C, 0x200D), (0x203F, 0x2040), (0x2054, 0x2054), (0xFE33, 0xFE34),
   (0xFE4D, 0xFE4F), (0xFF3F, 0xFF3F)]

/-- The character may stand in a word. -/
def isWord (c : Char) : Bool :=
  Unicode.isAlphabetic c || Unicode.isMark c || Unicode.isDecimalDigit c ||
    Unicode.RangeTable.has c.toNat connectorRanges

theorem isWord_of_isDecimalDigit {c : Char} (h : Unicode.isDecimalDigit c = true) :
    isWord c = true := by
  simp [isWord, h]

/-- The words of a text, where `word` holds the run read so far, reversed. -/
def wordsFrom (word : List Char) : List Char → List (List Char)
  | [] => if word.isEmpty then [] else [word.reverse]
  | c :: cs =>
    if isWord c then wordsFrom (c :: word) cs
    else if word.isEmpty then wordsFrom [] cs
    else word.reverse :: wordsFrom [] cs

/-- The maximal runs of word characters of a text, in order. -/
def words (cs : List Char) : List (List Char) :=
  wordsFrom [] cs

end OpeningHours.Text
