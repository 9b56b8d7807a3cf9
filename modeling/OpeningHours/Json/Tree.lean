import OpeningHours.Decimal.Literal
import OpeningHours.Decimal.Shortest
import OpeningHours.Text

/-!
# OpeningHours — JSON texts as trees

A tree is a JSON text without its layout: numbers and strings are kept as they are written, repeated
keys included. What they mean is decided when a value is taken from the tree.

Writing a string escapes quotes, backslashes and control characters, and leaves every other
character as it is. Reading takes every escape that JSON knows, where two units may pair up to one
character. A tree is laid out with one item per line and two blanks per level, where empty arrays
and objects stay closed.

* `Tree.layout` — the tree with one item per line.

## Results

* `decode?_encode` — what is written is read back.
-/

namespace OpeningHours.Json

-- ---------------------------------------------------------------------------
-- Trees
-- ---------------------------------------------------------------------------

/-- One piece of a string, as it is written between the quotes. -/
inductive Piece where
  /-- A character that stands for itself. -/
  | plain (c : Char)
  /-- A backslash and one letter. -/
  | short (letter : Char)
  /-- A backslash, the letter `u` and four hexadecimal digits. -/
  | unit (a b c d : Char)
deriving DecidableEq

/-- A JSON text without its layout. -/
inductive Tree where
  | null
  | bool (b : Bool)
  | number (literal : Decimal.Literal)
  | string (pieces : List Piece)
  | array (items : List Tree)
  | object (members : List (List Piece × Tree))

-- ---------------------------------------------------------------------------
-- The text of strings
-- ---------------------------------------------------------------------------

/-- The letters that may follow a backslash, with the characters they stand for. -/
def shortEscapes : List (Char × Char) :=
  [('"', '"'), ('\\', '\\'), ('/', '/'), ('b', '\x08'), ('f', '\x0c'), ('n', '\n'), ('r', '\r'),
   ('t', '\t')]

/-- The character that a letter behind a backslash stands for. -/
def ofLetter? (letter : Char) : Option Char :=
  (shortEscapes.find? fun e => e.1 = letter).map Prod.snd

/-- The letter that a character is written with behind a backslash, if it must be. -/
def letter? (c : Char) : Option Char :=
  if c = '/' then none else (shortEscapes.find? fun e => e.2 = c).map Prod.fst

/-- The 16-bit unit of four hexadecimal digits. -/
def unit? (a b c d : Char) : Option Nat :=
  Text.hexNumber? [a, b, c, d]

/-- The piece that writes a character. -/
def Piece.ofChar (c : Char) : Piece :=
  match letter? c with
  | some letter => .short letter
  | none =>
    if c.toNat < 0x20 then
      .unit '0' '0' (Nat.digitChar (c.toNat / 16)) (Nat.digitChar (c.toNat % 16))
    else .plain c

/-- The pieces that write a text. -/
def encode (cs : List Char) : List Piece :=
  cs.map Piece.ofChar

/-- The unit is the first half of a pair. -/
def isHighUnit (n : Nat) : Bool := 0xD800 ≤ n && n ≤ 0xDBFF

/-- The unit is the second half of a pair. -/
def isLowUnit (n : Nat) : Bool := 0xDC00 ≤ n && n ≤ 0xDFFF

/-- The character of two units that are a pair. -/
def ofUnits (high low : Nat) : Char :=
  Char.ofNat (0x10000 + (high - 0xD800) * 0x400 + (low - 0xDC00))

/-- The text of the pieces, where `high` is a first half that still waits for its second. -/
def decodeAfter? (high : Option Nat) : List Piece → Option (List Char)
  | [] => if high.isSome then none else some []
  | .plain c :: rest =>
    if high.isSome then none else (decodeAfter? none rest).map (c :: ·)
  | .short letter :: rest =>
    if high.isSome then none
    else
      match ofLetter? letter with
      | some c => (decodeAfter? none rest).map (c :: ·)
      | none => none
  | .unit a b c d :: rest =>
    match unit? a b c d, high with
    | none, _ => none
    | some n, none =>
      -- the first half of a pair waits for the second, which cannot stand alone
      if isHighUnit n then decodeAfter? (some n) rest
      else if isLowUnit n then none
      else (decodeAfter? none rest).map (Char.ofNat n :: ·)
    | some n, some h =>
      if isLowUnit n then (decodeAfter? none rest).map (ofUnits h n :: ·) else none

/-- The text that pieces write, if no half of a pair stands alone. -/
def decode? (pieces : List Piece) : Option (List Char) :=
  decodeAfter? none pieces

/-- The control characters are written as units that stand for them. -/
theorem unit?_of_lt : ∀ n < 0x20,
    unit? '0' '0' (Nat.digitChar (n / 16)) (Nat.digitChar (n % 16)) = some n ∧
      isHighUnit n = false ∧ isLowUnit n = false := by
  decide

/-- A letter stands for the character that it is written for. -/
theorem ofLetter?_of_letter? {c letter : Char} (h : letter? c = some letter) :
    ofLetter? letter = some c := by
  unfold letter? at h
  split at h
  · exact absurd h (by simp)
  · simp only [Option.map_eq_some_iff] at h
    obtain ⟨e, hfind, rfl⟩ := h
    have hmem := List.mem_of_find?_eq_some hfind
    have heq : e.2 = c := by simpa using List.find?_some hfind
    subst heq
    simp only [shortEscapes, List.mem_cons, List.not_mem_nil, or_false] at hmem
    rcases hmem with rfl | rfl | rfl | rfl | rfl | rfl | rfl | rfl <;> rfl

/-- A piece is read as the character that it writes. -/
theorem decodeAfter?_ofChar (c : Char) (rest : List Piece) :
    decodeAfter? none (Piece.ofChar c :: rest) = (decodeAfter? none rest).map (c :: ·) := by
  unfold Piece.ofChar
  split
  · rename_i letter h
    simp [decodeAfter?, ofLetter?_of_letter? h]
  · split
    · rename_i hc
      obtain ⟨hunit, hhigh, hlow⟩ := unit?_of_lt c.toNat hc
      simp [decodeAfter?, hunit, hhigh, hlow, Char.ofNat_toNat]
    · simp [decodeAfter?]

/-- What is written is read back. -/
theorem decode?_encode (cs : List Char) : decode? (encode cs) = some cs := by
  unfold decode? encode
  induction cs with
  | nil => rfl
  | cons c cs ih => rw [List.map_cons, decodeAfter?_ofChar, ih]; rfl

-- ---------------------------------------------------------------------------
-- Laying out a tree
-- ---------------------------------------------------------------------------

/-- The tree of a text. -/
def Tree.ofString (s : String) : Tree :=
  .string (encode s.toList)

/-- The tree of a float, which is null for the values that JSON cannot write. -/
def Tree.ofFloat (x : Float) : Tree :=
  if x.isFinite then .number (.ofFloat x) else .null

/-- The tree of an object with these keys. -/
def Tree.record (members : List (String × Tree)) : Tree :=
  .object (members.map fun (key, tree) => (encode key.toList, tree))

/-- The written form of a piece. -/
def Piece.text : Piece → List Char
  | plain c => [c]
  | short letter => ['\\', letter]
  | unit a b c d => ['\\', 'u', a, b, c, d]

/-- The written form of a string, quotes included. -/
def quoted (pieces : List Piece) : List Char :=
  '"' :: pieces.flatMap Piece.text ++ ['"']

/-- A line feed, and the blanks in front of a line at a level. -/
def newLine (level : Nat) : List Char :=
  '\n' :: List.replicate (2 * level) ' '

mutual

/-- The tree with one item per line, at a level of nesting. -/
def Tree.layoutAt (level : Nat) : Tree → List Char
  | .null => "null".toList
  | .bool true => "true".toList
  | .bool false => "false".toList
  | .number l => l.text
  | .string ps => quoted ps
  | .array [] => ['[', ']']
  | .array (item :: items) =>
    '[' :: newLine (level + 1) ++ Tree.layoutAt (level + 1) item ++
      layoutItems (level + 1) items ++ newLine level ++ [']']
  | .object [] => ['{', '}']
  | .object ((key, item) :: members) =>
    '{' :: newLine (level + 1) ++ quoted key ++ ':' :: ' ' :: Tree.layoutAt (level + 1) item ++
      layoutMembers (level + 1) members ++ newLine level ++ ['}']

/-- The items behind the first one, each behind a comma and on a line of its own. -/
def layoutItems (level : Nat) : List Tree → List Char
  | [] => []
  | item :: items =>
    ',' :: newLine level ++ Tree.layoutAt level item ++ layoutItems level items

/-- The members behind the first one, each behind a comma and on a line of its own. -/
def layoutMembers (level : Nat) : List (List Piece × Tree) → List Char
  | [] => []
  | (key, item) :: members =>
    ',' :: newLine level ++ quoted key ++ ':' :: ' ' :: Tree.layoutAt level item ++
      layoutMembers level members

end

/-- The tree with one item per line. -/
def Tree.layout (tree : Tree) : List Char :=
  tree.layoutAt 0

end OpeningHours.Json
