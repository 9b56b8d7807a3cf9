import OpeningHours.Json.Tree

/-!
# OpeningHours — reading JSON texts

The strict grammar: four blank characters between the tokens, no comments, no superfluous commas or
zeros, no control characters in strings, and nothing behind the value.

* `readValue` — reads one value and gives the rest of the text.
* `Tree.ofText?` — the tree of a whole text.
-/

namespace OpeningHours.Json

/-- The character may stand between two tokens. -/
def isSpace (c : Char) : Bool :=
  c = ' ' || c = '\n' || c = '\t' || c = '\r'

/-- The text without the blanks at its start. -/
def skipSpace (cs : List Char) : List Char :=
  cs.dropWhile isSpace

/-- Reads the pieces of a string up to its closing quote. -/
def readPieces : List Char → Option (List Piece × List Char)
  | [] => none
  | '"' :: rest => some ([], rest)
  | '\\' :: 'u' :: a :: b :: c :: d :: rest =>
    if (unit? a b c d).isSome then
      (readPieces rest).map fun (ps, rest) => (.unit a b c d :: ps, rest)
    else none
  | '\\' :: letter :: rest =>
    if (ofLetter? letter).isSome then
      (readPieces rest).map fun (ps, rest) => (.short letter :: ps, rest)
    else none
  | c :: rest =>
    if c.toNat < 0x20 ∨ c = '\\' then none
    else (readPieces rest).map fun (ps, rest) => (.plain c :: ps, rest)

/-- Reads a run of digits that holds one at least. -/
def readRun (cs : List Char) : Option (List Char × List Char) :=
  if (Text.leadingDigits cs).isEmpty then none
  else some (Text.leadingDigits cs, Text.afterDigits cs)

/-- Reads the sign in front of a number. -/
def readMinus : List Char → Bool × List Char
  | '-' :: rest => (true, rest)
  | rest => (false, rest)

/-- Reads the fraction of a number, where there is one. -/
def readFraction : List Char → Option (List Char × List Char)
  | '.' :: rest => readRun rest
  | rest => some ([], rest)

/-- Reads the sign of an exponent, no sign being a plus. -/
def readExponentSign : List Char → Bool × List Char
  | '+' :: rest => (false, rest)
  | '-' :: rest => (true, rest)
  | rest => (false, rest)

/-- Reads the exponent of a number, where there is one. -/
def readExponent : List Char → Option (Option Decimal.Exponent × List Char)
  | [] => some (none, [])
  | c :: rest =>
    if c = 'e' ∨ c = 'E' then do
      let (negative, rest) := readExponentSign rest
      let (digits, rest) ← readRun rest
      some (some ⟨negative, digits⟩, rest)
    else some (none, c :: rest)

/-- Reads a number, whose whole part starts with a zero only if it is one. -/
def readNumber (cs : List Char) : Option (Decimal.Literal × List Char) := do
  let (negative, rest) := readMinus cs
  let (whole, rest) ← readRun rest
  if whole.head? = some '0' ∧ whole.length ≠ 1 then none
  else do
    let (fraction, rest) ← readFraction rest
    let (exponent, rest) ← readExponent rest
    some (⟨negative, whole, fraction, exponent⟩, rest)

/-- Reads one given word. -/
def readWord : List Char → List Char → Option (List Char)
  | [], cs => some cs
  | c :: word, cs =>
    match Text.expect c cs with
    | some rest => readWord word rest
    | none => none

mutual

/-- Reads a value with the blanks before it, nested no deeper than the fuel allows. -/
def readValue : Nat → List Char → Option (Tree × List Char)
  | 0, _ => none
  | fuel + 1, cs =>
    match skipSpace cs with
    | [] => none
    | '"' :: rest => (readPieces rest).map fun (ps, rest) => (.string ps, rest)
    | '[' :: rest => do
      match skipSpace rest with
      | ']' :: rest => some (.array [], rest)
      | rest =>
        let (items, rest) ← readItems fuel rest
        some (.array items, rest)
    | '{' :: rest => do
      match skipSpace rest with
      | '}' :: rest => some (.object [], rest)
      | rest =>
        let (members, rest) ← readMembers fuel rest
        some (.object members, rest)
    | 'n' :: rest => (readWord ['u', 'l', 'l'] rest).map fun rest => (.null, rest)
    | 't' :: rest => (readWord ['r', 'u', 'e'] rest).map fun rest => (.bool true, rest)
    | 'f' :: rest => (readWord ['a', 'l', 's', 'e'] rest).map fun rest => (.bool false, rest)
    | rest => (readNumber rest).map fun (l, rest) => (.number l, rest)

/-- Reads the items of an array up to its closing bracket. -/
def readItems : Nat → List Char → Option (List Tree × List Char)
  | 0, _ => none
  | fuel + 1, cs => do
    let (item, rest) ← readValue fuel cs
    match skipSpace rest with
    | ',' :: rest =>
      let (items, rest) ← readItems fuel rest
      some (item :: items, rest)
    | ']' :: rest => some ([item], rest)
    | _ => none

/-- Reads the members of an object up to its closing brace. -/
def readMembers : Nat → List Char → Option (List (List Piece × Tree) × List Char)
  | 0, _ => none
  | fuel + 1, cs => do
    let rest ← Text.expect '"' (skipSpace cs)
    let (key, rest) ← readPieces rest
    let rest ← Text.expect ':' (skipSpace rest)
    let (item, rest) ← readValue fuel rest
    match skipSpace rest with
    | ',' :: rest =>
      let (members, rest) ← readMembers fuel rest
      some ((key, item) :: members, rest)
    | '}' :: rest => some ([(key, item)], rest)
    | _ => none

end

/-- The tree of a whole text. -/
def Tree.ofText? (cs : List Char) : Option Tree :=
  match readValue (2 * cs.length + 1) cs with
  | some (tree, rest) => if (skipSpace rest).isEmpty then some tree else none
  | none => none

end OpeningHours.Json
