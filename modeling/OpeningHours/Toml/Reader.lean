import OpeningHours.Toml.Value

/-!
# OpeningHours — reading TOML documents

A document is a list of lines, each with a pair, a header, a comment or nothing. Arrays may go over
several lines, tables between braces may not. Keys and nested values are limited in depth.

Statements are taken in order. A header names the table that the following pairs belong to; the way
to it leads through tables of every origin, and into the last element of an array of tables. A
dotted key leads through tables that have no header of their own, and the last of them must be one
that dotted keys made.

* `addPair`         — adds an item under a key, as pairs do.
* `Document.of?`    — the entries of a document with these statements.
* `readStatements`  — the statements of a text.
* `entriesOfText?`  — the entries of a whole document.
-/

namespace OpeningHours.Toml

-- ---------------------------------------------------------------------------
-- Building a document
-- ---------------------------------------------------------------------------

/-- The table has an entry of this name. -/
def hasName (name : String) (entries : Entries) : Bool :=
  entries.any fun e => e.1 = name

/-- Puts an item in the place of the one with this name, or at the end. -/
def setItem (name : String) (item : Item) : Entries → Entries
  | [] => [(name, item)]
  | e :: es => if e.1 = name then (name, item) :: es else e :: setItem name item es

/-- Changes the last element of a list, if there is one and it can be changed. -/
def changeLast {α : Type} (f : α → Option α) : List α → Option (List α)
  | [] => none
  | [a] => (f a).map fun b => [b]
  | a :: as => (changeLast f as).map (a :: ·)

/-- Adds an item under a name and the names on the way to it. -/
def addUnder (name : String) (item : Item) : List String → Entries → Option Entries
  | [], entries => if hasName name entries then none else some (entries ++ [(name, item)])
  | parent :: parents, entries =>
    match entries.lookup parent with
    | none =>
      (addUnder name item parents []).map fun sub => setItem parent (.table .dotted sub) entries
    | some (.table origin sub) =>
      -- the last table on the way must be one that dotted keys made
      if origin = .header ∨ parents = [] ∧ origin ≠ .dotted then none
      else
        (addUnder name item parents sub).map fun sub => setItem parent (.table origin sub) entries
    | some (.tables elements) =>
      if parents = [] then none
      else
        (changeLast (addUnder name item parents) elements).map fun elements =>
          setItem parent (.tables elements) entries
    | some _ => none

/-- Adds an item under a key. -/
def addPair (key : Key) (item : Item) (entries : Entries) : Option Entries :=
  addUnder key.name item key.parents entries

/-- Changes the table that the names of a header lead to. -/
def changeTable (f : Entries → Option Entries) : List String → Entries → Option Entries
  | [], entries => f entries
  | name :: names, entries =>
    match entries.lookup name with
    | none => (changeTable f names []).map fun sub => setItem name (.table .implied sub) entries
    | some (.table origin sub) =>
      (changeTable f names sub).map fun sub => setItem name (.table origin sub) entries
    | some (.tables elements) =>
      (changeLast (changeTable f names) elements).map fun elements =>
        setItem name (.tables elements) entries
    | some _ => none

/-- Gives a table its header, which it must not have yet. -/
def defineTable (name : String) (entries : Entries) : Option Entries :=
  match entries.lookup name with
  | none => some (setItem name (.table .header []) entries)
  | some (.table .implied sub) => some (setItem name (.table .header sub) entries)
  | some _ => none

/-- Opens a new element of an array of tables. -/
def openElement (name : String) (entries : Entries) : Option Entries :=
  match entries.lookup name with
  | none => some (setItem name (.tables [[]]) entries)
  | some (.tables elements) => some (setItem name (.tables (elements ++ [[]])) entries)
  | some _ => none

/-- A document that is being built, with the way to the table that pairs are added to. -/
structure Document where
  entries : Entries
  current : List String

namespace Document

/-- Takes a statement. -/
def take (d : Document) : Statement → Option Document
  | .pair key item =>
    (changeTable (addPair key item) d.current d.entries).map fun es => ⟨es, d.current⟩
  | .header key =>
    (changeTable (defineTable key.name) key.parents d.entries).map fun es =>
      ⟨es, key.parents ++ [key.name]⟩
  | .arrayHeader key =>
    (changeTable (openElement key.name) key.parents d.entries).map fun es =>
      ⟨es, key.parents ++ [key.name]⟩

/-- The entries of the document with these statements. -/
def of? (statements : List Statement) : Option Entries :=
  (statements.foldlM take ⟨[], []⟩).map Document.entries

end Document

-- ---------------------------------------------------------------------------
-- Reading a document
-- ---------------------------------------------------------------------------

/-- The levels that arrays and closed tables may have, and the names of a key. -/
def maxDepth : Nat := 79

/-- The character may stand in a key without quotes. -/
def isBareKeyChar (c : Char) : Bool :=
  c.isAlphanum || c = '-' || c = '_'

/-- Reads one name of a key. -/
def readName (cs : List Char) : Option (String × List Char) :=
  match readKeyText cs with
  | some (name, rest) => some (String.ofList name, rest)
  | none =>
    if (cs.takeWhile isBareKeyChar).isEmpty then none
    else some (String.ofList (cs.takeWhile isBareKeyChar), cs.dropWhile isBareKeyChar)

/-- Reads a key of at most so many names, with the gaps around them. -/
def readKeyUpTo : Nat → List Char → Option (Key × List Char)
  | 0, _ => none
  | count + 1, cs =>
    match readName (skipGaps cs) with
    | none => none
    | some (name, rest) =>
      match skipGaps rest with
      | '.' :: rest =>
        (readKeyUpTo count rest).map fun (key, rest) => (⟨name :: key.parents, key.name⟩, rest)
      | rest => some (⟨[], name⟩, rest)

def readKey (cs : List Char) : Option (Key × List Char) :=
  readKeyUpTo maxDepth cs

/-- Reads gaps, line breaks and comments, each of which a line break must end. -/
def readBlankLines : Nat → List Char → Option (List Char)
  | 0, _ => none
  | fuel + 1, cs =>
    match skipGaps cs with
    | [] => some []
    | c :: rest =>
      if c = '#' ∨ c = '\n' ∨ c = '\r' then
        match readBreak (skipComment (c :: rest)) with
        | some rest => readBlankLines fuel rest
        | none => none
      else some (c :: rest)

/-- Reads the blank lines between the items of an array. -/
def readBetween (cs : List Char) : Option (List Char) :=
  readBlankLines (cs.length + 1) cs

/-- Reads an item that starts with a digit or a sign, or a word for a float. -/
def readNumeric (cs : List Char) : Option (Item × List Char) :=
  match readDate cs with
  | some rest => some (.date, rest)
  | none =>
    match readFloat cs with
    | some rest => some (.real, rest)
    | none => (readInteger cs).map fun (n, rest) => (.integer n, rest)

/-- Reads an item without parts. -/
def readSimple : List Char → Option (Item × List Char)
  | 't' :: 'r' :: 'u' :: 'e' :: rest => some (.boolean true, rest)
  | 'f' :: 'a' :: 'l' :: 's' :: 'e' :: rest => some (.boolean false, rest)
  | cs =>
    match readString cs with
    | some (s, rest) => some (.string (String.ofList s), rest)
    | none => readNumeric cs

mutual

/-- Reads an item with so many levels at most. -/
def readItem : Nat → Nat → List Char → Option (Item × List Char)
  | 0, _, _ => none
  | fuel + 1, depth, cs =>
    match cs with
    | '[' :: rest =>
      if depth = 0 then none
      else (readItems fuel (depth - 1) rest).map fun (items, rest) => (.array items, rest)
    | '{' :: rest =>
      if depth = 0 then none
      else
        match skipGaps rest with
        | '}' :: rest => some (.closedTable [], rest)
        | rest =>
          (readPairs fuel (depth - 1) [] rest).map fun (entries, rest) =>
            (.closedTable entries, rest)
    | cs => readSimple cs

/-- Reads the items of an array up to its closing bracket, a comma before it allowed. -/
def readItems : Nat → Nat → List Char → Option (List Item × List Char)
  | 0, _, _ => none
  | fuel + 1, depth, cs =>
    match readBetween cs with
    | none => none
    | some (']' :: rest) => some ([], rest)
    | some rest =>
      match readItem fuel depth rest with
      | none => none
      | some (item, rest) =>
        match readBetween rest with
        | some (',' :: rest) =>
          (readItems fuel depth rest).map fun (items, rest) => (item :: items, rest)
        | some (']' :: rest) => some ([item], rest)
        | _ => none

/-- Reads the pairs of a closed table up to its closing brace, and adds them to entries. -/
def readPairs : Nat → Nat → Entries → List Char → Option (Entries × List Char)
  | 0, _, _, _ => none
  | fuel + 1, depth, entries, cs =>
    match readKey cs with
    | some (key, '=' :: rest) =>
      match readItem fuel depth (skipGaps rest) with
      | none => none
      | some (item, rest) =>
        match addPair key item entries, skipGaps rest with
        | some entries, ',' :: rest => readPairs fuel depth entries rest
        | some entries, '}' :: rest => some (entries, rest)
        | _, _ => none
    | _ => none

end

/-- Reads a header behind its first bracket. -/
def readHeader (cs : List Char) : Option (Statement × List Char) :=
  match cs with
  | '[' :: rest =>
    match readKey rest with
    | some (key, ']' :: ']' :: rest) => some (.arrayHeader key, rest)
    | _ => none
  | rest =>
    match readKey rest with
    | some (key, ']' :: rest) => some (.header key, rest)
    | _ => none

def readPair (cs : List Char) : Option (Statement × List Char) :=
  match readKey cs with
  | some (key, '=' :: rest) =>
    (readItem (2 * rest.length + 2) maxDepth (skipGaps rest)).map fun (item, rest) =>
      (.pair key item, rest)
  | _ => none

def readStatement : List Char → Option (Statement × List Char)
  | '[' :: rest => readHeader rest
  | cs => readPair cs

/-- Reads the statements of the lines of a text. -/
def readLines : Nat → List Char → Option (List Statement)
  | 0, _ => none
  | fuel + 1, cs =>
    match skipGaps cs with
    | [] => some []
    | c :: rest =>
      if c = '#' ∨ c = '\n' ∨ c = '\r' then
        match readLineEnd (c :: rest) with
        | some rest => readLines fuel rest
        | none => none
      else
        match readStatement (c :: rest) with
        | none => none
        | some (statement, rest) =>
          match readLineEnd rest with
          | some rest => (readLines fuel rest).map (statement :: ·)
          | none => none

/-- The text without the mark for byte order at its start. -/
def skipOrderMark : List Char → List Char
  | '\ufeff' :: rest => rest
  | cs => cs

/-- The statements of a text. -/
def readStatements (cs : List Char) : Option (List Statement) :=
  readLines (cs.length + 1) (skipOrderMark cs)

/-- The entries of a whole document. -/
def entriesOfText? (text : String) : Option Entries :=
  (readStatements text.toList).bind Document.of?

end OpeningHours.Toml
