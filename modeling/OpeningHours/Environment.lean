import OpeningHours.Files
import OpeningHours.Text

/-!
# OpeningHours — environment variables

Variables are set by the caller and by the lines `NAME=value` of a file in the working folder, or in
the next folder above it that has one. A value may be quoted, escape characters by backslashes, and
name variables by a dollar sign, between braces or not. The file is read line by line up to the
first line that is malformed; what was set before it stays, and a variable that is already set wins.
No variable can be set to a value with a NUL in it, and the attempt is not survived.

* `Environment.load` — the variables after the file was read.
-/

namespace OpeningHours

/-- The variables that are set, with their values. -/
abbrev Environment := List (String × String)

namespace Environment

/-- What the lines read so far set: a variable without a value, or with one. -/
abbrev Stored := List (String × Option String)

/-- The value that a name stands for in a value: a variable, else what a line before set. -/
def valueOf (env : Environment) (stored : Stored) (name : List Char) : List Char :=
  match env.lookup (String.ofList name) with
  | some v => v.toList
  | none =>
    match stored.lookup (String.ofList name) with
    | some (some v) => v.toList
    | _ => []

/-- Where in a value the reading stands. -/
inductive Mode where
  /-- Outside of quotes. -/
  | plain
  /-- Between double quotes. -/
  | weak
  /-- Between single quotes. -/
  | strong
  /-- Behind a backslash, in a mode to go back to. -/
  | escape (inWeak : Bool)
  /-- Behind a dollar sign, with the name read so far, reversed. -/
  | name (inWeak : Bool) (read : List Char)
  /-- Behind a dollar sign and a brace, with the name read so far, reversed. -/
  | braced (inWeak : Bool) (read : List Char)
  /-- Behind the value, where only blanks and a comment may follow. -/
  | done
deriving DecidableEq

/-- The mode outside of names and escapes. -/
def Mode.around (inWeak : Bool) : Mode :=
  if inWeak then .weak else .plain

/-- The character that may stand behind a backslash, as it is read. -/
def unescape? (c : Char) : Option Char :=
  if c = 'n' then some '\n'
  else if c = '\\' ∨ c = '\'' ∨ c = '"' ∨ c = '$' ∨ c = ' ' then some c
  else none

/-- The character may stand in a name behind a dollar sign. -/
def isNameChar (c : Char) : Bool :=
  Unicode.isAlphabetic c || Unicode.isNumeric c

/-- What ends the value that was read in a mode, if the value may end there. -/
def endOf (env : Environment) (stored : Stored) : Mode → Option (List Char)
  | .weak => none
  | .strong => none
  | .escape inWeak => if inWeak then none else some []
  | .name inWeak read => if inWeak then none else some (valueOf env stored read.reverse)
  | .braced _ _ => none
  | .plain => some []
  | .done => some []

/-- The mode behind a character outside of names, escapes and single quotes, and what is read. -/
def stepOpen (inWeak : Bool) (c : Char) : Mode × List Char :=
  if c = '$' then (.name inWeak [], [])
  else if c = '\\' then (.escape inWeak, [])
  else if c = '"' then (.around (!inWeak), [])
  else if inWeak then (.weak, [c])
  else if c = '\'' then (.strong, [])
  else if c = ' ' ∨ c = '\t' then (.done, [])
  else (.plain, [c])

/-- The mode behind a character of a name that no brace opened, and what is read. -/
def stepName (env : Environment) (stored : Stored) (inWeak : Bool) (read : List Char) (c : Char) :
    Mode × List Char :=
  if isNameChar c then (.name inWeak (c :: read), [])
  else if c = '\x7b' ∧ read = [] then (.braced inWeak [], [])
  else if c = '$' then (.name inWeak [], valueOf env stored read.reverse)
  else (.around inWeak, valueOf env stored read.reverse ++ [c])

/-- The mode behind a character of a name between braces, and what is read. -/
def stepBraced (env : Environment) (stored : Stored) (inWeak : Bool) (read : List Char)
    (c : Char) : Mode × List Char :=
  if c = '\x7d' then (.around inWeak, valueOf env stored read.reverse)
  else (.braced inWeak (c :: read), [])

/-- Reads a value in a mode. -/
def readValue (env : Environment) (stored : Stored) : Mode → List Char → Option (List Char)
  | mode, [] => endOf env stored mode
  | .done, c :: cs =>
    if c = ' ' ∨ c = '\t' then readValue env stored .done cs
    else if c = '#' then some []
    else none
  | .escape inWeak, c :: cs =>
    match unescape? c with
    | some d => (readValue env stored (.around inWeak) cs).map (d :: ·)
    | none => none
  | .strong, c :: cs =>
    if c = '\'' then readValue env stored .plain cs
    else (readValue env stored .strong cs).map (c :: ·)
  | .name inWeak read, c :: cs =>
    let (mode, text) := stepName env stored inWeak read c
    (readValue env stored mode cs).map (text ++ ·)
  | .braced inWeak read, c :: cs =>
    let (mode, text) := stepBraced env stored inWeak read c
    (readValue env stored mode cs).map (text ++ ·)
  | .weak, c :: cs =>
    let (mode, text) := stepOpen true c
    (readValue env stored mode cs).map (text ++ ·)
  | .plain, c :: cs =>
    let (mode, text) := stepOpen false c
    (readValue env stored mode cs).map (text ++ ·)

/-- The character may start the name of a variable. -/
def isKeyStart (c : Char) : Bool :=
  c.isAlpha || c = '_'

/-- The character may stand in the name of a variable. -/
def isKeyChar (c : Char) : Bool :=
  c.isAlphanum || c = '_' || c = '.'

/-- Reads the name of a variable, with the blanks behind it. -/
def readKey : List Char → Option (String × List Char)
  | [] => none
  | c :: cs =>
    if isKeyStart c then
      some (String.ofList ((c :: cs).takeWhile isKeyChar),
        Text.trimStart ((c :: cs).dropWhile isKeyChar))
    else none

/-- What a line sets. -/
inductive Line where
  | nothing
  | set (name : String) (value : Option String)
deriving DecidableEq

/-- Reads what follows an equals sign. -/
def readAssigned (env : Environment) (stored : Stored) (name : String) (cs : List Char) :
    Option Line :=
  match Text.trimStart cs with
  | [] => some (.set name none)
  | c :: rest =>
    if c = '#' then some (.set name none)
    else (readValue env stored .plain (c :: rest)).map fun v => .set name (some (String.ofList v))

/-- Reads a line: a name and a value, where the word `export` may stand before the name. -/
def readLine (env : Environment) (stored : Stored) (line : List Char) : Option Line :=
  match Text.trim line with
  | [] => some .nothing
  | c :: rest =>
    if c = '#' then some .nothing
    else
      match readKey (c :: rest) with
      | none => none
      | some (name, '=' :: rest) => readAssigned env stored name rest
      | some (name, rest) =>
        -- the word that may stand before a name is itself a name when an equals sign follows it
        if name = "export" then
          match readKey rest with
          | some (name, '=' :: rest) => readAssigned env stored name rest
          | _ => none
        else none

/-- A value that no variable can have, and the name of the variable that was to have it. -/
structure BadVariable where
  name : String
  value : String
deriving DecidableEq

/-- The variables after one more is set, if it is not set yet. -/
def set (env : Environment) (name value : String) : Except BadVariable Environment :=
  if (env.lookup name).isSome then .ok env
  else if value.toList.contains '\x00' then .error ⟨name, value⟩
  else .ok ((name, value) :: env)

/-- The variables after lines were read. -/
def readLines (env : Environment) (stored : Stored) :
    List (List Char) → Except BadVariable Environment
  | [] => .ok env
  | line :: lines =>
    match readLine env stored line with
    | none => .ok env
    | some .nothing => readLines env stored lines
    | some (.set name value) =>
      match env.set name (value.getD "") with
      | .ok env => readLines env ((name, value) :: stored) lines
      | .error bad => .error bad

/-- The longest part at the front of some bytes that are whole lines of text. -/
def textLines : List (List UInt8) → List (List Char)
  | [] => []
  | bytes :: rest =>
    match String.fromUTF8? ⟨bytes.toArray⟩ with
    | some s => s.toList :: textLines rest
    | none => []

/-- The bytes between line feeds. -/
def bytePieces : List UInt8 → List (List UInt8)
  | [] => [[]]
  | b :: bs =>
    if b = 10 then [] :: bytePieces bs
    else
      match bytePieces bs with
      | [] => [[b]]
      | p :: ps => (b :: p) :: ps

/-- The file that sets variables. -/
def fileName : String := ".env"

/-- The content of the file in a folder, if there is one. -/
def contentIn? (files : Files) (folder : Location) : Option ByteArray :=
  match files.node? (folder ++ [fileName]) with
  | some (.file content) => some content
  | _ => none

/-- The content of the file that counts: of the one in the working folder, or else in the next
folder above it that has one. -/
def content? (files : Files) : Option ByteArray :=
  (List.range (files.working.length + 1)).reverse.findSome? fun n =>
    contentIn? files (files.working.take n)

/-- The variables after the file was read. -/
def load (env : Environment) (files : Files) : Except BadVariable Environment :=
  match content? files with
  | some content => readLines env [] (textLines (bytePieces content.toList))
  | none => .ok env

end Environment

end OpeningHours
