import OpeningHours.Text

/-!
# OpeningHours — files

The files that a run can see, as a value: every entry is a file, a folder, a sink or a channel of
the terminal under a path from the root. A path that is asked for is walked name by name from the
working folder, or from the root if it starts with a slash.

* `Files.readText` — the text of a file.
* `Files.append`   — the files after a text was added to the end of one.
* `Files.channel?` — the channel of the terminal that a path leads to.

## Results

* `Files.node?_put` — what is put under a path is found there.
-/

namespace OpeningHours

/-- A channel of the terminal that a run writes to. -/
inductive Channel where
  | output
  | messages
deriving DecidableEq

/-- What stands under a path. -/
inductive Node where
  | file (content : ByteArray)
  | folder
  /-- Takes every text and holds none. -/
  | sink
  /-- Passes every text on to a channel of the terminal. What is read from it was typed there. -/
  | channel (channel : Channel) (typed : ByteArray)

/-- Names from the root on. -/
abbrev Location := List String

/-- The entries of a file system and its working folder; a folder that holds an entry needs none. -/
structure Files where
  working : Location
  entries : List (Location × Node)

/-- Why a file cannot be read or written. -/
inductive FileFault where
  | notFound
  | isFolder
  | notFolder
  | nameTooLong
  | nulInName
  | notText
deriving DecidableEq

/-- The wording of a fault. -/
def FileFault.text : FileFault → String
  | notFound => "No such file or directory (os error 2)"
  | isFolder => "Is a directory (os error 21)"
  | notFolder => "Not a directory (os error 20)"
  | nameTooLong => "File name too long (os error 36)"
  | nulInName => "file name contained an unexpected NUL byte"
  | notText => "stream did not contain valid UTF-8"

/-- What a walk along a path leads to. -/
inductive Place where
  | found (location : Location) (node : Node)
  /-- A name that is free, in a folder that exists. -/
  | free (location : Location)

namespace Files

/-- The longest name of an entry, in bytes. -/
def maxName : Nat := 255

/-- The longest path, in bytes. -/
def maxPath : Nat := 4095

/-- What stands under a location. -/
def node? (files : Files) (location : Location) : Option Node :=
  match files.entries.find? fun e => e.1 = location with
  | some e => some e.2
  | none =>
    if location.isEmpty || location.isPrefixOf files.working ||
        files.entries.any fun e => location.isPrefixOf e.1 then
      some .folder
    else none

/-- The place under a name of a folder. -/
def lookUp (files : Files) (folder : Location) (name : String) : Except FileFault Place :=
  if name = "" ∨ name = "." then .ok (.found folder .folder)
  -- the root is its own parent
  else if name = ".." then .ok (.found folder.dropLast .folder)
  else if maxName < name.utf8ByteSize then .error .nameTooLong
  else
    match files.node? (folder ++ [name]) with
    | some node => .ok (.found (folder ++ [name]) node)
    | none => .ok (.free (folder ++ [name]))

/-- Walks on by one name. -/
def step (files : Files) : Place → String → Except FileFault Place
  | .found location .folder, name => files.lookUp location name
  | .found _ _, _ => .error .notFolder
  | .free _, _ => .error .notFound

/-- Walks along names. -/
def walk (files : Files) (place : Place) : List String → Except FileFault Place
  | [] => .ok place
  | name :: names =>
    match files.step place name with
    | .ok next => files.walk next names
    | .error fault => .error fault

/-- The names of a path, and whether they count from the root. -/
def names (path : String) : Bool × List String :=
  match (Text.pieces '/' path.toList).map String.ofList with
  | "" :: name :: names => (true, name :: names)
  | names => (false, names)

/-- What a path leads to. -/
def resolve (files : Files) (path : String) : Except FileFault Place :=
  if path.toList.contains '\x00' then .error .nulInName
  else if path = "" then .error .notFound
  else if maxPath < path.utf8ByteSize then .error .nameTooLong
  else
    let (fromRoot, names) := names path
    files.walk (.found (if fromRoot then [] else files.working) .folder) names

/-- Something stands under a path. -/
def contains (files : Files) (path : String) : Bool :=
  match files.resolve path with
  | .ok (.found _ _) => true
  | _ => false

/-- The bytes of the file under a path. -/
def read (files : Files) (path : String) : Except FileFault ByteArray :=
  match files.resolve path with
  | .ok (.found _ (.file content)) => .ok content
  | .ok (.found _ .sink) => .ok ByteArray.empty
  | .ok (.found _ (.channel _ typed)) => .ok typed
  | .ok (.found _ .folder) => .error .isFolder
  | .ok (.free _) => .error .notFound
  | .error fault => .error fault

/-- The text of the file under a path. -/
def readText (files : Files) (path : String) : Except FileFault String :=
  match files.read path with
  | .ok content =>
    match String.fromUTF8? content with
    | some text => .ok text
    | none => .error .notText
  | .error fault => .error fault

/-- The files with a node put under a location. -/
def put (files : Files) (location : Location) (node : Node) : Files :=
  { files with entries := (location, node) :: files.entries.filter fun e => e.1 ≠ location }

/-- The path without the slashes at its end. -/
def dropSlashes (path : String) : String :=
  String.ofList (path.toList.reverse.dropWhile (· = '/')).reverse

/-- The files after a text was added to the end of the file under a path, which is made if its name
is free. -/
def append (files : Files) (path text : String) : Except FileFault Files :=
  -- a slash at the end asks for a folder, which takes no text
  if path.toList.getLast? = some '/' ∧ dropSlashes path ≠ "" then
    match files.resolve (dropSlashes path) with
    | .ok _ => .error .isFolder
    | .error fault => .error fault
  else
    match files.resolve path with
    | .ok (.found location (.file content)) =>
      .ok (files.put location (.file (content ++ text.toUTF8)))
    | .ok (.free location) => .ok (files.put location (.file text.toUTF8))
    | .ok (.found _ .sink) => .ok files
    | .ok (.found _ (.channel _ _)) => .ok files
    | .ok (.found _ .folder) => .error .isFolder
    | .error fault => .error fault

/-- The channel of the terminal that a path leads to. -/
def channel? (files : Files) (path : String) : Option Channel :=
  match files.resolve path with
  | .ok (.found _ (.channel c _)) => some c
  | _ => none

/-- What is put under a location is found there. -/
theorem node?_put (files : Files) (location : Location) (node : Node) :
    (files.put location node).node? location = some node := by
  simp [node?, put]

end Files

end OpeningHours
