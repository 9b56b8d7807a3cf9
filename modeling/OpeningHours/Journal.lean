import OpeningHours.Files
import OpeningHours.Text

/-!
# OpeningHours — the journal

A run reports what it does in entries: a level, the part of the program that speaks, perhaps the
agency or feature it speaks of, and a message.

Entries at or above a least level are shown, and added to a file if one is named. The file may be a
channel of the terminal, where the lines then appear among everything else that is written there. A
file that cannot be written is reported on the terminal and stops nothing.

* `Entry.line`      — an entry as the file has it.
* `Writer.write`    — writes one entry.
* `Writer.writeAll` — writes entries in order.
* `run`             — follows a course of starts and entries.

## Results

* `Writer.write_cases` — all that the writing of one entry can do to the files and the output.
-/

namespace OpeningHours.Journal

-- ---------------------------------------------------------------------------
-- Entries
-- ---------------------------------------------------------------------------

/-- How grave an entry is. -/
inductive Level where
  | debug
  | info
  | warning
  | error
deriving DecidableEq

namespace Level

/-- The levels in ascending order. -/
def rank : Level → Nat
  | debug => 0
  | info => 1
  | warning => 2
  | error => 3

/-- The word for a level in an entry. -/
def label : Level → String
  | debug => "DEBUG"
  | info => "INFO"
  | warning => "WARN"
  | error => "ERROR"

/-- The form in which a level's name is looked up: trimmed, ASCII letters in lower case. -/
def plainName (name : String) : String :=
  String.ofList ((Text.trim name.toList).map Char.toLower)

/-- The level of a name. -/
def ofName? (name : String) : Option Level :=
  match plainName name with
  | "debug" => some debug
  | "info" => some info
  | "warn" => some warning
  | "warning" => some warning
  | "error" => some error
  | _ => none

/-- The complaint about a name that no level has. -/
def unknownText (name : String) : String :=
  "unknown log level '" ++ plainName name ++ "'"

end Level

/-- The part of the program that an entry comes from. -/
inductive Source where
  | feed
  | schedule
  | config
  | system
deriving DecidableEq

/-- The short name of a source. -/
def Source.label : Source → String
  | feed => "FEED"
  | schedule => "HOURS"
  | config => "CFG"
  | system => "SYS"

/-- An entry of the journal. -/
structure Entry where
  level : Level
  source : Source
  subject : Option String
  message : String
deriving DecidableEq

namespace Entry

/-- The source of an entry, with the subject in brackets where there is one. -/
def origin (e : Entry) : String :=
  match e.subject with
  | none => e.source.label
  | some s => e.source.label ++ " [" ++ s ++ "]"

/-- The entry as a line of the journal, without the line feed. -/
def line (stamp : String) (e : Entry) : String :=
  stamp ++ " " ++ e.level.label ++ " " ++ e.origin ++ ": " ++ e.message

/-- The entry as it is shown on a terminal. -/
def notice (e : Entry) : String :=
  match e.level with
  | .error => "   ✗ " ++ e.origin ++ ": " ++ e.message
  | .warning => "   ⚠ " ++ e.origin ++ ": " ++ e.message
  | .info => "   " ++ e.message
  | .debug => "   [DEBUG] " ++ e.origin ++ ": " ++ e.message

end Entry

-- ---------------------------------------------------------------------------
-- Writing entries
-- ---------------------------------------------------------------------------

/-- Which entries are written, and where. -/
structure Writer where
  least : Level
  file : Option String
  /-- The terminal shows the lines of the journal instead of notices. -/
  stamped : Bool

/-- The files, and what was written on the two channels of the terminal. -/
structure Effects where
  files : Files
  output : String
  shown : String

/-- Nothing was written yet. -/
def Effects.ofFiles (files : Files) : Effects :=
  ⟨files, "", ""⟩

/-- Shows a line among the messages. -/
def Effects.show (fx : Effects) (line : String) : Effects :=
  { fx with shown := fx.shown ++ line ++ "\n" }

/-- Writes a text on a channel of the terminal. -/
def Effects.print (fx : Effects) (text : String) : Channel → Effects
  | .output => { fx with output := fx.output ++ text }
  | .messages => { fx with shown := fx.shown ++ text }

/-- Writes a text on a channel, if there is one. -/
def Effects.pass (fx : Effects) (text : String) : Option Channel → Effects
  | none => fx
  | some c => fx.print text c

/-- Channels are not files. -/
@[simp] theorem Effects.files_print (fx : Effects) (text : String) (channel : Channel) :
    (fx.print text channel).files = fx.files := by
  cases channel <;> rfl

@[simp] theorem Effects.files_pass (fx : Effects) (text : String) (channel : Option Channel) :
    (fx.pass text channel).files = fx.files := by
  cases channel with
  | none => rfl
  | some c => exact fx.files_print text c

namespace Writer

/-- The entry is grave enough to be written. -/
def admits (w : Writer) (e : Entry) : Bool :=
  w.least.rank ≤ e.level.rank

/-- What the terminal shows of an entry. -/
def notice (w : Writer) (stamp : String) (e : Entry) : String :=
  if w.stamped then e.line stamp else e.notice

/-- Adds an entry to the journal's file. -/
def store (w : Writer) (stamp : String) (e : Entry) (fx : Effects) : Effects :=
  match w.file with
  | none => fx
  | some path =>
    match fx.files.append path (e.line stamp ++ "\n") with
    | .ok files =>
      { fx with files := files }.pass (e.line stamp ++ "\n") (fx.files.channel? path)
    | .error fault => fx.show ("Failed to write to log file " ++ path ++ ": " ++ fault.text)

/-- Writes an entry if it is grave enough. -/
def write (w : Writer) (stamp : String) (fx : Effects) (e : Entry) : Effects :=
  if w.admits e then w.store stamp e (fx.show (w.notice stamp e)) else fx

/-- Writes entries in order. -/
def writeAll (w : Writer) (stamp : String) (fx : Effects) (entries : List Entry) : Effects :=
  entries.foldl (w.write stamp) fx

/-- Writing an entry leaves the files and the output as they are, for want of gravity, of a file or
of a way to add to it, or it adds the line, which a channel passes on. -/
theorem write_cases (w : Writer) (stamp : String) (e : Entry) (fx : Effects) :
    ((w.write stamp fx e).files = fx.files ∧ (w.write stamp fx e).output = fx.output ∧
      ∀ path files, w.admits e = true → w.file = some path →
        fx.files.append path (e.line stamp ++ "\n") ≠ .ok files) ∨
      ∃ path, w.admits e = true ∧ w.file = some path ∧
        fx.files.append path (e.line stamp ++ "\n") = .ok (w.write stamp fx e).files ∧
        (w.write stamp fx e).output = fx.output ++
          if fx.files.channel? path = some .output then e.line stamp ++ "\n" else "" := by
  rw [write, store]
  split
  · rename_i hadmit
    cases hfile : w.file with
    | none => exact .inl ⟨rfl, rfl, by simp⟩
    | some path =>
      cases happend : fx.files.append path (e.line stamp ++ "\n") with
      | error fault =>
        refine .inl ⟨by simp only [Effects.show, happend], by simp only [Effects.show, happend], ?_⟩
        rintro _ files - ⟨⟩ hadded
        exact absurd (happend.symm.trans hadded) (by simp)
      | ok files =>
        simp only [Effects.show, happend]
        refine .inr ⟨path, hadmit, rfl, by rw [Effects.files_pass, happend], ?_⟩
        rcases fx.files.channel? path with _ | (_ | _) <;> simp [Effects.pass, Effects.print]
  · rename_i hadmit
    exact .inl ⟨rfl, rfl, fun _ _ h => absurd h hadmit⟩

end Writer

/-- A step in the course of a journal. -/
inductive Action where
  /-- Starts writing in a new way. -/
  | start (writer : Writer)
  | record (entry : Entry)

/-- Takes one step: an entry before the first start is lost. -/
def act (stamp : String) : Option Writer × Effects → Action → Option Writer × Effects
  | (_, fx), .start w => (some w, fx)
  | (none, fx), .record _ => (none, fx)
  | (some w, fx), .record e => (some w, w.write stamp fx e)

/-- Follows a course of steps. -/
def run (stamp : String) (state : Option Writer × Effects) (actions : List Action) :
    Option Writer × Effects :=
  actions.foldl (act stamp) state

end OpeningHours.Journal
